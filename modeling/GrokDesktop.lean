import GrokDesktop.Application.AtMostOnce
import GrokDesktop.Application.PrivilegedReplay
import GrokDesktop.Application.Rails
import GrokDesktop.Application.Streaming
import GrokDesktop.Application.SuperGrok
import GrokDesktop.Desktop.RpcClient
import GrokDesktop.Domain.Histories
import GrokDesktop.Domain.Reload
import GrokDesktop.GuestRunner.CatalogRollback
import GrokDesktop.HostTools.Execute
import GrokDesktop.HostWork.Approvals
import GrokDesktop.HostWork.Context
import GrokDesktop.HostWork.Execution
import GrokDesktop.HostWork.Prompt
import GrokDesktop.HostWork.Start
import GrokDesktop.HostWork.StartupRecovery
import GrokDesktop.LinuxVm.Ownership
import GrokDesktop.Memory.ForkIdempotence
import GrokDesktop.Memory.History
import GrokDesktop.Memory.Lease
import GrokDesktop.Memory.Operations
import GrokDesktop.Memory.Prompts
import GrokDesktop.Memory.Replays
import GrokDesktop.Memory.Slots
import GrokDesktop.Memory.TextAppends
import GrokDesktop.Tenant.Isolation
import GrokDesktop.VmHost.Frame
import GrokDesktop.VmHost.OneInvocation
import GrokDesktop.VmHost.Retry
import GrokDesktop.VmService.StartCleanup
