import GrokDesktop.Lib.Rely
import GrokDesktop.VmService.Records

/-!
# Starting a virtual machine

`startVm` opens the disk and the workspaces, marks the record as starting, grants the compute
system access to the disk, creates and starts the system, connects the guest channel and stores
the running record. Each step can fail, and each failure after the grant has its own compensation.

The HCS client, the path validator, the file system and the guest dialer are the environment: they
may answer every call with a success or with any failure.
-/

namespace GrokDesktop.VmService

open Resumption Resumption.Program
open Except (rejectIf okOr)

/-! ## Calls -/

/-- The roots of validated paths. -/
inductive PathRoot where
  | image
  | workspace

inductive PathKind where
  | file
  | directory

/-- A path that was opened and validated. -/
structure ValidatedPath where
  path : String
  identity : FileIdentity

/-- A compute system as HCS lists it. -/
structure System where
  id : String
  state : String
  runtimeId : String

/-- The guest channel of one run of a virtual machine. -/
structure ChannelKey where
  vmId : String
  runtimeId : String
  purpose : SocketPurpose
  deriving DecidableEq

/-- The steps of a metadata transaction, apart from the opening of its root. -/
inductive MetadataStep where
  | mkdirAll
  | createTemp
  | chmod
  | encode
  | sync
  | close
  | atomicReplace
  deriving DecidableEq

/-- The calls of the service. -/
inductive HcsCall where
  -- the request and the process
  | contextErr
  | closed
  | now
  /-- Waits 50 milliseconds or for the end of the context. -/
  | pause
  -- the records, under the lock of the service
  | loadVm (key : String)
  | loadImage (key : String)
  | storeVm (key : String) (vm : StoredVm)
  -- the metadata file
  | metadata (step : MetadataStep)
  | removeTemp
  -- the path validator
  | openPath (root : PathRoot) (relative : String) (kind : PathKind)
  | revalidate (handle : ValidatedPath)
  -- the HCS client
  | grantVmAccess (hcsId path : String)
  | revokeVmAccess (hcsId path : String)
  | create (hcsId : String) (document : HcsDocument)
  | start (hcsId : String)
  | terminate (hcsId : String)
  | enumerate (owner : String)
  -- the guest channels
  | ensureChannel (key : ChannelKey)
  | closeKey (key : ChannelKey)
  | closeVm (vmId : String)

namespace HcsCall

@[reducible] def Reply : HcsCall → Type
  | contextErr | pause => Option ContextError
  | closed => Bool
  | now => ℕ
  | loadVm _ => Option StoredVm
  | loadImage _ => Option StoredImage
  | storeVm _ _ | removeTemp | closeKey _ | closeVm _ => Unit
  | metadata _ => Except String Unit
  | openPath _ _ _ => Except PathFailure ValidatedPath
  | revalidate _ => Option PathFailure
  | grantVmAccess _ _ | revokeVmAccess _ _ | create _ _ | start _ | terminate _ =>
      Except HcsFailure Unit
  | enumerate _ => Except HcsFailure (List System)
  | ensureChannel _ => Bool

end HcsCall

/-- The interface of the service. -/
abbrev hcsInterface : Interface := ⟨HcsCall, HcsCall.Reply⟩

/-- A function of the service. -/
abbrev HcsService (α : Type) : Type := Program hcsInterface ServiceError α

/-! ## The state -/

/-- The guest channels that the pool has an entry for. -/
structure GuestChannelPool where
  entries : List ChannelKey
  closed : Bool

namespace GuestChannelPool

variable (pool : GuestChannelPool)

def entry (key : ChannelKey) : GuestChannelPool :=
  { pool with entries := if key ∈ pool.entries then pool.entries else key :: pool.entries }

def closeKey (key : ChannelKey) : GuestChannelPool :=
  { pool with entries := pool.entries.filter (· ≠ key) }

def closeVm (vmId : String) : GuestChannelPool :=
  { pool with entries := pool.entries.filter (·.vmId ≠ vmId) }

end GuestChannelPool

/-- The state of the service: its records, the metadata that a transaction has written but not
committed, the committed metadata, and the guest channels. -/
structure HcsState where
  service : ServiceState
  temporary : Option ServiceState
  durable : ServiceState
  channels : GuestChannelPool

def HcsState.storeVm (s : HcsState) (key : String) (vm : StoredVm) : HcsState :=
  { s with service := { s.service with vms := s.service.vms.insert key vm } }

@[simp] lemma HcsState.storeVm_lookup (s : HcsState) (key : String) (vm : StoredVm) :
    (s.storeVm key vm).service.vms.lookup key = some vm := by
  simp [HcsState.storeVm]

/-- What an answered metadata step does. A failed step commits nothing. -/
def HcsState.metadataStep (s : HcsState) : MetadataStep → Except String Unit → HcsState
  | .encode, .ok () => { s with temporary := some s.service }
  | .atomicReplace, .ok () => { s with durable := s.temporary.getD s.durable, temporary := none }
  | _, _ => s

/-- The records and the channels are kept in the state; everything else answers in any way. -/
def hcsSystem : Resumption.System hcsInterface HcsState where
  answers s c r s' :=
    match c, r with
    | .loadVm key, r => r = s.service.vms.lookup key ∧ s' = s
    | .loadImage key, r => r = s.service.images.lookup key ∧ s' = s
    | .storeVm key vm, _ => s' = s.storeVm key vm
    | .metadata step, r => s' = s.metadataStep step r
    | .removeTemp, _ => s' = { s with temporary := none }
    -- a pool that was closed has no entries and takes none
    | .ensureChannel key, connected =>
        if s.channels.closed then connected = false ∧ s' = s
        else s' = { s with channels := s.channels.entry key }
    | .closeKey key, _ => s' = { s with channels := s.channels.closeKey key }
    | .closeVm vmId, _ => s' = { s with channels := s.channels.closeVm vmId }
    | _, _ => s' = s

namespace HcsService

/-- Makes a call. -/
def request (c : HcsCall) : HcsService c.Reply := Program.call c Program.done

/-- Makes a call whose outcome does not matter. -/
def ignore (c : HcsCall) : HcsService Unit := Program.call c fun _ => Program.done ()

/-- Fails with the error when the condition holds. -/
def reject (c : Prop) [Decidable c] (error : ServiceError) : HcsService Unit :=
  Program.liftExcept (rejectIf c error)

/-- Opens a path, or fails with the error of the operation. -/
def openPath (operation : String) (root : PathRoot) (relative : String) (kind : PathKind) :
    HcsService ValidatedPath := do
  Program.liftExcept ((← request (.openPath root relative kind)).mapError
    (pathServiceError operation))

end HcsService

open HcsService

/-! ## Metadata transactions -/

/-- One step of a metadata transaction. -/
def metadataStep (step : MetadataStep) (operation : String) : HcsService Unit := do
  Program.liftExcept ((← request (.metadata step)).mapError fun text =>
    ⟨.unavailable, operation ++ ": " ++ text⟩)

/-- The steps of a transaction that has a temporary file. -/
def commitMetadata : HcsService Unit := do
  metadataStep .chmod "secure metadata transaction"
  metadataStep .encode "encode VM metadata"
  metadataStep .sync "flush VM metadata"
  metadataStep .close "close VM metadata"
  metadataStep .atomicReplace "commit VM metadata"

/-- Writes the metadata to a temporary file and puts it in place of the old one. A failed
transaction removes its temporary file. -/
def persistLocked : HcsService Unit := do
  metadataStep .mkdirAll "create metadata directory"
  let _ ← openPath "validate metadata transaction root" .image ".vm-service" .directory
  metadataStep .createTemp "create metadata transaction"
  match ← commitMetadata.attempt with
  | .ok () => return ()
  | .error error =>
      ignore .removeTemp
      Program.fail error

def clearPendingLocked (key : String) (vm : StoredVm) : HcsService Unit := do
  request (.storeVm key { vm with pendingOperation := none })
  let _ ← persistLocked.attempt

/-! ## Starting -/

variable (config : Config)

def begin (identity : RequestIdentity) : HcsService Unit := do
  match ← request .contextErr with
  | some error => Program.fail (contextErrorMessage error)
  | none => pure ()
  reject ((← request .closed) = true) ⟨.unavailable, "VM service tenant is closed"⟩
  Program.liftExcept (validateRequest identity config.currentUserSid)

/-- The record of a virtual machine that may start, and whose image is still trusted. -/
def startableVm (vmId : String) : HcsService StoredVm := do
  let missing : ServiceError := ⟨.notFound, "VM " ++ quoted vmId ++ " does not exist"⟩
  let vm ← Program.liftExcept (okOr (← request (.loadVm vmId)) missing)
  reject (vm.deleting = true) missing
  reject (vm.state ≠ .created ∧ vm.state ≠ .stopped)
    ⟨.conflict, "VM " ++ quoted vm.id ++ " cannot start from state " ++ quoted vm.state.text⟩
  let image ← Program.liftExcept (okOr (← request (.loadImage vm.imageId))
    ⟨.permissionDenied, "VM source image metadata is unavailable"⟩)
  Program.liftExcept (trustedStoredImage config image)
  return vm

def openDisk (vm : StoredVm) : HcsService ValidatedPath := do
  let disk ← openPath "open VM disk" .image vm.diskRelativePath .file
  reject (disk.identity ≠ vm.diskIdentity) ⟨.permissionDenied, "VM disk identity changed"⟩
  return disk

def openWorkspaces : List StoredWorkspace → HcsService (List (String × ValidatedPath))
  | [] => return []
  | workspace :: rest => do
      let handle ← openPath "open workspace" .workspace workspace.relativePath .directory
      reject (handle.identity ≠ workspace.identity)
        ⟨.permissionDenied, "workspace " ++ quoted workspace.mountId ++ " identity changed"⟩
      return (workspace.mountId, handle) :: (← openWorkspaces rest)

/-- The first failure among the handles. -/
def revalidateAll : List ValidatedPath → HcsService (Option PathFailure)
  | [] => return none
  | handle :: rest => do
      match ← request (.revalidate handle) with
      | some failure => return some failure
      | none => revalidateAll rest

/-- Reads the runtime identity of a running compute system, with at most this many attempts. -/
def runtimeIdWithin (owner hcsId : String) : ℕ → HcsService String
  | 0 => Program.fail ⟨.unavailable, "HCS did not publish a valid running runtime identity"⟩
  | attempts + 1 => do
      let systems ← Program.liftExcept ((← request (.enumerate owner)).mapError
        (hcsServiceError "read HCS runtime identity"))
      match systems.find? fun system => system.id = hcsId && equalFold system.state "Running" &&
          isGuid system.runtimeId with
      | some system => return toLower system.runtimeId
      | none =>
          if 0 < attempts then
            match ← request .pause with
            | some error => Program.fail (contextErrorMessage error)
            | none => runtimeIdWithin owner hcsId attempts
          else runtimeIdWithin owner hcsId attempts

def runtimeId (owner hcsId : String) : HcsService String := runtimeIdWithin owner hcsId 3

/-- The compensation of a start whose compute system may exist. -/
def abandonStart (key : String) (vm : StoredVm) (disk : ValidatedPath) : HcsService Unit := do
  ignore (.terminate vm.hcsId)
  ignore (.revokeVmAccess vm.hcsId disk.path)
  clearPendingLocked key vm

/-- The error of a guest channel that could not be connected. -/
def guestChannelServiceError : HcsService ServiceError := do
  match ← request .contextErr with
  | some error => return contextErrorMessage error
  | none => return ⟨.unavailable, "authenticated guest control channel is unavailable"⟩

/-- Connects the control channel of the started virtual machine, when the service uses one. -/
def connectChannel (key : String) (vm : StoredVm) (disk : ValidatedPath) (runtimeId : String) :
    HcsService Unit := do
  if .control ∈ config.allowedSocketPurposes then
    let channel : ChannelKey := ⟨vm.id, runtimeId, .control⟩
    if (← request (.ensureChannel channel)) = false then
      request (.closeKey channel)
      abandonStart key vm disk
      Program.fail (← guestChannelServiceError)

/-- Stores the record of the running virtual machine. -/
def storeRunning (key : String) (vm : StoredVm) (disk : ValidatedPath) (runtimeId : String) :
    HcsService Vm := do
  let running := { vm with
    state := .running, runtimeId := runtimeId, pendingOperation := none
    updatedAt := ← request .now }
  request (.storeVm key running)
  match ← persistLocked.attempt with
  | .ok () => return running.public
  | .error error =>
      request (.storeVm key { vm with pendingOperation := none })
      request (.closeVm vm.id)
      ignore (.terminate vm.hcsId)
      ignore (.revokeVmAccess vm.hcsId disk.path)
      let _ ← persistLocked.attempt
      Program.fail error

/-- Starts the created compute system and stores the running record. -/
def startSystem (key : String) (vm : StoredVm) (disk : ValidatedPath) : HcsService Vm := do
  match ← request (.start vm.hcsId) with
  | .error failure =>
      -- this compensation does not revoke the access to the disk
      ignore (.terminate vm.hcsId)
      clearPendingLocked key vm
      Program.fail (hcsServiceError "start HCS virtual machine" failure)
  | .ok () =>
      match ← (runtimeId config.owner vm.hcsId).attempt with
      | .error error =>
          abandonStart key vm disk
          Program.fail error
      | .ok runtimeId =>
          connectChannel config key vm disk runtimeId
          storeRunning key vm disk runtimeId

/-- The steps that follow the grant. The record is marked as starting. -/
def launch (key : String) (vm : StoredVm) (disk : ValidatedPath) (workspaces : List ValidatedPath)
    (document : HcsDocument) : HcsService Vm := do
  match ← request (.create vm.hcsId document) with
  | .error failure =>
      abandonStart key vm disk
      Program.fail (hcsServiceError "create HCS virtual machine" failure)
  | .ok () =>
      match ← revalidateAll (disk :: workspaces) with
      | some failure =>
          abandonStart key vm disk
          Program.fail (pathServiceError "revalidate HCS resource" failure)
      | none => startSystem config key vm disk

/-- Marks the record as starting and grants the compute system access to the disk. -/
def grantDisk (key : String) (vm : StoredVm) (disk : ValidatedPath) : HcsService Unit := do
  request (.storeVm key { vm with pendingOperation := some .starting })
  match ← persistLocked.attempt with
  | .error error =>
      request (.storeVm key { vm with pendingOperation := none })
      Program.fail error
  | .ok () =>
      match ← request (.grantVmAccess vm.hcsId disk.path) with
      | .error failure =>
          clearPendingLocked key vm
          Program.fail (hcsServiceError "grant VM disk access" failure)
      | .ok () => return ()

structure StartVmRequest where
  request : RequestIdentity
  vmId : String

def startVm (input : StartVmRequest) : HcsService Vm := do
  begin config input.request
  Program.liftExcept (validateId "vmId" input.vmId)
  let vm ← startableVm config input.vmId
  let disk ← openDisk vm
  let workspaces ← openWorkspaces vm.workspaces
  let document := buildHcsDocument vm disk.path config.owner
    (workspaces.map fun w => ⟨w.1, w.2.path⟩) config.allowedSocketPurposes
  grantDisk input.vmId vm disk
  launch config input.vmId vm disk (workspaces.map Prod.snd) document

end GrokDesktop.VmService
