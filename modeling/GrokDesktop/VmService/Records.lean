import GrokDesktop.Domain.Basic
import GrokDesktop.Lib.Except
import GrokDesktop.Lib.Table

/-!
# Records of the Windows VM service

The records of the privileged VM service: its errors, the images and virtual machines that it
stores, the checks of a request, and the document that it hands to the Host Compute Service (HCS).
-/

namespace GrokDesktop.VmService

open Except (rejectIf)

/-! ## Errors -/

/-- Codes that are stable across transports. -/
inductive ErrorCode where
  | invalidArgument
  | permissionDenied
  | notFound
  | conflict
  | unavailable
  deriving DecidableEq

/-- The service's transport-neutral error shape. -/
structure ServiceError where
  code : ErrorCode
  message : String
  deriving DecidableEq

/-- `ctx.Err()` of a context that has ended. -/
inductive ContextError where
  | canceled
  | deadlineExceeded
  deriving DecidableEq

def ContextError.text : ContextError → String
  | .canceled => "context canceled"
  | .deadlineExceeded => "context deadline exceeded"

def contextErrorMessage (error : ContextError) : ServiceError :=
  ⟨.unavailable, "request context ended: " ++ error.text⟩

/-- Why a path could not be opened or revalidated. -/
inductive PathFailure where
  | notExist
  | permission
  | other
  deriving DecidableEq

def pathServiceError (operation : String) : PathFailure → ServiceError
  | .notExist => ⟨.notFound, operation ++ ": path does not exist"⟩
  | .permission => ⟨.permissionDenied, operation ++ ": access denied"⟩
  | .other => ⟨.permissionDenied, operation ++ ": path validation failed"⟩

/-- Why a call of the HCS client failed. -/
inductive HcsFailure where
  | context (error : ContextError)
  | native (code : UInt32)
  | other (text : String)
  deriving DecidableEq

/-- `0x%08x`. -/
def hex32 (code : UInt32) : String :=
  String.ofList ((List.range 8).map fun i => Nat.digitChar (code.toNat / 16 ^ (7 - i) % 16))

def hcsServiceError (operation : String) : HcsFailure → ServiceError
  | .context error => contextErrorMessage error
  | .native code =>
      if code = 0x8037010e ∨ code = 0xc037010e then
        ⟨.notFound, operation ++ ": HCS system not found"⟩
      else if code = 0x80370105 ∨ code = 0xc0370105 ∨ code = 0x8037010f ∨ code = 0xc037010f ∨
          code = 0x80370110 then
        ⟨.conflict, operation ++ ": HCS state conflict"⟩
      else if code = 0x8037011b then
        ⟨.permissionDenied, operation ++ ": HCS access denied"⟩
      else ⟨.unavailable, operation ++ ": HCS error 0x" ++ hex32 code⟩
  | .other text => ⟨.unavailable, operation ++ ": " ++ text⟩

/-- `%q` of a text without characters that need an escape. -/
def quoted (text : String) : String := "\"" ++ text ++ "\""

/-! ## Texts -/

/-- The letter that simple case folding maps a character to, as far as ASCII letters go. -/
def foldCase (c : Char) : Char :=
  if c = Char.ofNat 0x17f then 's' else if c = Char.ofNat 0x212a then 'k' else c.toLower

/-- `strings.EqualFold` with a text of ASCII characters. -/
def equalFold (a b : String) : Bool := a.toList.map foldCase = b.toList.map foldCase

/-- The pattern `[a-z][a-z0-9.-]{0,62}`. -/
def isId (value : String) : Bool :=
  match value.toList with
  | [] => false
  | c :: rest => c.isLower && rest.length ≤ 62 &&
      rest.all fun c => c.isLower || c.isDigit || c = '.' || c = '-'

/-- The groups of a text between its hyphens. -/
def hyphenGroups (cs : List Char) : List (List Char) := cs.splitOn '-'

/-- The pattern `(?i)s-1-[0-9]+(?:-[0-9]+)+`. -/
def isSid (value : String) : Bool :=
  match hyphenGroups value.toList with
  | [c] :: ['1'] :: numbers =>
      foldCase c = 's' && 2 ≤ numbers.length && numbers.all fun g => g ≠ [] && g.all Char.isDigit
  | _ => false

/-- The pattern `[0-9a-f]` without regard to case. -/
def isHexDigit (c : Char) : Bool :=
  c.isDigit || ('a' ≤ c.toLower && c.toLower ≤ 'f')

/-- The pattern `(?i)[0-9a-f]{8}-[0-9a-f]{4}-[1-5][0-9a-f]{3}-[89ab][0-9a-f]{3}-[0-9a-f]{12}`. -/
def isGuid (value : String) : Bool :=
  match hyphenGroups value.toList with
  | [a, b, v :: c, w :: d, e] =>
      [a, b, c, d, e].all (fun g => g.all isHexDigit) &&
        [a, b, c, d, e].map List.length = [8, 4, 3, 3, 12] &&
        ('1' ≤ v && v ≤ '5') && (w = '8' || w = '9' || w.toLower = 'a' || w.toLower = 'b')
  | _ => false

/-- `strings.ToLower` of an ASCII text. -/
def toLower (value : String) : String := String.ofList (value.toList.map Char.toLower)

/-! ## Requests -/

/-- Who makes a request. -/
structure RequestIdentity where
  requestId : String
  userSid : String

def validateId (kind value : String) : Except ServiceError Unit :=
  rejectIf (isId value = false)
    ⟨.invalidArgument, kind ++ " must match ^[a-z][a-z0-9.-]\x7b0,62\x7d$"⟩

def validateRequest (request : RequestIdentity) (currentUserSid : String) :
    Except ServiceError Unit := do
  rejectIf (request.requestId = "" ∨ 128 < request.requestId.utf8ByteSize)
    ⟨.invalidArgument, "requestId must contain 1 to 128 characters"⟩
  rejectIf (request.requestId.toList.any isControl = true)
    ⟨.invalidArgument, "requestId must not contain control characters"⟩
  rejectIf (isSid request.userSid = false)
    ⟨.invalidArgument, "userSid is not a valid Windows SID"⟩
  rejectIf (equalFold request.userSid currentUserSid = false)
    ⟨.permissionDenied, "request SID does not match the service owner SID"⟩

/-! ## Stored records -/

/-- What identifies a file on a volume. -/
structure FileIdentity where
  volume : ℕ
  fileLow : ℕ
  fileHigh : ℕ
  deriving DecidableEq

/-- An installed guest image. -/
structure StoredImage where
  id : String
  relativePath : String
  sha256 : String
  sizeBytes : ℤ
  identity : FileIdentity

/-- An image of the signed guest catalog. -/
structure OfficialGuestImage where
  sha256 : String
  sizeBytes : ℤ

/-- A workspace that a virtual machine sees. -/
structure WorkspaceAttachment where
  mountId : String
  relativePath : String
  readOnly : Bool
  deriving DecidableEq

/-- An attached workspace and the directory it named when it was attached. -/
structure StoredWorkspace extends WorkspaceAttachment where
  identity : FileIdentity

inductive VmState where
  | created
  | running
  | stopped
  deriving DecidableEq

def VmState.text : VmState → String
  | .created => "created"
  | .running => "running"
  | .stopped => "stopped"

/-- An operation that a crash may interrupt. -/
inductive PendingOperation where
  | starting
  | stopping
  deriving DecidableEq

/-- The stored record of a virtual machine. An empty runtime identity means that there is none. -/
structure StoredVm where
  id : String
  hcsId : String
  imageId : String
  vcpuCount : ℕ
  memoryMiB : ℕ
  state : VmState
  workspaces : List StoredWorkspace
  updatedAt : ℕ
  diskRelativePath : String
  diskIdentity : FileIdentity
  runtimeId : String
  pendingOperation : Option PendingOperation
  deleting : Bool

/-- What a caller sees of a virtual machine. -/
structure Vm where
  id : String
  imageId : String
  vcpuCount : ℕ
  memoryMiB : ℕ
  state : VmState
  workspaces : List WorkspaceAttachment
  updatedAt : ℕ

def StoredVm.public (vm : StoredVm) : Vm where
  id := vm.id
  imageId := vm.imageId
  vcpuCount := vm.vcpuCount
  memoryMiB := vm.memoryMiB
  state := vm.state
  workspaces := vm.workspaces.map StoredWorkspace.toWorkspaceAttachment
  updatedAt := vm.updatedAt

/-- The metadata of the service. -/
structure ServiceState where
  images : Table String StoredImage
  vms : Table String StoredVm

/-! ## Configuration -/

/-- The purposes for which a guest socket may be used. -/
inductive SocketPurpose where
  | control
  | computerUseV1
  deriving DecidableEq

/-- The Hyper-V service of a socket purpose. -/
def SocketPurpose.serviceId : SocketPurpose → String
  | .control => "00000fd2-facb-11e6-bd58-64006a7986d3"
  | .computerUseV1 => "00000fd3-facb-11e6-bd58-64006a7986d3"

/-- The configuration of the service. -/
structure Config where
  currentUserSid : String
  owner : String
  allowedSocketPurposes : List SocketPurpose
  guestImagePolicy : Table String OfficialGuestImage

/-- The image is the one of the signed guest catalog. -/
def trustedStoredImage (config : Config) (image : StoredImage) : Except ServiceError Unit :=
  let mismatch : ServiceError :=
    ⟨.permissionDenied, "image metadata does not match the signed guest catalog"⟩
  match config.guestImagePolicy.lookup image.id with
  | none => .error mismatch
  | some trusted =>
      rejectIf (image.sha256 ≠ trusted.sha256 ∨ image.sizeBytes ≠ trusted.sizeBytes) mismatch

/-! ## The compute system document -/

/-- A workspace and the path it was resolved to. -/
structure ResolvedWorkspace where
  mountId : String
  path : String

/-- A shared directory of a compute system. -/
structure Plan9Share where
  accessName : String
  flags : ℕ
  name : String
  path : String
  port : ℕ

/-- A socket service of a compute system. -/
structure SocketService where
  serviceId : String
  bindSecurityDescriptor : String
  connectSecurityDescriptor : String

/-- What a compute system is created from. -/
structure HcsDocument where
  owner : String
  schemaVersion : ℕ × ℕ
  bootDevicePath : String
  memorySizeInMb : ℕ
  processorCount : ℕ
  diskPath : String
  shares : List Plan9Share
  defaultSecurityDescriptor : String
  services : List SocketService

def plan9Port : ℕ := 564

/-- Read only, with Linux metadata. -/
def plan9ShareFlags : ℕ := 0x1 ||| 0x4

def denyAllDescriptor : String := "D:P(D;;GA;;;WD)"

def localSystemDescriptor : String := "D:P(A;;GA;;;SY)"

def buildHcsDocument (vm : StoredVm) (diskPath owner : String)
    (workspaces : List ResolvedWorkspace) (purposes : List SocketPurpose) : HcsDocument where
  owner := owner
  schemaVersion := (2, 1)
  bootDevicePath := "Primary disk"
  memorySizeInMb := vm.memoryMiB
  processorCount := vm.vcpuCount
  diskPath := diskPath
  shares := (workspaces.mergeSort fun a b => a.mountId ≤ b.mountId).map fun workspace =>
    { accessName := workspace.mountId
      flags := plan9ShareFlags
      name := workspace.mountId
      path := workspace.path
      port := plan9Port }
  defaultSecurityDescriptor := denyAllDescriptor
  services := purposes.map fun purpose =>
    { serviceId := purpose.serviceId
      bindSecurityDescriptor := localSystemDescriptor
      connectSecurityDescriptor := localSystemDescriptor }

end GrokDesktop.VmService
