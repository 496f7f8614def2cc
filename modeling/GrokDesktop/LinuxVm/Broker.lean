import GrokDesktop.Domain.Basic
import GrokDesktop.Lib.Except
import GrokDesktop.Lib.Ghost
import GrokDesktop.Lib.Hex
import GrokDesktop.Lib.Table

/-!
# The Linux isolation broker

The broker keeps one record for each utility VM, the hypervisor process of each running VM, and the
grants of guest control, behind one lock. `StartVm` gives the lock up while the hypervisor spawns,
and `GuestControl` gives it up once it has read the grant; a section under the lock is one call of
the model, and so is each read that is made without it.

The context of a call, the presence of KVM, the hypervisor, the clock and the guest are the
environment. A process has a number, and the state remembers for each process what became of it.
-/

namespace GrokDesktop.LinuxVm

open Resumption Except

/-! ## Errors, records and requests -/

/-- The errors that the broker's own errors wrap. -/
inductive ErrorKind where
  | unavailable
  | unauthorized
  | invalid
  | notFound
  /-- The error of a context that has ended, or of the guest. -/
  | other
  deriving DecidableEq

/-- An error with the text that is added to it. -/
structure BrokerError where
  kind : ErrorKind
  detail : String
  deriving DecidableEq

inductive VmState where
  | created
  | running
  | stopped
  deriving DecidableEq

structure Image where
  id : String
  relativePath : String
  sha256 : String
  sizeBytes : ℤ

/-- `Vm`, without its workspaces. -/
structure Vm where
  id : String
  imageID : String
  vcpuCount : ℕ
  memoryMiB : ℕ
  state : VmState
  bootID : String
  updatedAt : ℤ
  deriving DecidableEq

structure PeerIdentity where
  uid : ℕ
  pid : ℤ
  executablePath : String
  executableDev : ℕ
  executableIno : ℕ

structure ExecutableIdentity where
  path : String
  dev : ℕ
  ino : ℕ
  deriving DecidableEq

structure QualificationEvidence where
  brokerPackageVerified : Bool
  signedGuestCatalogVerified : Bool
  guestImageVerified : Bool
  hardwareQualified : Bool
  evidenceSHA256 : String

/-- What a service is configured with: the identities it admits, its image root, its evidence, and
which of the dials are set. -/
structure Config where
  imageRoot : String
  allowed : List ExecutableIdentity
  allowedUIDs : List ℕ
  qualification : Option QualificationEvidence
  scheduledRunDial : Bool
  guestHealthDial : Bool
  runnerHealthHook : Bool

structure GuestControlRequest where
  vmID : String
  method : String
  payload : List UInt8

structure GuestControlResponse where
  method : String
  body : List UInt8
  outcome : String

structure ScheduledRunRequest where
  occurrenceID : String
  runID : String
  prompt : String

/-- The operations on paths of the standard library. -/
class PathLibrary where
  clean : String → String
  join : String → String → String

/-! ## Checks -/

/-- `idPattern`: a lower-case letter and up to 62 letters, digits, dots and hyphens. -/
def idPattern (text : String) : Bool :=
  match text.toList with
  | [] => false
  | first :: rest =>
    ('a' ≤ first && first ≤ 'z') && rest.length ≤ 62 &&
      rest.all fun c => ('a' ≤ c && c ≤ 'z') || ('0' ≤ c && c ≤ '9') || c = '.' || c = '-'

def sha256Pattern (text : String) : Bool :=
  text.toList.length = 64 && text.toList.all Hex.isDigit

/-- `scheduledIDPattern`: a letter or digit and up to 127 letters, digits, dots, underscores, colons
and hyphens. -/
def scheduledIDPattern (text : String) : Bool :=
  match text.toList with
  | [] => false
  | first :: rest =>
    isAsciiAlphanumeric first && rest.length ≤ 127 &&
      rest.all fun c => isAsciiAlphanumeric c || c = '.' || c = '_' || c = ':' || c = '-'

/-- `Service.AuthorizePeer`. -/
def authorizePeer [PathLibrary] (config : Config) (peer : PeerIdentity) :
    Except BrokerError Unit := do
  rejectIf (peer.pid ≤ 0) ⟨.unauthorized, "invalid pid"⟩
  rejectIf (peer.uid ∉ config.allowedUIDs) ⟨.unauthorized, "daemon uid not allowlisted"⟩
  rejectIf (peer.executableDev = 0 ∨ peer.executableIno = 0)
    ⟨.unauthorized, "executable identity unavailable"⟩
  rejectIf (⟨PathLibrary.clean peer.executablePath, peer.executableDev, peer.executableIno⟩ ∉
    config.allowed) ⟨.unauthorized, "daemon path not allowlisted"⟩

def completeQualification (evidence : QualificationEvidence) : Bool :=
  evidence.brokerPackageVerified && evidence.signedGuestCatalogVerified &&
    evidence.guestImageVerified && evidence.hardwareQualified &&
    sha256Pattern evidence.evidenceSHA256

/-- `binary.BigEndian`: the number that the bytes spell, the most significant first. -/
def bigEndianValue (bytes : List UInt8) : ℕ := bytes.foldl (fun n b => n * 256 + b.toNat) 0

/-- The text of bytes that are valid UTF-8. -/
def textOfBytes (bytes : List UInt8) : Option String := String.fromUTF8? ⟨bytes.toArray⟩

/-- `decodeScheduledRunPayload`: the magic, then the occurrence, the run and the prompt, each after
its length. -/
def decodeScheduledRunPayload (payload : List UInt8) : Except BrokerError ScheduledRunRequest := do
  rejectIf (payload.length < 8 + 2 + 2 + 4 ∨ payload.take 8 ≠ utf8Bytes "GRKSCH01")
    ⟨.invalid, "invalid scheduled payload"⟩
  let occurrenceLength := bigEndianValue ((payload.drop 8).take 2)
  rejectIf (occurrenceLength < 1 ∨ payload.length < 10 + occurrenceLength + 2 + 4)
    ⟨.invalid, "invalid scheduled occurrence"⟩
  let occurrenceBytes := (payload.drop 10).take occurrenceLength
  let position := 10 + occurrenceLength
  let runLength := bigEndianValue ((payload.drop position).take 2)
  rejectIf (runLength < 1 ∨ payload.length < position + 2 + runLength + 4)
    ⟨.invalid, "invalid scheduled run"⟩
  let runBytes := (payload.drop (position + 2)).take runLength
  let position := position + 2 + runLength
  let promptLength := bigEndianValue ((payload.drop position).take 4)
  rejectIf (promptLength < 1 ∨ 64 * 1024 < promptLength ∨
    position + 4 + promptLength ≠ payload.length) ⟨.invalid, "invalid scheduled prompt"⟩
  let promptBytes := payload.drop (position + 4)
  let invalidFields : BrokerError := ⟨.invalid, "invalid scheduled payload fields"⟩
  let occurrenceID ← okOr (textOfBytes occurrenceBytes) invalidFields
  let runID ← okOr (textOfBytes runBytes) invalidFields
  let prompt ← okOr (textOfBytes promptBytes) invalidFields
  rejectIf (!scheduledIDPattern occurrenceID ∨ !scheduledIDPattern runID ∨ 0 ∈ promptBytes)
    invalidFields
  pure { occurrenceID, runID, prompt }

/-! ## The state behind the lock -/

/-- A process that a spawn returned: for which VM, whether it was alive then, and whether the broker
has killed it. -/
structure Spawned where
  vmID : String
  alive : Bool
  killed : Bool

/-- The state of the service. A record has a number under which a caller keeps it after its VM was
deleted. -/
structure BrokerState where
  images : Table String Image
  vms : Table String ℕ
  records : List Vm
  granted : Table String Bool
  processes : Table String ℕ
  spawned : List Spawned

/-- What `StartVm` finds when it has the lock. -/
inductive StartCheck where
  | missing
  | running (record : ℕ) (process : Option ℕ)
  | invalidState
  | imageMissing
  | proceed (vmCopy : Vm) (imagePath : String)

/-- What a spawn returns: an error, no process, or a process that is alive or not. -/
inductive SpawnResult where
  | failed (error : String)
  | missing
  | process (process : ℕ) (alive : Bool)

/-- The identity of a boot: half of a digest of the VM and the time. -/
def bootIDAt [Sha256Library] (vmID : String) (time : ℤ) : String :=
  String.ofList ((Hex.encode (bigEndian 32 (Sha256Library.digest
    (utf8Bytes (vmID ++ ":" ++ toString time))).toNat)).toList.take 32)

namespace Vm

/-- The record that `CreateVm` makes. -/
def new (vmID imageID : String) (vcpus memoryMiB : ℕ) (now : ℤ) : Vm where
  id := vmID
  imageID := imageID
  vcpuCount := vcpus
  memoryMiB := memoryMiB
  state := .created
  bootID := ""
  updatedAt := now

/-- The record of a VM that `StartVm` has started. -/
def started (vm : Vm) (bootID : String) (now : ℤ) : Vm :=
  { vm with state := .running, bootID := bootID, updatedAt := now }

/-- The record of a VM that `StopVm` has stopped. -/
def halted (vm : Vm) (now : ℤ) : Vm :=
  { vm with state := .stopped, bootID := "", updatedAt := now }

end Vm

namespace BrokerState

variable (s : BrokerState)

def vm? (vmID : String) : Option Vm :=
  (s.vms.lookup vmID).bind fun record => s.records[record]?

def grantedTo (vmID : String) : Bool := (s.granted.lookup vmID).getD false

/-- The state with a new VM. -/
def addRecord (vmID : String) (vm : Vm) : BrokerState :=
  { s with vms := s.vms.insert vmID s.records.length, records := s.records ++ [vm] }

/-- The state with a record changed. -/
def setRecord (record : ℕ) (vm : Vm) : BrokerState :=
  { s with records := s.records.set record vm }

def kill (process : ℕ) : BrokerState :=
  { s with spawned := s.spawned.modify process fun p => { p with killed := true } }

/-- The section of `CreateVm` under the lock. -/
def createVm (vmID imageID : String) (vcpus memoryMiB : ℕ) (now : ℤ) :
    Except BrokerError Vm × BrokerState :=
  if (s.images.lookup imageID).isNone then (.error ⟨.notFound, "image not ensured"⟩, s)
  else if (s.vms.lookup vmID).isSome then (.error ⟨.invalid, "vm exists"⟩, s)
  else
    (.ok (.new vmID imageID vcpus memoryMiB now),
      s.addRecord vmID (.new vmID imageID vcpus memoryMiB now))

/-- The first section of `StartVm` under the lock. -/
def beginStart [PathLibrary] (config : Config) (s : BrokerState) (vmID : String) : StartCheck :=
  match s.vms.lookup vmID with
  | none => .missing
  | some record =>
    match s.records[record]? with
    | none => .missing
    | some vm =>
      if vm.state = .running then .running record (s.processes.lookup vmID)
      else if vm.state ≠ .created ∧ vm.state ≠ .stopped then .invalidState
      else match s.images.lookup vm.imageID with
      | none => .imageMissing
      | some image => .proceed vm (PathLibrary.join config.imageRoot image.relativePath)

/-- The last section of `StartVm` under the lock: a VM that is gone has its new process killed, any
other becomes running with it. -/
def finishStart [Sha256Library] (s : BrokerState) (vmID : String) (process : ℕ) (time now : ℤ) :
    Except BrokerError Vm × BrokerState :=
  match s.vms.lookup vmID with
  | none => (.error ⟨.notFound, "vm"⟩, s.kill process)
  | some record =>
    match s.records[record]? with
    | none => (.error ⟨.notFound, "vm"⟩, s.kill process)
    | some vm =>
      let vm := vm.started (bootIDAt vmID time) now
      (.ok vm, { s.setRecord record vm with processes := s.processes.insert vmID process })

/-- The process of a VM is killed and forgotten. -/
def stopProcess (vmID : String) : BrokerState :=
  match s.processes.lookup vmID with
  | some process => { s.kill process with processes := s.processes.erase vmID }
  | none => s

/-- `StopVm` under the lock. -/
def stopVm (vmID : String) (now : ℤ) : Except BrokerError Vm × BrokerState :=
  match s.vms.lookup vmID with
  | none => (.error ⟨.notFound, "vm"⟩, s)
  | some record =>
    match s.records[record]? with
    | none => (.error ⟨.notFound, "vm"⟩, s)
    | some vm =>
      (.ok (vm.halted now), { (s.stopProcess vmID).setRecord record (vm.halted now) with
        granted := s.granted.erase vmID })

/-- `DeleteVm` under the lock. -/
def deleteVm (vmID : String) : Except BrokerError Unit × BrokerState :=
  match s.vm? vmID with
  | none => (.error ⟨.notFound, "vm"⟩, s)
  | some vm =>
    if vm.state = .running then (.error ⟨.invalid, "stop before delete"⟩, s)
    else (.ok (), { s with vms := s.vms.erase vmID, granted := s.granted.erase vmID })

/-- `GrantGuestControl` under the lock. -/
def grantGuestControl (vmID : String) : Except BrokerError Unit × BrokerState :=
  match s.vm? vmID with
  | none => (.error ⟨.notFound, "vm"⟩, s)
  | some vm =>
    if vm.state ≠ .running then (.error ⟨.invalid, "vm not running"⟩, s)
    else (.ok (), { s with granted := s.granted.insert vmID true })

end BrokerState

/-! ## Calls -/

/-- The sections under the lock, the reads without it, and the calls of the environment. -/
inductive BrokerCall where
  | contextErr
  | kvmReady
  | recordImage (image : Image)
  | createVm (vmID imageID : String) (vcpus memoryMiB : ℕ)
  | beginStart (vmID : String)
  | alive (process : ℕ)
  | readRecord (record : ℕ)
  | spawn (vm : Vm) (imagePath : String)
  | kill (process : ℕ)
  | finishStart (vmID : String) (process : ℕ)
  | stopVm (vmID : String)
  | deleteVm (vmID : String)
  | grantGuestControl (vmID : String)
  | readGrant (vmID : String)
  | readState (record : ℕ)
  | readProcess (vmID : String)
  | readBoot (vmID : String) (record : ℕ)
  | scheduledRunDial (vmID bootID : String) (request : ScheduledRunRequest)
  | guestHealthDial (vmID bootID : String)
  | runnerHealthHook (vmID : String)

abbrev BrokerReply : BrokerCall → Type
  | .contextErr => Option String
  | .kvmReady => Bool
  | .recordImage _ => Unit
  | .createVm _ _ _ _ => Except BrokerError Vm
  | .beginStart _ => StartCheck
  | .alive _ => Bool
  | .readRecord _ => Option Vm
  | .spawn _ _ => SpawnResult
  | .kill _ => Unit
  | .finishStart _ _ => Except BrokerError Vm
  | .stopVm _ => Except BrokerError Vm
  | .deleteVm _ => Except BrokerError Unit
  | .grantGuestControl _ => Except BrokerError Unit
  | .readGrant _ => Bool × Option ℕ
  | .readState _ => Option VmState
  | .readProcess _ => Option ℕ
  | .readBoot _ _ => String
  | .scheduledRunDial _ _ _ => Except String String
  | .guestHealthDial _ _ => Except String (List UInt8)
  | .runnerHealthHook _ => Except String (List UInt8)

abbrev BrokerInterface : Interface := ⟨BrokerCall, BrokerReply⟩

/-- A call of the broker's surface. -/
abbrev BrokerProgram : Type → Type := Program BrokerInterface BrokerError

def request (c : BrokerCall) : BrokerProgram (BrokerReply c) := .call c .done

/-- The errors of the broker as programs. -/
def refuse {α : Type} (kind : ErrorKind) (detail : String) : BrokerProgram α := .fail ⟨kind, detail⟩

/-! ## The surface -/

/-- The checks every call begins with: its context and its peer. -/
def admitPeer [PathLibrary] (config : Config) (peer : PeerIdentity) : BrokerProgram Unit := do
  match ← request .contextErr with
  | some e => refuse .other e
  | none => Program.liftExcept (authorizePeer config peer)

/-- The check of the platform. -/
def requireKvm : BrokerProgram Unit := do
  if ← request .kvmReady then pure () else refuse .unavailable "kvm unavailable"

section Surface

variable [PathLibrary] (config : Config) (peer : PeerIdentity)

/-- `Service.CreateVm`. -/
def createVm (vmID imageID : String) (vcpus memoryMiB : ℕ) : BrokerProgram Vm := do
  admitPeer config peer
  requireKvm
  Program.liftExcept (rejectIf (!idPattern vmID ∨ !idPattern imageID) ⟨.invalid, "invalid id"⟩)
  Program.liftExcept (rejectIf (vcpus = 0 ∨ 16 < vcpus ∨ memoryMiB < 256 ∨ 32 * 1024 < memoryMiB)
    ⟨.invalid, "invalid resources"⟩)
  Program.liftExcept (← request (.createVm vmID imageID vcpus memoryMiB))

/-- The part of `StartVm` after the VM was found ready to start. -/
def spawnVm (vmID : String) (vmCopy : Vm) (imagePath : String) : BrokerProgram Vm := do
  match ← request (.spawn vmCopy imagePath) with
  | .failed e => refuse .unavailable ("hypervisor spawn: " ++ e)
  | .missing => refuse .unavailable "hypervisor process not alive after spawn"
  | .process process alive =>
    if alive then Program.liftExcept (← request (.finishStart vmID process))
    else
      request (.kill process)
      refuse .unavailable "hypervisor process not alive after spawn"

/-- The part of `StartVm` for a VM that runs already. -/
def confirmRunning (record : ℕ) (process : Option ℕ) : BrokerProgram Vm := do
  match process with
  | none => refuse .unavailable "hypervisor process missing"
  | some process =>
    if ← request (.alive process) then
      match ← request (.readRecord record) with
      | some vm => pure vm
      | none => refuse .notFound "vm"
    else refuse .unavailable "hypervisor process missing"

/-- `Service.StartVm`. -/
def startVm (vmID : String) : BrokerProgram Vm := do
  admitPeer config peer
  requireKvm
  match ← request (.beginStart vmID) with
  | .missing => refuse .notFound "vm"
  | .running record process => confirmRunning record process
  | .invalidState => refuse .invalid "invalid state"
  | .imageMissing => refuse .notFound "image not ensured"
  | .proceed vmCopy imagePath => spawnVm vmID vmCopy imagePath

/-- `Service.StopVm`. -/
def stopVm (vmID : String) : BrokerProgram Vm := do
  admitPeer config peer
  Program.liftExcept (← request (.stopVm vmID))

/-- `Service.DeleteVm`. -/
def deleteVm (vmID : String) : BrokerProgram Unit := do
  admitPeer config peer
  Program.liftExcept (← request (.deleteVm vmID))

/-- `Service.GrantGuestControl`. -/
def grantGuestControl (vmID proof : String) : BrokerProgram Unit := do
  admitPeer config peer
  Program.liftExcept (rejectIf (proof.utf8ByteSize < 32)
    ⟨.unauthorized, "proof of possession required"⟩)
  Program.liftExcept (← request (.grantGuestControl vmID))

variable (req : GuestControlRequest)

/-- The `scheduled.run` method of `GuestControl`. -/
def scheduledRun (bootID : String) : BrokerProgram GuestControlResponse := do
  Program.liftExcept (rejectIf (!config.qualification.any completeQualification)
    ⟨.unavailable, "scheduled work is not release-qualified"⟩)
  Program.liftExcept (rejectIf (!config.scheduledRunDial)
    ⟨.unavailable, "scheduled guest dial not configured"⟩)
  let scheduled ← Program.liftExcept (decodeScheduledRunPayload req.payload)
  match ← request (.scheduledRunDial req.vmID bootID scheduled) with
  | .error e => refuse .other e
  | .ok outcome =>
    Program.liftExcept (rejectIf (outcome ≠ "succeeded" ∧ outcome ≠ "failed")
      ⟨.unavailable, "invalid scheduled guest outcome"⟩)
    pure { method := req.method, body := [], outcome := outcome }

/-- The dial of the `runner.health` method of `GuestControl`. -/
def dialHealth (vmID bootID : String) : BrokerProgram (Except String (List UInt8)) :=
  if config.guestHealthDial then request (.guestHealthDial vmID bootID)
  else if config.runnerHealthHook then request (.runnerHealthHook vmID)
  else refuse .unavailable "guest health dial not configured"

/-- The response of the `runner.health` method to what the dial returned. -/
def healthResponse (method : String) :
    Except String (List UInt8) → BrokerProgram GuestControlResponse
  | .error e => refuse .other e
  | .ok body => do
    Program.liftExcept (rejectIf (body = []) ⟨.unavailable, "empty guest health response"⟩)
    pure { method := method, body := body, outcome := "" }

def runnerHealth (bootID : String) : BrokerProgram GuestControlResponse := do
  healthResponse req.method (← dialHealth config req.vmID bootID)

/-- The two methods of `GuestControl`. -/
def controlMethod (bootID : String) : BrokerProgram GuestControlResponse :=
  if req.method = "scheduled.run" then scheduledRun config req bootID
  else runnerHealth config req bootID

/-- The part of `GuestControl` after the VM was found and granted: the reads without the lock. -/
def controlGranted (record : ℕ) : BrokerProgram GuestControlResponse := do
  let state ← request (.readState record)
  Program.liftExcept (rejectIf (state ≠ some .running) ⟨.invalid, "vm not running"⟩)
  let process ← request (.readProcess req.vmID)
  let bootID ← request (.readBoot req.vmID record)
  match process with
  | none => refuse .unavailable "hypervisor process not alive"
  | some process =>
    if ← request (.alive process) then controlMethod config req bootID
    else refuse .unavailable "hypervisor process not alive"

/-- `Service.GuestControl`. -/
def guestControl : BrokerProgram GuestControlResponse := do
  admitPeer config peer
  requireKvm
  Program.liftExcept (rejectIf (req.method ≠ "runner.health" ∧ req.method ≠ "scheduled.run")
    ⟨.invalid, "method not allowlisted"⟩)
  match ← request (.readGrant req.vmID) with
  | (_, none) => refuse .notFound "vm"
  | (granted, some record) =>
    if granted then controlGranted config req record
    else refuse .unauthorized "guest control not granted"

/-- A call of the broker's surface, with any peer and arguments. -/
inductive BrokerClient : BrokerProgram Unit → Prop
  /-- The end of `EnsureImage`, which records an image under the lock. -/
  | ensureImage (image : Image) : BrokerClient (request (.recordImage image))
  | createVm (peer : PeerIdentity) (vmID imageID : String) (vcpus memoryMiB : ℕ) :
      BrokerClient (createVm config peer vmID imageID vcpus memoryMiB).void
  | startVm (peer : PeerIdentity) (vmID : String) : BrokerClient (startVm config peer vmID).void
  | stopVm (peer : PeerIdentity) (vmID : String) : BrokerClient (stopVm config peer vmID).void
  | deleteVm (peer : PeerIdentity) (vmID : String) : BrokerClient (deleteVm config peer vmID)
  | grantGuestControl (peer : PeerIdentity) (vmID proof : String) :
      BrokerClient (grantGuestControl config peer vmID proof)
  | guestControl (peer : PeerIdentity) (req : GuestControlRequest) :
      BrokerClient (guestControl config peer req).void

end Surface

/-! ## The service -/

/-- How the state answers a call. Sections under the lock change it as their functions say; the
reads return what it holds; a spawn that returns a process gives it the next number; and the
environment replies as it likes otherwise. -/
inductive Answers [PathLibrary] [Sha256Library] (config : Config) :
    BrokerState → (c : BrokerCall) → BrokerReply c → BrokerState → Prop
  | contextErr (s : BrokerState) (r : Option String) : Answers config s .contextErr r s
  | kvmReady (s : BrokerState) (r : Bool) : Answers config s .kvmReady r s
  | recordImage (s : BrokerState) (image : Image) :
      Answers config s (.recordImage image) () { s with images := s.images.insert image.id image }
  | createVm (s : BrokerState) (vmID imageID : String) (vcpus memoryMiB : ℕ) (now : ℤ) :
      Answers config s (.createVm vmID imageID vcpus memoryMiB)
        (s.createVm vmID imageID vcpus memoryMiB now).1
        (s.createVm vmID imageID vcpus memoryMiB now).2
  | beginStart (s : BrokerState) (vmID : String) :
      Answers config s (.beginStart vmID) (s.beginStart config vmID) s
  | alive (s : BrokerState) (process : ℕ) (r : Bool) : Answers config s (.alive process) r s
  | readRecord (s : BrokerState) (record : ℕ) :
      Answers config s (.readRecord record) s.records[record]? s
  | spawnFailed (s : BrokerState) (vm : Vm) (imagePath e : String) :
      Answers config s (.spawn vm imagePath) (.failed e) s
  | spawnMissing (s : BrokerState) (vm : Vm) (imagePath : String) :
      Answers config s (.spawn vm imagePath) .missing s
  | spawnProcess (s : BrokerState) (vm : Vm) (imagePath : String) (alive : Bool) :
      Answers config s (.spawn vm imagePath) (.process s.spawned.length alive)
        { s with spawned := s.spawned ++ [⟨vm.id, alive, false⟩] }
  | kill (s : BrokerState) (process : ℕ) : Answers config s (.kill process) () (s.kill process)
  | finishStart (s : BrokerState) (vmID : String) (process : ℕ) (time now : ℤ) :
      Answers config s (.finishStart vmID process) (s.finishStart vmID process time now).1
        (s.finishStart vmID process time now).2
  | stopVm (s : BrokerState) (vmID : String) (now : ℤ) :
      Answers config s (.stopVm vmID) (s.stopVm vmID now).1 (s.stopVm vmID now).2
  | deleteVm (s : BrokerState) (vmID : String) :
      Answers config s (.deleteVm vmID) (s.deleteVm vmID).1 (s.deleteVm vmID).2
  | grantGuestControl (s : BrokerState) (vmID : String) :
      Answers config s (.grantGuestControl vmID) (s.grantGuestControl vmID).1
        (s.grantGuestControl vmID).2
  | readGrant (s : BrokerState) (vmID : String) :
      Answers config s (.readGrant vmID) (s.grantedTo vmID, s.vms.lookup vmID) s
  | readState (s : BrokerState) (record : ℕ) :
      Answers config s (.readState record) (s.records[record]?.map Vm.state) s
  | readProcess (s : BrokerState) (vmID : String) :
      Answers config s (.readProcess vmID) (s.processes.lookup vmID) s
  | readBoot (s : BrokerState) (vmID : String) (record : ℕ) :
      Answers config s (.readBoot vmID record) ((s.records[record]?.map Vm.bootID).getD "") s
  | scheduledRunDial (s : BrokerState) (vmID bootID : String) (request : ScheduledRunRequest)
      (r : Except String String) :
      Answers config s (.scheduledRunDial vmID bootID request) r s
  | guestHealthDial (s : BrokerState) (vmID bootID : String) (r : Except String (List UInt8)) :
      Answers config s (.guestHealthDial vmID bootID) r s
  | runnerHealthHook (s : BrokerState) (vmID : String) (r : Except String (List UInt8)) :
      Answers config s (.runnerHealthHook vmID) r s

/-- The service, with the calls answered only in states that meet the guard. -/
def broker [PathLibrary] [Sha256Library] (config : Config)
    (guard : BrokerState → BrokerCall → Prop) : System BrokerInterface BrokerState where
  answers s c r s' := guard s c ∧ Answers config s c r s'

/-- The service before any call. -/
def BrokerState.initial : BrokerState where
  images := ∅
  vms := ∅
  records := []
  granted := ∅
  processes := ∅
  spawned := []

end GrokDesktop.LinuxVm
