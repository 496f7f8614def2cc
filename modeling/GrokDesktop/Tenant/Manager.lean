import GrokDesktop.Lib.Cells
import GrokDesktop.Lib.Ghost
import GrokDesktop.Lib.Hex
import GrokDesktop.VmHost.Envelope

/-!
# The tenant manager

The privileged host serves several Windows users, each through a backend of its own. `Resolve` finds
the backend of the authenticated user or has it created; the creation runs outside the lock, and
other calls for the same user wait for it. `Close` stops the manager, waits for the creations that
are under way and closes the backends.

A section under the lock is one call of the model. The contexts of the calls, the preparation of the
storage, the factory and the backends are the environment. Entries and backends have numbers, and
the state remembers what became of each backend.
-/

namespace GrokDesktop.Tenant

open Resumption Except
open VmService (ServiceError ContextError)

/-! ## Identities and storage -/

/-- The directories that a tenant has below its own. -/
def tenantDirectories : List (List String) :=
  [[], ["images"], ["images", "staging"], ["workspaces"]]

/-- Functions of the standard library on texts and paths. Tenants whose names are different digits
have different directories. -/
class TenantLibrary where
  isAbs : String → Bool
  clean : String → String
  separator : String
  join : String → String → String
  toUpper : String → String
  join_inj : ∀ path a b : String,
    a.toList.all Hex.isDigit = true → b.toList.all Hex.isDigit = true →
    ∀ below ∈ tenantDirectories,
      below.foldl join (join path a) = below.foldl join (join path b) → a = b

/-- The identity of a peer, with the facts of its token that the eligibility check reads. -/
structure PeerIdentity extends VmHost.PeerIdentity where
  interactive : Bool
  network : Bool

/-- `transportSIDPattern`: the letter in any case, also as a long s, and numbers between hyphens. -/
def sidPattern (sid : String) : Bool :=
  match sid.toList with
  | s :: '-' :: '1' :: '-' :: rest =>
    (s = 's' || s = 'S' || s = 'ſ') && 2 ≤ (rest.splitOn '-').length &&
      (rest.splitOn '-').all fun group => !group.isEmpty && group.all Char.isDigit
  | _ => false

section

variable [TenantLibrary]

/-- `transport.ValidatePeerIdentity`. -/
def validatePeerIdentity (identity : PeerIdentity) (allowDevelopment : Bool) :
    Except String Unit := do
  rejectIf (!sidPattern identity.userSid) "peer identity is not a canonical Windows user identity"
  let canonical := TenantLibrary.toUpper identity.userSid
  rejectIf (canonical ∈ ["S-1-5-7", "S-1-5-18", "S-1-5-19", "S-1-5-20"])
    "service and anonymous identities are not permitted"
  rejectIf (canonical.startsWith "S-1-5-80-" ∨ canonical.startsWith "S-1-5-82-")
    "virtual service identities are not permitted"
  if identity.method = .development ∧ allowDevelopment then pure ()
  else do
    rejectIf (identity.method ≠ .windowsNamedPipe) "peer authentication method is not permitted"
    rejectIf (identity.sessionId = 0) "session zero identities are not permitted"
    rejectIf (identity.authenticationId = 0) "peer token has no logon proof"
    rejectIf (identity.impersonationLevel ≠ 1) "peer token must grant identification only"
    rejectIf (!identity.interactive ∨ identity.network)
      "only local interactive logons are permitted"

structure StorageRoots where
  tenantRoot : String
  imageRoot : String
  stagingRoot : String
  workspaceRoot : String
  deriving DecidableEq

/-- The name of a tenant's directory. -/
def tenantName [Sha256Library] (sid : String) : String :=
  Hex.encode (bigEndian 32
    (Sha256Library.digest (utf8Bytes (TenantLibrary.toUpper sid))).toNat)

/-- The roots that `DeriveStorageRoots` returns for an identity it accepts. -/
def storageRoots [Sha256Library] (dataRoot sid : String) : StorageRoots :=
  let join := TenantLibrary.join
  let tenantRoot := join (join (TenantLibrary.clean dataRoot) "tenants") (tenantName sid)
  { tenantRoot := tenantRoot
    imageRoot := join tenantRoot "images"
    stagingRoot := join (join tenantRoot "images") "staging"
    workspaceRoot := join tenantRoot "workspaces" }

/-- The identity that `DeriveStorageRoots` checks: a user without a token. -/
def developmentIdentity (sid : String) : PeerIdentity where
  userSid := sid
  sessionId := 0
  authenticationId := 0
  impersonationLevel := 0
  clientProcessId := 0
  clientProcessStart := 0
  packagedDesktopQualified := false
  guestControlQualified := false
  method := .development
  interactive := false
  network := false

def deriveStorageRoots [Sha256Library] (dataRoot sid : String) : Except String StorageRoots := do
  rejectIf (!TenantLibrary.isAbs dataRoot ∨
    TenantLibrary.clean dataRoot = TenantLibrary.separator)
    "data root is not an absolute service directory"
  rejectIf (validatePeerIdentity (developmentIdentity sid) true ≠ .ok ())
    "tenant identity is invalid"
  pure (storageRoots dataRoot sid)

end

/-! ## The state behind the lock -/

/-- The fields of a backend's configuration that depend on its tenant. -/
structure BackendConfig where
  currentUserSid : String
  imageRoot : String
  workspaceRoot : String
  deriving DecidableEq

/-- A backend that the factory returned: its configuration, how often it was asked to close, whether
it has closed, and whether its creation ended too late for it to be used. -/
structure Backend where
  config : BackendConfig
  closes : ℕ
  closed : Bool
  discarded : Bool

/-- An entry of the manager. It is ready when its creation has ended, with a service or an error. -/
structure TenantEntry where
  ready : Bool
  service : Option ℕ

/-- The state of the manager. `creations` is the count of its wait group, and `stopped` says whether
a call of `Close` has returned without an error. -/
structure TenantState where
  closed : Bool
  entries : Table String ℕ
  cells : List TenantEntry
  creations : ℕ
  backends : List Backend
  stopped : Bool

/-- What `Resolve` finds when it has the lock. -/
inductive Admission where
  | stopping
  | existing (entry : ℕ)
  | full
  | create (entry : ℕ)
  deriving DecidableEq

/-- What a creation comes to: the service of its entry, and the backend to discard. -/
structure Settled where
  service : Option ℕ
  discard : Option ℕ

namespace TenantState

/-- The manager before any call. -/
def initial : TenantState where
  closed := false
  entries := ∅
  cells := []
  creations := 0
  backends := []
  stopped := false

variable (s : TenantState)

/-- A new entry, whose backend is yet to be created. -/
def addEntry (key : String) : TenantState :=
  { s with
    entries := s.entries.insert key s.cells.length
    cells := s.cells ++ [{ ready := false, service := none }]
    creations := s.creations + 1 }

/-- The first section of `Resolve` under the lock. -/
def enter (maxTenants : ℕ) (key : String) : Admission × TenantState :=
  if s.closed then (.stopping, s)
  else match s.entries.lookup key with
  | some entry => (.existing entry, s)
  | none =>
    if maxTenants ≤ s.entries.entries.length then (.full, s)
    else (.create s.cells.length, s.addEntry key)

/-- A backend that will not be used. -/
def discard (backend : ℕ) : TenantState :=
  { s with backends := s.backends.modify backend fun b => { b with discarded := true } }

/-- The entry with the outcome of its creation. -/
def setEntry (entry : ℕ) (service : Option ℕ) : TenantState :=
  { s with cells := s.cells.set entry { ready := true, service := service } }

/-- The entry is taken out, if it is still the one under its key. -/
def dropEntry (key : String) (entry : ℕ) : TenantState :=
  if s.entries.lookup key = some entry then { s with entries := s.entries.erase key } else s

/-- The second section of `Resolve` under the lock: a backend that comes after `Close` has begun is
discarded, and the entry of a creation that failed is taken out. -/
def settle (key : String) (entry : ℕ) (result : Option ℕ) : Settled × TenantState :=
  match result with
  | some backend =>
    if s.closed then
      (⟨none, some backend⟩, ((s.discard backend).setEntry entry none).dropEntry key entry)
    else (⟨some backend, none⟩, s.setEntry entry (some backend))
  | none => (⟨none, none⟩, (s.setEntry entry none).dropEntry key entry)

/-- The services that `Close` finds in the table. -/
def services : List ℕ :=
  s.entries.entries.filterMap fun entry => (s.cells[entry.2]?).bind TenantEntry.service

/-- A backend was asked to close, and did so or not. -/
def closeBackend (backend : ℕ) (ok : Bool) : TenantState :=
  { s with
    backends := s.backends.modify backend fun b =>
      { b with closes := b.closes + 1, closed := b.closed || ok } }

end TenantState

/-! ## Calls -/

/-- How a wait ends. -/
inductive Waited (α : Type) where
  | done (value : α)
  | context (error : ContextError)

/-- The sections under the lock, the waits, and the calls of the environment. The last two stand for
the return of a call: `Resolve` hands a service to its caller, `Close` returns without an error. -/
inductive TenantCall where
  | enter (key : String)
  | awaitEntry (entry : ℕ)
  | prepareStorage (roots : StorageRoots) (sid : String)
  | newBackend (config : BackendConfig)
  | settle (key : String) (entry : ℕ) (result : Option ℕ)
  | closeBackend (backend : ℕ)
  | creationDone
  | markClosed
  | awaitCreations
  | collect
  | contextErr
  | deliver (sid : String) (entry service : ℕ)
  | stopped

abbrev TenantReply : TenantCall → Type
  | .enter _ => Admission
  | .awaitEntry _ => Waited (Option ℕ)
  | .prepareStorage _ _ => Option String
  | .newBackend _ => Except String ℕ
  | .settle _ _ _ => Settled
  | .closeBackend _ => Except String Unit
  | .creationDone => Unit
  | .markClosed => Unit
  | .awaitCreations => Waited Unit
  | .collect => List ℕ
  | .contextErr => Option ContextError
  | .deliver _ _ _ => Unit
  | .stopped => Unit

/-- The interface of the manager. -/
abbrev TenantInterface : Interface := ⟨TenantCall, TenantReply⟩

/-- The errors of the manager: its own, and those that it passes on. -/
inductive TenantError where
  | service (error : ServiceError)
  | context (error : ContextError)
  | backend (text : String)

/-- A call of the manager's surface. -/
abbrev TenantProgram : Type → Type := Program TenantInterface TenantError

/-- Makes a call. -/
def request (c : TenantCall) : TenantProgram (TenantReply c) := .call c .done

/-- The manager is not able to serve. -/
def unavailable {α : Type} (message : String) : TenantProgram α :=
  .fail (.service ⟨.unavailable, message⟩)

/-! ## The surface -/

/-- The configuration of the manager. -/
structure Config where
  dataRoot : String
  maxTenants : ℕ
  allowDevelopmentIdentities : Bool

section Surface

variable [TenantLibrary] [Sha256Library] (config : Config)

/-- `Manager.createBackend`: nothing is returned when one of its steps fails. -/
def createBackend (sid : String) : TenantProgram (Option ℕ) := do
  match deriveStorageRoots config.dataRoot sid with
  | .error _ => pure none
  | .ok roots =>
    match ← request (.prepareStorage roots sid) with
    | some _ => pure none
    | none =>
      match ← request (.newBackend ⟨sid, roots.imageRoot, roots.workspaceRoot⟩) with
      | .error _ => pure none
      | .ok backend => pure (some backend)

/-- The service of an entry, or the error of one that has none. -/
def initialized : Option ℕ → TenantProgram ℕ
  | none => unavailable "tenant backend could not be initialized"
  | some service => pure service

def waitForEntry (entry : ℕ) : TenantProgram ℕ := do
  match ← request (.awaitEntry entry) with
  | .context e => .fail (.context e)
  | .done service => initialized service

/-- A backend that came too late is closed; what its `Close` returns is ignored. -/
def closeDiscarded : Option ℕ → TenantProgram Unit
  | none => pure ()
  | some backend => do
    let _ ← request (.closeBackend backend)
    pure ()

/-- The part of `Resolve` that creates a backend for its new entry. -/
def createEntry (key sid : String) (entry : ℕ) : TenantProgram ℕ := do
  let result ← createBackend config sid
  let settled ← request (.settle key entry result)
  closeDiscarded settled.discard
  request .creationDone
  initialized settled.service

/-- `Manager.Resolve`, with the entry that the service comes from. -/
def resolve (identity : PeerIdentity) : TenantProgram (ℕ × ℕ) := do
  match validatePeerIdentity identity config.allowDevelopmentIdentities with
  | .error _ =>
    .fail (.service ⟨.permissionDenied, "authenticated user is not eligible for VM access"⟩)
  | .ok () =>
    let key := TenantLibrary.toUpper identity.userSid
    match ← request (.enter key) with
    | .stopping => unavailable "tenant manager is stopping"
    | .existing entry => return (entry, ← waitForEntry entry)
    | .full => unavailable "tenant capacity is exhausted"
    | .create entry => return (entry, ← createEntry config key identity.userSid entry)

/-- The loop of `Close` over the services that it has collected. -/
def closeAll : List ℕ → TenantProgram Unit
  | [] => pure ()
  | backend :: rest => do
    match ← request .contextErr with
    | some e => .fail (.context e)
    | none =>
      match ← request (.closeBackend backend) with
      | .error e => .fail (.backend e)
      | .ok () => closeAll rest

/-- `Manager.Close`. -/
def close : TenantProgram Unit := do
  request .markClosed
  match ← request .awaitCreations with
  | .context e => .fail (.context e)
  | .done () =>
    let services ← request .collect
    closeAll services

/-- A call of `Resolve` and its return. -/
def serveResolve (identity : PeerIdentity) : TenantProgram Unit := do
  let found ← resolve config identity
  request (.deliver identity.userSid found.1 found.2)

/-- A call of `Close` and its return. -/
def serveClose : TenantProgram Unit := do
  close
  request .stopped

/-- How the state answers a call. A wait for an entry ends when it is ready, a wait for the
creations when none is under way, and either may end with the caller's context; the services are
collected in any order. -/
inductive Answers : TenantState → (c : TenantCall) → TenantReply c → TenantState → Prop
  | enter (s : TenantState) (key : String) :
      Answers s (.enter key) (s.enter config.maxTenants key).1 (s.enter config.maxTenants key).2
  | awaitEntry (s : TenantState) (entry : ℕ) (cell : TenantEntry)
      (hcell : s.cells[entry]? = some cell) (hready : cell.ready = true) :
      Answers s (.awaitEntry entry) (.done cell.service) s
  | awaitEntryContext (s : TenantState) (entry : ℕ) (e : ContextError) :
      Answers s (.awaitEntry entry) (.context e) s
  | prepareStorage (s : TenantState) (roots : StorageRoots) (sid : String) (r : Option String) :
      Answers s (.prepareStorage roots sid) r s
  | newBackendFailed (s : TenantState) (backend : BackendConfig) (e : String) :
      Answers s (.newBackend backend) (.error e) s
  | newBackend (s : TenantState) (backend : BackendConfig) :
      Answers s (.newBackend backend) (.ok s.backends.length)
        { s with backends := s.backends ++ [⟨backend, 0, false, false⟩] }
  | settle (s : TenantState) (key : String) (entry : ℕ) (result : Option ℕ) :
      Answers s (.settle key entry result) (s.settle key entry result).1
        (s.settle key entry result).2
  | closeBackendFailed (s : TenantState) (backend : ℕ) (e : String) :
      Answers s (.closeBackend backend) (.error e) (s.closeBackend backend false)
  | closeBackend (s : TenantState) (backend : ℕ) :
      Answers s (.closeBackend backend) (.ok ()) (s.closeBackend backend true)
  | creationDone (s : TenantState) :
      Answers s .creationDone () { s with creations := s.creations - 1 }
  | markClosed (s : TenantState) : Answers s .markClosed () { s with closed := true }
  | awaitCreations (s : TenantState) (h : s.creations = 0) :
      Answers s .awaitCreations (.done ()) s
  | awaitCreationsContext (s : TenantState) (e : ContextError) :
      Answers s .awaitCreations (.context e) s
  | collect (s : TenantState) (services : List ℕ) (h : services.Perm s.services) :
      Answers s .collect services s
  | contextErr (s : TenantState) (r : Option ContextError) : Answers s .contextErr r s
  | deliver (s : TenantState) (sid : String) (entry service : ℕ) :
      Answers s (.deliver sid entry service) () s
  | stopped (s : TenantState) : Answers s .stopped () { s with stopped := true }

def manager : System TenantInterface TenantState := ⟨Answers config⟩

end Surface

end GrokDesktop.Tenant
