import GrokDesktop.Application.Errors
import GrokDesktop.Lib.Rely
import GrokDesktop.Memory.PrivilegedLifecycle

/-!
# The privileged gateway

`runner.health` prepares a durable operation, dispatches it, calls the guest and records the
outcome. A call whose operation is already recorded is answered from the journal. The intent that
the gateway builds contains the time of the call plus 30 seconds, and the journal compares whole
intents, so a later call is answered from the journal exactly when it computes the same expiry.
-/

namespace GrokDesktop

open Resumption Resumption.Program
open Except
open PrivilegedOperation (Transition)

/-! ## Texts -/

def PrivilegedOperationValueError.display : PrivilegedOperationValueError → String
  | .tooShort field minimum => field ++ " must contain at least " ++ toString minimum ++ " bytes"
  | .tooLong field maximum => field ++ " exceeds " ++ toString maximum ++ " bytes"
  | .invalidCharacter field => field ++ " contains a character outside [A-Za-z0-9._:-]"

def PrivilegedOperationState.debug : PrivilegedOperationState → String
  | .prepared => "Prepared"
  | .dispatching => "Dispatching"
  | .retryPending => "RetryPending"
  | .succeeded => "Succeeded"
  | .failed => "Failed"
  | .interruptedNeedsReview => "InterruptedNeedsReview"
  | .reviewed => "Reviewed"
  | .cancelled => "Cancelled"

def PrivilegedOperationKind.debug : PrivilegedOperationKind → String
  | .runnerHealth => "RunnerHealth"
  | .catalogApply => "CatalogApply"
  | .integrationStart => "IntegrationStart"
  | .integrationStop => "IntegrationStop"
  | .computerObserve => "ComputerObserve"
  | .computerAct => "ComputerAct"

def PrivilegedOperationError.display : PrivilegedOperationError → String
  | .invalidTransition source target =>
      "invalid privileged operation transition from " ++ source.debug ++ " to " ++ target.debug
  | .retryPolicyViolation kind => "privileged operation " ++ kind.debug ++ " is not retry-safe"
  | .clockRegression current attempted =>
      "transition timestamp " ++ toString attempted ++ " predates last update " ++ toString current
  | .authorityExpired expiresAt => "authority grant expired at " ++ toString expiresAt
  | .selfSupersession => "privileged operation cannot supersede itself"
  | .invalidLinks => "effect_id and approval_id require run_id"
  | .targetKindMismatch operationKind targetKind =>
      "target for " ++ targetKind.debug ++ " cannot be used with " ++ operationKind.debug
  | .invalidTarget => "computer action target requires a positive observation revision"
  | .revisionExhausted => "privileged operation revision is exhausted"
  | .attemptCountExhausted => "privileged operation attempt count is exhausted"
  | .invalidPersistedState => "persisted privileged operation is internally inconsistent"

def ApplicationError.ofPrivileged (error : PrivilegedOperationError) : ApplicationError :=
  match error with
  | .targetKindMismatch .. | .invalidTarget | .selfSupersession | .invalidLinks =>
      .invalidInput error.display
  | .invalidPersistedState => .integrity error.display
  | .invalidTransition .. | .retryPolicyViolation _ | .clockRegression .. | .authorityExpired _
  | .revisionExhausted | .attemptCountExhausted => .invalidState error.display

/-- Failures at the gateway boundary. -/
inductive PrivilegedGatewayError where
  | unavailable (text : String)
  | unauthorized (text : String)
  | invalid (text : String)
  /-- The transport failed after dispatch began, so the outcome is unknown. -/
  | transport (text : String)
  deriving DecidableEq

def PrivilegedGatewayError.display : PrivilegedGatewayError → String
  | .unavailable text => "privileged gateway unavailable: " ++ text
  | .unauthorized text => "privileged gateway unauthorized: " ++ text
  | .invalid text => "privileged gateway invalid: " ++ text
  | .transport text => "privileged gateway transport: " ++ text

/-! ## Calls -/

inductive GatewayCall where
  -- the journal
  | resolvePreparation (intent : PrivilegedOperationIntent)
  | prepareWithPayload (operation : PrivilegedOperation) (payload : List UInt8)
  | getPrivilegedOperation (id : PrivilegedOperationId)
  | beginDispatchWithAttempt (operation : PrivilegedOperation) (expectedRevision : ℕ)
      (attempt : PrivilegedDispatchAttempt)
  | completeDispatchOutcome (operation : PrivilegedOperation)
      (expectedRevision attemptSequence : ℕ) (completedAt : UnixMillis)
  -- the surroundings
  | now
  | generateId (entity : String)
  -- the guest
  | transport (vmId : String)

namespace GatewayCall

@[reducible] def Reply : GatewayCall → Type
  | resolvePreparation _ => Except StoreError (Option PrivilegedOperation)
  | prepareWithPayload _ _ => Except StoreError PrivilegedPreparation
  | getPrivilegedOperation _ | beginDispatchWithAttempt _ _ _ | completeDispatchOutcome _ _ _ _ =>
      Except StoreError PrivilegedOperation
  | now => UnixMillis
  | generateId _ => String
  | transport _ => Except PrivilegedGatewayError (List UInt8)

end GatewayCall

abbrev gatewayInterface : Interface := ⟨GatewayCall, GatewayCall.Reply⟩

section

variable [Sha256Library]

/-- The result and new journal of a journal call; `none` for the other calls. -/
def gatewayAnswer (s : PrivilegedJournal) : (c : GatewayCall) → Option (c.Reply × PrivilegedJournal)
  | .resolvePreparation intent => some (s.resolvePreparation intent, s)
  | .prepareWithPayload operation payload => some (s.prepareWithPayload operation payload)
  | .getPrivilegedOperation id => some (s.getPrivilegedOperation id, s)
  | .beginDispatchWithAttempt operation expectedRevision attempt =>
      some (s.beginDispatchWithAttempt operation expectedRevision attempt)
  | .completeDispatchOutcome operation expectedRevision attemptSequence completedAt =>
      some (s.completeDispatchOutcome operation expectedRevision attemptSequence completedAt)
  | .now | .generateId _ | .transport _ => none

/-- The journal answers its calls; the surroundings and the guest answer theirs in any way. -/
def gatewaySystem : System gatewayInterface PrivilegedJournal where
  answers s c r s' :=
    match gatewayAnswer s c with
    | some answer => answer = (r, s')
    | none => s' = s

end

/-- A function of the gateway. -/
abbrev GatewayService (α : Type) : Type := Program gatewayInterface ApplicationError α

namespace GatewayService

def request (c : GatewayCall) : GatewayService c.Reply := Program.call c Program.done

/-- Continues with the result of a journal call, or fails with its error. -/
def fromStore {α : Type} (result : Except StoreError α) : GatewayService α :=
  Program.liftExcept (result.mapError .ofStore)

/-- Continues with the result of a pure check, or fails with its error. -/
def check {α ε : Type} (convert : ε → ApplicationError) (result : Except ε α) :
    GatewayService α :=
  Program.liftExcept (result.mapError convert)

/-- Fails with the error when the condition holds. -/
def reject (c : Prop) [Decidable c] (error : ApplicationError) : GatewayService Unit :=
  Program.liftExcept (rejectIf c error)

end GatewayService

open GatewayService

section

variable [Sha256Library]

/-! ## The journal coordinator -/

/-- The payload is bounded and is the one the intent names. -/
def validatePayload (payload : List UInt8) (expected : Digest) : Except ApplicationError Unit := do
  rejectIf (¬ (minPrivilegedPayloadBytes ≤ payload.length ∧
    payload.length ≤ maxPrivilegedPayloadBytes))
    (.invalidInput "privileged operation payload is outside durable bounds")
  rejectIf (Sha256Library.digest payload ≠ expected)
    (.invalidInput "privileged operation payload digest does not match exact bytes")

/-- Commits immutable intent and exact payload before any gateway I/O. -/
def prepare (intent : PrivilegedOperationIntent) (payload : List UInt8) :
    GatewayService PrivilegedPreparation := do
  Program.liftExcept (validatePayload payload intent.payloadDigest)
  match ← fromStore (← request (.resolvePreparation intent)) with
  | some operation => return ⟨operation, false⟩
  | none =>
      let id ← check .ofId (EntityId.new (← request (.generateId "privileged-operation")))
      let now ← request .now
      let operation ← check .ofPrivileged (PrivilegedOperation.prepare id intent now)
      fromStore (← request (.prepareWithPayload operation payload))

/-- Parameters for reserving one gateway dispatch. -/
structure BeginPrivilegedDispatch where
  operationId : PrivilegedOperationId
  expectedRevision : ℕ
  transportOperationId : String
  wireDigest : Digest
  brokerBootId : BitVec 128
  guestBootId : BitVec 128
  timeoutMs : ℕ

/-- Atomically persists `dispatching` and the exact attempt before gateway I/O. -/
def beginDispatch (input : BeginPrivilegedDispatch) : GatewayService PrivilegedOperation := do
  reject (isTransportId input.transportOperationId = false)
    (.invalidInput "transport operation id must be 16-128 allowlisted ASCII bytes")
  reject (input.brokerBootId = 0 ∨ input.guestBootId = 0)
    (.invalidInput "privileged attempt boot identities must be nonzero")
  reject (input.timeoutMs = 0 ∨ 30000 < input.timeoutMs)
    (.invalidInput "privileged attempt duration must be between 1 and 30000 milliseconds")
  let operation ← fromStore (← request (.getPrivilegedOperation input.operationId))
  reject (input.transportOperationId = operation.id.value)
    (.invalidInput "transport identity must differ from the durable journal identity")
  reject (operation.revision ≠ input.expectedRevision) .conflict
  let startedAt ← request .now
  let deadlineUnixMs ← Program.liftExcept (okOr (checkedAdd startedAt input.timeoutMs)
    (.invalidInput "attempt deadline overflow"))
  let operation ← check .ofPrivileged (operation.dispatch startedAt)
  let attempt : PrivilegedDispatchAttempt := {
    sequence := operation.attemptCount
    transportOperationId := input.transportOperationId
    wireDigest := input.wireDigest
    brokerBootId := input.brokerBootId
    guestBootId := input.guestBootId
    startedAt := startedAt
    deadlineUnixMs := deadlineUnixMs }
  fromStore (← request (.beginDispatchWithAttempt operation input.expectedRevision attempt))

/-! ## The gateway -/

/-- Outcome of a gateway invocation after journal coordination. -/
structure PrivilegedGatewayResult where
  operationId : PrivilegedOperationId
  /-- Non-secret response body when completed successfully. -/
  body : Option (List UInt8)
  /-- The journal has an interrupted or unfinished operation instead of success. -/
  interrupted : Bool
  deriving DecidableEq

/-- The answer to a call whose operation is already recorded. -/
def replay (operation : PrivilegedOperation) : Except ApplicationError PrivilegedGatewayResult :=
  match operation.state with
  | .succeeded => .ok ⟨operation.id, none, false⟩
  | .interruptedNeedsReview | .retryPending | .prepared | .dispatching | .reviewed | .cancelled =>
      .ok ⟨operation.id, none, true⟩
  | .failed => .error (.unavailable "privileged runner.health previously failed")

/-- The JSON text of the request. A virtual machine identifier needs no escapes. -/
def healthPayload (vmId : String) : List UInt8 :=
  utf8Bytes ("\x7b\"method\":\"runner.health\",\"vmId\":\"" ++ vmId ++ "\"\x7d")

def healthIntent (vmId : PrivilegedResourceId) (grantId : AuthorityGrantId)
    (key : PrivilegedIdempotencyKey) (expires : UnixMillis) : PrivilegedOperationIntent where
  kind := .runnerHealth
  target := .runner vmId
  payloadDigest := Sha256Library.digest (healthPayload vmId.value)
  authority := ⟨grantId, expires⟩
  idempotency := ⟨key, Sha256Library.digest (healthPayload vmId.value)⟩
  links := {}

/-- The lower-case hexadecimal digits of a byte. -/
def hexByte (byte : ℕ) : String :=
  String.ofList [Nat.digitChar (byte / 16), Nat.digitChar (byte % 16)]

/-- The transport identity of a health query: the first twelve bytes of a digest. -/
def healthTransportId (id : PrivilegedOperationId) (vmId : String) : String :=
  let digest := Sha256Library.digest (utf8Bytes (id.value ++ ":" ++ vmId))
  (List.range 12).foldl (fun text i => text ++ hexByte ((digest.toNat >>> (8 * (31 - i))) % 256))
    "transport-"

/-- The expiry of the authority of a health query made at a time. -/
def healthExpiry (now : UnixMillis) : UnixMillis := saturatingAdd now 30000

/-- The dispatch of a prepared health query. -/
def healthDispatch (vmId : String) (operation : PrivilegedOperation) : BeginPrivilegedDispatch where
  operationId := operation.id
  expectedRevision := operation.revision
  transportOperationId := healthTransportId operation.id vmId
  wireDigest := Sha256Library.digest (healthPayload vmId)
  brokerBootId := BitVec.ofNat 128 0x01010101010101010101010101010101
  guestBootId := BitVec.ofNat 128 0x02020202020202020202020202020202
  timeoutMs := 5000

/-- Dispatches a prepared health query, calls the guest and records the outcome. -/
def dispatchHealth (vmId : String) (operation : PrivilegedOperation) :
    GatewayService PrivilegedGatewayResult := do
  let dispatching ← beginDispatch (healthDispatch vmId operation)
  let invalid (error : PrivilegedOperationError) : ApplicationError := .invalidState error.display
  match ← request (.transport vmId) with
  | .ok body =>
      let completed ← check invalid (dispatching.succeed (← request .now))
      let stored ← fromStore (← request (.completeDispatchOutcome completed dispatching.revision
        dispatching.attemptCount (← request .now)))
      return ⟨stored.id, some body, false⟩
  | .error (.transport _) =>
      let interrupted ← check invalid (dispatching.interrupt (← request .now))
      let stored ← fromStore (← request (.completeDispatchOutcome interrupted dispatching.revision
        dispatching.attemptCount (← request .now)))
      return ⟨stored.id, none, true⟩
  | .error other =>
      let failed ← check invalid (dispatching.fail (← request .now))
      let _ ← fromStore (← request (.completeDispatchOutcome failed dispatching.revision
        dispatching.attemptCount (← request .now)))
      throw (.unavailable other.display)

/-- Runs `runner.health`: prepare, dispatch, record the outcome. -/
def runnerHealth (authorityGrantId idempotencyKey vmId proofToken : String) :
    GatewayService PrivilegedGatewayResult := do
  let invalid (error : PrivilegedOperationValueError) : ApplicationError :=
    .invalidInput error.display
  reject (proofToken.utf8ByteSize < 32)
    (.invalidInput "proof of possession token must be at least 32 bytes")
  let vmResource ← check invalid (SafeValue.new vmId)
  let now ← request .now
  let grantId ← check invalid (SafeValue.new authorityGrantId)
  let key ← check invalid (SafeValue.new idempotencyKey)
  let preparation ← prepare (healthIntent vmResource grantId key (healthExpiry now))
    (healthPayload vmId)
  if !preparation.created then Program.liftExcept (replay preparation.operation)
  else dispatchHealth vmId preparation.operation

end

end GrokDesktop
