import GrokDesktop.Domain.Basic
import GrokDesktop.Lib.Except

/-!
# Privileged operations

The durable record of one bounded operation that crosses the privileged boundary: an immutable
intent, and a lifecycle whose edges are methods of the record. A snapshot read back from storage
is accepted when it could have been produced by the methods.
-/

namespace GrokDesktop

open Except Option

/-! ## Bounded values -/

/-- Upper bound of every safe value, in bytes. -/
def maxKeyBytes : ℕ := 128

/-- Lower bound of authority grants and idempotency keys, in bytes. -/
def minKeyBytes : ℕ := 16

/-- Invalid bounded authority or idempotency metadata. -/
inductive PrivilegedOperationValueError where
  | tooShort (field : String) (minimum : ℕ)
  | tooLong (field : String) (maximum : ℕ)
  | invalidCharacter (field : String)
  deriving DecidableEq

/-- The alphabet of the privileged protocol: `[A-Za-z0-9._:-]`. -/
def isSafeAscii (c : Char) : Bool :=
  isAsciiAlphanumeric c || c == '.' || c == '_' || c == ':' || c == '-'

/-- Checks a value against its bounds and the alphabet. -/
def validateSafeAscii (value field : String) (minimum : ℕ) :
    Except PrivilegedOperationValueError Unit :=
  if value.utf8ByteSize < minimum then .error (.tooShort field minimum)
  else if maxKeyBytes < value.utf8ByteSize then .error (.tooLong field maxKeyBytes)
  else if !value.toList.all isSafeAscii then .error (.invalidCharacter field)
  else .ok ()

/-- A bounded value of the privileged protocol. Only validated values exist. -/
structure SafeValue (field : String) (minimum : ℕ) where
  /-- The validated external representation. -/
  value : String
  /-- The value is within its bounds and the alphabet. -/
  valid : validateSafeAscii value field minimum = .ok ()
  deriving DecidableEq

/-- Creates a bounded value. -/
def SafeValue.new {field : String} {minimum : ℕ} (value : String) :
    Except PrivilegedOperationValueError (SafeValue field minimum) :=
  match h : validateSafeAscii value field minimum with
  | .ok () => .ok ⟨value, h⟩
  | .error e => .error e

variable {field : String} {minimum : ℕ}

lemma SafeValue.new_eq_ok {text : String}
    {v : SafeValue field minimum} (h : SafeValue.new text = .ok v) : v.value = text := by
  unfold SafeValue.new at h
  split at h
  · rw [← Except.ok.inj h]
  · cases h

@[simp] lemma SafeValue.new_value (v : SafeValue field minimum) :
    SafeValue.new v.value = .ok v := by
  obtain ⟨value, valid⟩ := v
  unfold SafeValue.new
  split
  · rfl
  · simp_all

/-- The exact authority grant evaluated for an operation. -/
abbrev AuthorityGrantId : Type := SafeValue "authority_grant_id" minKeyBytes
/-- A caller-supplied deduplication key scoped to privileged operations. -/
abbrev PrivilegedIdempotencyKey : Type := SafeValue "idempotency_key" minKeyBytes
/-- A bounded non-secret resource identifier retained for review and audit. -/
abbrev PrivilegedResourceId : Type := SafeValue "resource_id" 1

/-! ## Intents -/

/-- Closed privileged operations supported by the durable journal. -/
inductive PrivilegedOperationKind where
  | runnerHealth
  | catalogApply
  | integrationStart
  | integrationStop
  | computerObserve
  | computerAct
  deriving DecidableEq

/-- Whether an interrupted operation may be dispatched again under the same key. -/
inductive PrivilegedRetryClass where
  | retrySafe
  | nonIdempotent
  deriving DecidableEq

/-- The fixed retry policy of an operation kind. -/
def PrivilegedOperationKind.retryClass : PrivilegedOperationKind → PrivilegedRetryClass
  | runnerHealth | computerObserve => .retrySafe
  | catalogApply | integrationStart | integrationStop | computerAct => .nonIdempotent

/-- Non-secret resource identity needed to review a privileged operation. -/
inductive PrivilegedOperationTarget where
  | runner (vmId : PrivilegedResourceId)
  | catalog (vmId : PrivilegedResourceId)
  | integrationStart (vmId integrationId : PrivilegedResourceId)
  | integrationStop (vmId integrationId instanceId : PrivilegedResourceId)
  | computerObserve (vmId integrationId : PrivilegedResourceId)
  | computerAct (vmId integrationId instanceId applicationId : PrivilegedResourceId)
      (observationRevision : ℕ)
  deriving DecidableEq

namespace PrivilegedOperationTarget

/-- The only operation kind compatible with the shape of the target. -/
def operationKind : PrivilegedOperationTarget → PrivilegedOperationKind
  | runner .. => .runnerHealth
  | catalog .. => .catalogApply
  | integrationStart .. => .integrationStart
  | integrationStop .. => .integrationStop
  | computerObserve .. => .computerObserve
  | computerAct .. => .computerAct

/-- Computer actions bind a positive observation revision. -/
def isValid : PrivilegedOperationTarget → Bool
  | computerAct _ _ _ _ observationRevision => observationRevision != 0
  | _ => true

end PrivilegedOperationTarget

/-- Exact authority snapshot bound to the operation request digest. -/
structure PrivilegedAuthority where
  grantId : AuthorityGrantId
  /-- Last millisecond in which a new dispatch may begin. -/
  expiresAt : UnixMillis
  deriving DecidableEq

/-- Deduplication metadata bound to the canonical semantic request. -/
structure PrivilegedIdempotency where
  key : PrivilegedIdempotencyKey
  requestDigest : Digest
  deriving DecidableEq

/-- Optional durable links into the owning execution and approval records. -/
structure PrivilegedOperationLinks where
  runId : Option RunId := none
  effectId : Option EffectId := none
  approvalId : Option ApprovalId := none
  supersedesId : Option PrivilegedOperationId := none
  deriving DecidableEq

/-- Immutable semantic intent committed before a privileged operation dispatches. -/
structure PrivilegedOperationIntent where
  kind : PrivilegedOperationKind
  target : PrivilegedOperationTarget
  payloadDigest : Digest
  authority : PrivilegedAuthority
  idempotency : PrivilegedIdempotency
  links : PrivilegedOperationLinks
  deriving DecidableEq

/-! ## The lifecycle -/

/-- Durable lifecycle of a privileged operation. -/
inductive PrivilegedOperationState where
  | prepared
  | dispatching
  | retryPending
  | succeeded
  | failed
  | interruptedNeedsReview
  | reviewed
  | cancelled
  deriving DecidableEq

/-- The edges of the lifecycle. -/
def PrivilegedOperationState.permits :
    PrivilegedOperationState → PrivilegedOperationState → Bool
  | prepared, dispatching | prepared, cancelled => true
  | dispatching, retryPending | dispatching, succeeded | dispatching, failed
  | dispatching, interruptedNeedsReview => true
  | retryPending, dispatching => true
  | interruptedNeedsReview, reviewed => true
  | _, _ => false

/-- The states that end an attempt. -/
def PrivilegedOperationState.isOutcome : PrivilegedOperationState → Bool
  | succeeded | failed | retryPending | interruptedNeedsReview => true
  | _ => false

/-- Human disposition for an uncertain non-idempotent result. -/
inductive PrivilegedOperationReview where
  | confirmedSucceeded
  | confirmedFailed
  | abandoned
  deriving DecidableEq

/-- Invalid privileged-operation construction or lifecycle operation. -/
inductive PrivilegedOperationError where
  | invalidTransition (source target : PrivilegedOperationState)
  | retryPolicyViolation (kind : PrivilegedOperationKind)
  | clockRegression (current attempted : UnixMillis)
  | authorityExpired (expiresAt : UnixMillis)
  | selfSupersession
  | invalidLinks
  | targetKindMismatch (operationKind targetKind : PrivilegedOperationKind)
  | invalidTarget
  | revisionExhausted
  | attemptCountExhausted
  | invalidPersistedState
  deriving DecidableEq

/-- Durable source of truth for one bounded privileged operation. -/
structure PrivilegedOperation extends PrivilegedOperationIntent where
  id : PrivilegedOperationId
  state : PrivilegedOperationState
  /-- Human disposition after an uncertain non-idempotent attempt. -/
  review : Option PrivilegedOperationReview
  /-- Number of attempts whose dispatch was durably recorded. -/
  attemptCount : ℕ
  revision : ℕ
  createdAt : UnixMillis
  updatedAt : UnixMillis
  deriving DecidableEq

namespace PrivilegedOperation

variable (operation : PrivilegedOperation)

/-- The immutable part of an operation. -/
abbrev intent : PrivilegedOperationIntent :=
  operation.toPrivilegedOperationIntent

/-- The fixed retry policy of an operation. -/
def retryClass (operation : PrivilegedOperation) : PrivilegedRetryClass :=
  operation.kind.retryClass

/-- Persists immutable intent before any privileged dispatch. -/
def prepare (id : PrivilegedOperationId) (intent : PrivilegedOperationIntent) (now : UnixMillis) :
    Except PrivilegedOperationError PrivilegedOperation := do
  rejectIf (intent.authority.expiresAt < now) (.authorityExpired intent.authority.expiresAt)
  rejectIf (intent.target.operationKind ≠ intent.kind)
    (.targetKindMismatch intent.kind intent.target.operationKind)
  rejectIf (intent.target.isValid = false) .invalidTarget
  rejectIf (intent.links.supersedesId = some id) .selfSupersession
  rejectIf (intent.links.runId.isNone ∧
    (intent.links.effectId.isSome ∨ intent.links.approvalId.isSome)) .invalidLinks
  return { intent with
    id := id
    state := .prepared
    review := none
    attemptCount := 0
    revision := 0
    createdAt := now
    updatedAt := now }

/-- The checks shared by all edges. -/
def validateEdge (next : PrivilegedOperationState) (now : UnixMillis) :
    Except PrivilegedOperationError Unit := do
  rejectIf (operation.state.permits next = false) (.invalidTransition operation.state next)
  rejectIf (now < operation.updatedAt) (.clockRegression operation.updatedAt now)
  rejectIf (operation.revision = u64Max) .revisionExhausted

/-- Moves to the next state. -/
def applyTransition (next : PrivilegedOperationState) (now : UnixMillis) :
    Except PrivilegedOperationError PrivilegedOperation := do
  let revision ← okOr (checkedAdd operation.revision 1) .revisionExhausted
  return { operation with state := next, revision := revision, updatedAt := now }

/-- An edge without conditions of its own. -/
def moveTo (next : PrivilegedOperationState) (now : UnixMillis) :
    Except PrivilegedOperationError PrivilegedOperation := do
  operation.validateEdge next now
  operation.applyTransition next now

/-- Records that a bounded attempt is about to cross the privileged boundary. -/
def dispatch (now : UnixMillis) : Except PrivilegedOperationError PrivilegedOperation := do
  operation.validateEdge .dispatching now
  rejectIf (operation.authority.expiresAt < now)
    (.authorityExpired operation.authority.expiresAt)
  let nextAttempt ← okOr
    (if operation.attemptCount + 1 ≤ u32Max then some (operation.attemptCount + 1) else none)
    PrivilegedOperationError.attemptCountExhausted
  let moved ← operation.applyTransition .dispatching now
  return { moved with attemptCount := nextAttempt }

/-- Records a known successful external result. -/
def succeed (now : UnixMillis) : Except PrivilegedOperationError PrivilegedOperation :=
  operation.moveTo .succeeded now

/-- Records a known terminal external failure. -/
def fail (now : UnixMillis) : Except PrivilegedOperationError PrivilegedOperation :=
  operation.moveTo .failed now

/-- Records a known retryable result for a retry-safe operation. -/
def scheduleRetry (now : UnixMillis) : Except PrivilegedOperationError PrivilegedOperation := do
  operation.validateEdge .retryPending now
  rejectIf (operation.retryClass ≠ .retrySafe) (.retryPolicyViolation operation.kind)
  operation.applyTransition .retryPending now

/-- Recovers a dispatch whose external outcome was not durably recorded. -/
def interrupt (now : UnixMillis) : Except PrivilegedOperationError PrivilegedOperation :=
  match operation.retryClass with
  | .retrySafe => operation.scheduleRetry now
  | .nonIdempotent => operation.moveTo .interruptedNeedsReview now

/-- Records a human disposition for an uncertain non-idempotent result. -/
def recordReview (disposition : PrivilegedOperationReview) (now : UnixMillis) :
    Except PrivilegedOperationError PrivilegedOperation := do
  let moved ← operation.moveTo .reviewed now
  return { moved with review := some disposition }

/-- Cancels an intent that has never been dispatched. -/
def cancel (now : UnixMillis) : Except PrivilegedOperationError PrivilegedOperation :=
  operation.moveTo .cancelled now

/-! ## What the methods do -/

variable {operation next : PrivilegedOperation} {state : PrivilegedOperationState}
  {now : UnixMillis}

/-- The operation after an edge into `state`. -/
def moved (operation : PrivilegedOperation) (state : PrivilegedOperationState)
    (now : UnixMillis) : PrivilegedOperation :=
  { operation with state := state, revision := operation.revision + 1, updatedAt := now }

lemma validateEdge_eq_ok {u : Unit} : operation.validateEdge state now = .ok u ↔
    operation.state.permits state = true ∧ operation.updatedAt ≤ now ∧
      operation.revision ≠ u64Max := by
  simp only [validateEdge, bind_eq_ok, rejectIf_eq_ok, exists_const, Bool.not_eq_false, not_lt]

lemma applyTransition_eq_ok : operation.applyTransition state now = .ok next ↔
    operation.revision + 1 ≤ u64Max ∧ next = operation.moved state now := by
  simp only [applyTransition, bind_eq_ok, okOr_eq_ok, checkedAdd_eq_some, return_eq_ok]
  constructor
  · rintro ⟨_, ⟨hmax, rfl⟩, rfl⟩
    exact ⟨hmax, rfl⟩
  · rintro ⟨hmax, rfl⟩
    exact ⟨_, ⟨hmax, rfl⟩, rfl⟩

/-- What an edge without conditions of its own does. -/
theorem moveTo_eq_ok : operation.moveTo state now = .ok next ↔
    operation.state.permits state = true ∧ operation.updatedAt ≤ now ∧
      operation.revision < u64Max ∧ next = operation.moved state now := by
  simp only [moveTo, bind_eq_ok, exists_const, validateEdge_eq_ok, applyTransition_eq_ok]
  constructor
  · rintro ⟨⟨hperm, hnow, -⟩, hmax, hnext⟩
    exact ⟨hperm, hnow, hmax, hnext⟩
  · rintro ⟨hperm, hnow, hmax, hnext⟩
    exact ⟨⟨hperm, hnow, hmax.ne⟩, hmax, hnext⟩

/-- An accepted dispatch. -/
lemma dispatch_eq_ok : operation.dispatch now = .ok next ↔
    operation.state.permits .dispatching = true ∧ operation.updatedAt ≤ now ∧
      operation.revision < u64Max ∧ now ≤ operation.authority.expiresAt ∧
      operation.attemptCount + 1 ≤ u32Max ∧
      next = { operation.moved .dispatching now with
        attemptCount := operation.attemptCount + 1 } := by
  simp only [dispatch, bind_eq_ok, exists_const, validateEdge_eq_ok, applyTransition_eq_ok,
    rejectIf_eq_ok, okOr_eq_ok, ite_none_right_eq_some, some.injEq, return_eq_ok,
    not_lt]
  constructor
  · rintro ⟨⟨hperm, hnow, -⟩, hexp, _, ⟨hcnt, rfl⟩, _, ⟨hmax, rfl⟩, rfl⟩
    exact ⟨hperm, hnow, hmax, hexp, hcnt, rfl⟩
  · rintro ⟨hperm, hnow, hmax, hexp, hcnt, rfl⟩
    exact ⟨⟨hperm, hnow, hmax.ne⟩, hexp, _, ⟨hcnt, rfl⟩, _, ⟨hmax, rfl⟩, rfl⟩

lemma scheduleRetry_eq_ok : operation.scheduleRetry now = .ok next ↔
    operation.retryClass = .retrySafe ∧ operation.moveTo .retryPending now = .ok next := by
  simp only [scheduleRetry, moveTo, bind_eq_ok, exists_const, rejectIf_eq_ok, not_not,
    validateEdge_eq_ok]
  exact and_left_comm

/-- What an interruption does. -/
theorem interrupt_eq_ok : operation.interrupt now = .ok next ↔
    (operation.retryClass = .retrySafe ∧ operation.moveTo .retryPending now = .ok next) ∨
      (operation.retryClass = .nonIdempotent ∧
        operation.moveTo .interruptedNeedsReview now = .ok next) := by
  unfold interrupt
  cases hclass : operation.retryClass with
  | retrySafe => simp [scheduleRetry_eq_ok, hclass]
  | nonIdempotent => simp

/-- One change of an operation by a method of its own. -/
inductive Transition (operation next : PrivilegedOperation) : Prop
  | dispatch (now : UnixMillis) (h : operation.dispatch now = .ok next)
  | succeed (now : UnixMillis) (h : operation.succeed now = .ok next)
  | fail (now : UnixMillis) (h : operation.fail now = .ok next)
  | scheduleRetry (now : UnixMillis) (h : operation.scheduleRetry now = .ok next)
  | interrupt (now : UnixMillis) (h : operation.interrupt now = .ok next)
  | recordReview (disposition : PrivilegedOperationReview) (now : UnixMillis)
      (h : operation.recordReview disposition now = .ok next)
  | cancel (now : UnixMillis) (h : operation.cancel now = .ok next)

/-- A change keeps the identity and the intent, follows an edge and counts one revision. Only a
dispatch counts an attempt. -/
structure Follows (operation next : PrivilegedOperation) : Prop where
  intent_eq : next.intent = operation.intent
  id_eq : next.id = operation.id
  createdAt_eq : next.createdAt = operation.createdAt
  updatedAt_le : operation.updatedAt ≤ next.updatedAt
  permits : operation.state.permits next.state = true
  revision_eq : next.revision = operation.revision + 1
  attemptCount_eq : next.attemptCount =
    operation.attemptCount + if next.state = .dispatching then 1 else 0

/-- A move other than a dispatch follows. -/
lemma Follows.of_moveTo (h : operation.moveTo state now = .ok next)
    (hsta : state ≠ .dispatching) : Follows operation next := by
  obtain ⟨hperm, hnow, -, rfl⟩ := moveTo_eq_ok.1 h
  exact ⟨rfl, rfl, rfl, hnow, hperm, rfl, by simp [moved, hsta]⟩

/-- What every change does. -/
theorem Transition.follows (h : Transition operation next) : Follows operation next := by
  cases h with
  | dispatch now h =>
    obtain ⟨hperm, hnow, -, -, -, rfl⟩ := dispatch_eq_ok.1 h
    exact ⟨rfl, rfl, rfl, hnow, hperm, rfl, by simp [moved]⟩
  | succeed now h | fail now h => exact .of_moveTo h (by decide)
  | scheduleRetry now h => exact .of_moveTo (scheduleRetry_eq_ok.1 h).2 (by decide)
  | interrupt now h =>
    rcases interrupt_eq_ok.1 h with ⟨-, h⟩ | ⟨-, h⟩
    · exact .of_moveTo h (by decide)
    · exact .of_moveTo h (by decide)
  | recordReview disposition now h =>
    simp only [PrivilegedOperation.recordReview, bind_eq_ok, return_eq_ok] at h
    obtain ⟨reviewed, hrev, rfl⟩ := h
    have hmov := Follows.of_moveTo hrev (by decide)
    exact ⟨hmov.intent_eq, hmov.id_eq, hmov.createdAt_eq, hmov.updatedAt_le,
      hmov.permits, hmov.revision_eq, hmov.attemptCount_eq⟩
  | cancel now h => exact .of_moveTo h (by decide)

/-! ## Snapshots -/

/-- `u32::checked_mul(2)` of the attempt count. -/
def doubledAttempts (operation : PrivilegedOperation) : Option ℕ :=
  if operation.attemptCount * 2 ≤ u32Max then some (operation.attemptCount * 2) else none

/-- The only revision that a snapshot in its state can have. -/
def expectedRevision (operation : PrivilegedOperation) : Option ℕ :=
  match operation.state with
  | .prepared =>
      if operation.attemptCount ≠ 0 ∨ operation.updatedAt ≠ operation.createdAt then none
      else some 0
  | .cancelled => if operation.attemptCount = 0 then some 1 else none
  | .dispatching =>
      operation.doubledAttempts.bind fun value => if 1 ≤ value then some (value - 1) else none
  | .retryPending =>
      if operation.retryClass ≠ .retrySafe ∨ operation.attemptCount = 0 then none
      else operation.doubledAttempts
  | .succeeded | .failed =>
      if operation.attemptCount = 0 then none else operation.doubledAttempts
  | .interruptedNeedsReview =>
      if operation.retryClass = .nonIdempotent ∧ operation.attemptCount = 1 then some 2 else none
  | .reviewed =>
      if operation.retryClass = .nonIdempotent ∧ operation.attemptCount = 1 then some 3 else none

/-- A review belongs to the reviewed state and to no other. -/
def reviewIsValid (operation : PrivilegedOperation) : Bool :=
  match operation.state with
  | .reviewed => operation.review.isSome
  | _ => operation.review.isNone

/-- The checks of a snapshot read back from storage. -/
def validateSnapshot (operation : PrivilegedOperation) : Bool :=
  decide (¬ (operation.target.operationKind ≠ operation.kind ∨
    operation.target.isValid = false ∨
    operation.links.supersedesId = some operation.id ∨
    (operation.links.runId.isNone ∧
      (operation.links.effectId.isSome ∨ operation.links.approvalId.isSome)) ∨
    operation.authority.expiresAt < operation.createdAt ∨
    operation.updatedAt < operation.createdAt ∨
    (operation.state = .dispatching ∧ operation.authority.expiresAt < operation.updatedAt))) &&
  operation.expectedRevision == some operation.revision && operation.reviewIsValid

/-- Rehydrates a durable snapshot after checking every aggregate invariant. -/
def restore (snapshot : PrivilegedOperation) :
    Except PrivilegedOperationError PrivilegedOperation :=
  if snapshot.validateSnapshot then .ok snapshot else .error .invalidPersistedState

lemma restore_eq_ok : operation.restore = .ok next ↔
    operation.validateSnapshot = true ∧ next = operation := by
  unfold restore
  split
  · simp_all [eq_comm (a := next)]
  · simp_all

/-- The revision of an accepted snapshot is the one its state and attempts determine. -/
lemma expectedRevision_of_valid (h : operation.validateSnapshot = true) :
    operation.expectedRevision = some operation.revision := by
  simp only [validateSnapshot, Bool.and_eq_true, beq_iff_eq] at h
  exact h.1.2

lemma reviewIsValid_of_valid (h : operation.validateSnapshot = true) :
    operation.reviewIsValid = true := by
  simp only [validateSnapshot, Bool.and_eq_true] at h
  exact h.2

lemma doubledAttempts_eq_some {n : ℕ} : operation.doubledAttempts = some n ↔
    operation.attemptCount * 2 ≤ u32Max ∧ operation.attemptCount * 2 = n := by
  simp [doubledAttempts]

section

variable (h : operation.validateSnapshot = true)
include h

/-- An accepted prepared snapshot has made no attempt. -/
theorem attemptCount_of_prepared
    (hsta : operation.state = .prepared) : operation.attemptCount = 0 := by
  have hrev := expectedRevision_of_valid h
  simp only [expectedRevision, hsta, ite_none_left_eq_some, not_or, not_not]
    at hrev
  exact hrev.1.1

/-- An accepted dispatching snapshot has made an attempt. -/
lemma revision_of_dispatching (hsta : operation.state = .dispatching) :
    1 ≤ operation.attemptCount ∧ operation.attemptCount * 2 ≤ u32Max ∧
      operation.revision + 1 = operation.attemptCount * 2 := by
  have hrev := expectedRevision_of_valid h
  simp only [expectedRevision, hsta, bind_eq_some_iff, doubledAttempts_eq_some,
    ite_none_right_eq_some, some.injEq] at hrev
  omega

/-- What the state of an accepted snapshot that ended an attempt says. -/
theorem revision_of_outcome (hsta : operation.state.isOutcome = true) :
    operation.revision = operation.attemptCount * 2 ∧ operation.review = none ∧
      (operation.state = .retryPending → operation.retryClass = .retrySafe) ∧
      (operation.state = .interruptedNeedsReview → operation.retryClass = .nonIdempotent) := by
  have hrev := expectedRevision_of_valid h
  have hreview := reviewIsValid_of_valid h
  cases hs : operation.state with
  | prepared | dispatching | reviewed | cancelled =>
    simp [hs, PrivilegedOperationState.isOutcome] at hsta
  | succeeded | failed =>
    simp only [expectedRevision, hs, ite_none_left_eq_some, doubledAttempts_eq_some]
      at hrev
    simp only [reviewIsValid, hs, isNone_iff_eq_none] at hreview
    exact ⟨hrev.2.2.symm, hreview, by simp, by simp⟩
  | retryPending =>
    simp only [expectedRevision, hs, ite_none_left_eq_some, doubledAttempts_eq_some, not_or,
      not_not] at hrev
    simp only [reviewIsValid, hs, isNone_iff_eq_none] at hreview
    exact ⟨hrev.2.2.symm, hreview, fun _ => hrev.1.1, by simp⟩
  | interruptedNeedsReview =>
    simp only [expectedRevision, hs, ite_none_right_eq_some, some.injEq] at hrev
    simp only [reviewIsValid, hs, isNone_iff_eq_none] at hreview
    exact ⟨by omega, hreview, by simp, fun _ => hrev.1.1⟩

end

/-- What the record of an outcome keeps of the dispatching record. -/
structure KeepsRecord (operation next : PrivilegedOperation) : Prop where
  intent_eq : next.intent = operation.intent
  attemptCount_eq : next.attemptCount = operation.attemptCount
  createdAt_eq : next.createdAt = operation.createdAt
  updatedAt_le : operation.updatedAt ≤ next.updatedAt

/-- An accepted record of an outcome that keeps the dispatching record differs from it only in the
fields of an edge. -/
lemma KeepsRecord.eq_moved (h : KeepsRecord operation next) (hval : operation.validateSnapshot)
    (hdisp : operation.state = .dispatching) (hnext : next.validateSnapshot)
    (hout : next.state.isOutcome) (hid : next.id = operation.id) :
    operation.revision < u64Max ∧ next = operation.moved next.state next.updatedAt := by
  obtain ⟨-, hmax, hrev⟩ := revision_of_dispatching hval hdisp
  obtain ⟨hrevision', hrev', -⟩ := revision_of_outcome hnext hout
  have hreview := reviewIsValid_of_valid hval
  simp only [reviewIsValid, hdisp, isNone_iff_eq_none] at hreview
  have hbound : u32Max < u64Max := by decide
  refine ⟨by omega, ?_⟩
  obtain ⟨intent, id, state, review, attemptCount, revision, createdAt, updatedAt⟩ := next
  obtain ⟨hint, hcnt, hcre, -⟩ := h
  dsimp only at hint hcnt hcre hid hrevision' hrev'
  subst hint hcnt hcre hid
  simp only [moved, mk.injEq, true_and, and_true]
  exact ⟨hrev'.trans hreview.symm, by omega⟩

/-- An outcome is the result of a method of the dispatching operation exactly when it keeps the
record. -/
theorem transition_iff_keepsRecord (hval : operation.validateSnapshot)
    (hdisp : operation.state = .dispatching) (hnext : next.validateSnapshot)
    (hout : next.state.isOutcome) (hid : next.id = operation.id) :
    Transition operation next ↔ KeepsRecord operation next := by
  constructor
  · intro h
    have hfol := h.follows
    refine ⟨hfol.intent_eq, ?_, hfol.createdAt_eq, hfol.updatedAt_le⟩
    have hsta : next.state ≠ .dispatching := by
      intro hsta
      simp [hsta, PrivilegedOperationState.isOutcome] at hout
    simpa [hsta] using hfol.attemptCount_eq
  · intro h
    obtain ⟨hmax, hmov⟩ := h.eq_moved hval hdisp hnext hout hid
    have hmove : ∀ state, next.state = state → operation.state.permits state = true →
        operation.moveTo state next.updatedAt = .ok next := by
      rintro _ rfl hperm
      exact moveTo_eq_ok.2 ⟨hperm, h.updatedAt_le, hmax, hmov⟩
    have hclass : next.retryClass = operation.retryClass :=
      congrArg (fun intent => intent.kind.retryClass) h.intent_eq
    obtain ⟨-, -, hsafe, hnon⟩ := revision_of_outcome hnext hout
    cases hsta : next.state with
    | prepared | dispatching | reviewed | cancelled =>
      simp [hsta, PrivilegedOperationState.isOutcome] at hout
    | succeeded => exact .succeed _ (hmove _ hsta (by rw [hdisp]; rfl))
    | failed => exact .fail _ (hmove _ hsta (by rw [hdisp]; rfl))
    | retryPending =>
      exact .scheduleRetry _ (scheduleRetry_eq_ok.2
        ⟨hclass.symm.trans (hsafe hsta), hmove _ hsta (by rw [hdisp]; rfl)⟩)
    | interruptedNeedsReview =>
      exact .interrupt _ (interrupt_eq_ok.2 (.inr
        ⟨hclass.symm.trans (hnon hsta), hmove _ hsta (by rw [hdisp]; rfl)⟩))

end PrivilegedOperation

end GrokDesktop
