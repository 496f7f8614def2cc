import GrokDesktop.Application.Ports
import GrokDesktop.Domain.PrivilegedOperation
import GrokDesktop.Lib.Table

/-!
# The privileged-operation journal of the in-memory store

The tables of `InMemoryExecutionStore` that hold privileged operations, their payloads and their
dispatch attempts, and the store calls on them. A caller hands over whole operations; the store
compares them with what it has.
-/

namespace GrokDesktop

open Except

/-! ## Records -/

/-- Exact attempt metadata committed atomically with `dispatching`. -/
structure PrivilegedDispatchAttempt where
  sequence : ℕ
  transportOperationId : String
  wireDigest : Digest
  brokerBootId : BitVec 128
  guestBootId : BitVec 128
  startedAt : UnixMillis
  deadlineUnixMs : UnixMillis
  deriving DecidableEq

/-- An attempt and the time at which its outcome was recorded. -/
structure StoredPrivilegedDispatchAttempt where
  attempt : PrivilegedDispatchAttempt
  completedAt : Option UnixMillis
  deriving DecidableEq

/-- Result of atomic intent preparation or a verified durable replay. -/
structure PrivilegedPreparation where
  operation : PrivilegedOperation
  /-- True only when this call committed the intent and payload. -/
  created : Bool
  deriving DecidableEq

structure PrivilegedJournal where
  operations : Table PrivilegedOperationId PrivilegedOperation := ∅
  operationKeys : Table (String × String) PrivilegedOperationId := ∅
  operationPayloads : Table PrivilegedOperationId (List UInt8) := ∅
  operationAttempts :
    Table PrivilegedOperationId (List StoredPrivilegedDispatchAttempt) := ∅
  transportIds : List String := []

/-! ## Checks -/

def invalidPrivilegedJournal : StoreError :=
  .internal "invalid durable privileged-operation journal"

def validatePrivilegedOperation (operation : PrivilegedOperation) :
    Except StoreError PrivilegedOperation :=
  operation.restore.mapError fun _ => invalidPrivilegedJournal

/-- Bounds of a payload, in bytes. -/
def minPrivilegedPayloadBytes : ℕ := 2

def maxPrivilegedPayloadBytes : ℕ := 8 * 1024 * 1024

/-- The payload is bounded and is the one the intent names. -/
def validatePrivilegedPayload [Sha256Library] (operation : PrivilegedOperation)
    (payload : List UInt8) : Except StoreError Unit :=
  rejectIf (¬ (minPrivilegedPayloadBytes ≤ payload.length ∧
      payload.length ≤ maxPrivilegedPayloadBytes) ∨
    Sha256Library.digest payload ≠ operation.payloadDigest) invalidPrivilegedJournal

/-- The form of a transport identity. -/
def isTransportId (value : String) : Bool :=
  decide (16 ≤ value.utf8ByteSize ∧ value.utf8ByteSize ≤ 128) && value.toList.all isSafeAscii

/-- The attempt belongs to the dispatching operation and is bounded to 30 seconds. -/
def validatePrivilegedAttempt (operation : PrivilegedOperation)
    (attempt : PrivilegedDispatchAttempt) : Except StoreError Unit :=
  rejectIf (operation.state ≠ .dispatching ∨
    attempt.sequence ≠ operation.attemptCount ∨
    attempt.startedAt ≠ operation.updatedAt ∨
    isTransportId attempt.transportOperationId = false ∨
    attempt.transportOperationId = operation.id.value ∨
    attempt.brokerBootId = 0 ∨
    attempt.guestBootId = 0 ∨
    ¬ (attempt.startedAt < attempt.deadlineUnixMs ∧
      attempt.deadlineUnixMs ≤ attempt.startedAt + 30000)) invalidPrivilegedJournal

def privilegedOperationKey (intent : PrivilegedOperationIntent) : String × String :=
  (intent.authority.grantId.value, intent.idempotency.key.value)

/-- Whether a stored operation has exactly the proposed intent. -/
def exactPrivilegedIntent (existing : PrivilegedOperation) (intent : PrivilegedOperationIntent) :
    Bool :=
  existing.kind = intent.kind && existing.target = intent.target &&
    existing.payloadDigest = intent.payloadDigest && existing.authority = intent.authority &&
    existing.idempotency = intent.idempotency && existing.links = intent.links

/-- Whether a stored operation has exactly the intent of the proposed one. -/
def exactPrivilegedReplay (existing proposed : PrivilegedOperation) : Bool :=
  exactPrivilegedIntent existing proposed.intent

lemma exactPrivilegedIntent_iff {existing : PrivilegedOperation}
    {intent : PrivilegedOperationIntent} :
    exactPrivilegedIntent existing intent = true ↔ existing.intent = intent := by
  obtain ⟨⟨kind, target, payload, authority, idempotency, links⟩, _⟩ := existing
  obtain ⟨kind', target', payload', authority', idempotency', links'⟩ := intent
  simp [exactPrivilegedIntent, PrivilegedOperation.intent, and_assoc]

namespace PrivilegedJournal

/-! ## Store calls -/

variable (s : PrivilegedJournal)

/-- The stored operation of an authority grant and idempotency key. -/
def storedByKey (id : PrivilegedOperationId) : Except StoreError PrivilegedOperation := do
  let existing ← okOr (s.operations.lookup id) invalidPrivilegedJournal
  validatePrivilegedOperation existing

/-- Resolves an existing authority and key, and conflicts on changed intent. -/
def resolvePreparation (intent : PrivilegedOperationIntent) :
    Except StoreError (Option PrivilegedOperation) :=
  match s.operationKeys.lookup (privilegedOperationKey intent) with
  | none => .ok none
  | some id => do
      let existing ← s.storedByKey id
      if exactPrivilegedIntent existing intent then return some existing
      else .error .conflict

/-- Atomically inserts intent and exact payload, or replays an exact match. -/
def prepareWithPayload [Sha256Library] (s : PrivilegedJournal) (operation : PrivilegedOperation)
    (payload : List UInt8) : Except StoreError PrivilegedPreparation × PrivilegedJournal :=
  settle s do
    rejectIf (operation.state ≠ .prepared) invalidPrivilegedJournal
    validatePrivilegedPayload operation payload
    let operation ← validatePrivilegedOperation operation
    let key := privilegedOperationKey operation.intent
    match s.operationKeys.lookup key with
    | some id => do
        let existing ← s.storedByKey id
        if !exactPrivilegedReplay existing operation then
          .error .conflict
        else return (⟨existing, false⟩, s)
    | none => do
        rejectIf (s.operations.contains operation.id = true) .conflict
        return (⟨operation, true⟩, { s with
          operationKeys := s.operationKeys.insert key operation.id
          operationPayloads := s.operationPayloads.insert operation.id payload
          operations := s.operations.insert operation.id operation })

def getPrivilegedOperation (id : PrivilegedOperationId) :
    Except StoreError PrivilegedOperation := do
  let operation ← okOr (s.operations.lookup id) .notFound
  validatePrivilegedOperation operation

def attemptsOf (id : PrivilegedOperationId) : List StoredPrivilegedDispatchAttempt :=
  (s.operationAttempts.lookup id).getD []

variable (operation : PrivilegedOperation)

/-- The comparison of a dispatched operation with the stored one. -/
def checkDispatch (expectedRevision : ℕ) (attempt : PrivilegedDispatchAttempt) :
    Except StoreError Unit := do
  let operation ← validatePrivilegedOperation operation
  validatePrivilegedAttempt operation attempt
  let current ← s.getPrivilegedOperation operation.id
  rejectIf (current.revision ≠ expectedRevision ∨
    current.dispatch attempt.startedAt ≠ .ok operation ∨
    s.transportIds.contains attempt.transportOperationId = true) .conflict

/-- Atomically moves an operation to dispatching and appends its attempt. The entry of the
attempts is created before their number is compared, so it stays when the comparison fails. -/
def beginDispatchWithAttempt (expectedRevision : ℕ) (attempt : PrivilegedDispatchAttempt) :
    Except StoreError PrivilegedOperation × PrivilegedJournal :=
  match s.checkDispatch operation expectedRevision attempt with
  | .error e => (.error e, s)
  | .ok () =>
      if (s.attemptsOf operation.id).length ≠ attempt.sequence - 1 then
        (.error .conflict, { s with
          operationAttempts := s.operationAttempts.insert operation.id
            (s.attemptsOf operation.id) })
      else
        (.ok operation, { s with
          operationAttempts := s.operationAttempts.insert operation.id
            (s.attemptsOf operation.id ++ [⟨attempt, none⟩])
          transportIds := attempt.transportOperationId :: s.transportIds
          operations := s.operations.insert operation.id operation })

/-- Records the outcome time of the last attempt. -/
def completeLastAttempt (id : PrivilegedOperationId) (attemptSequence : ℕ)
    (completedAt : UnixMillis) :
    Except StoreError (Table PrivilegedOperationId (List StoredPrivilegedDispatchAttempt)) := do
  let last ← okOr (s.attemptsOf id).getLast? invalidPrivilegedJournal
  rejectIf (last.attempt.sequence ≠ attemptSequence ∨ last.completedAt.isSome = true ∨
    completedAt < last.attempt.startedAt) .conflict
  return s.operationAttempts.insert id
    ((s.attemptsOf id).dropLast ++ [{ last with completedAt := some completedAt }])

/-- Atomically records unknown attempt certainty and its safe lifecycle edge. -/
def recoverInterruptedAttempt (expectedRevision attemptSequence : ℕ) (completedAt : UnixMillis) :
    Except StoreError PrivilegedOperation × PrivilegedJournal :=
  settle s do
    let operation ← validatePrivilegedOperation operation
    let current ← s.getPrivilegedOperation operation.id
    rejectIf (current.revision ≠ expectedRevision ∨
      current.attemptCount ≠ attemptSequence ∨
      current.interrupt completedAt ≠ .ok operation) .conflict
    let attempts ← s.completeLastAttempt operation.id attemptSequence completedAt
    return (operation, { s with
      operationAttempts := attempts
      operations := s.operations.insert operation.id operation })

/-- Atomically commits a dispatch outcome. The operation is not compared with the stored one. -/
def completeDispatchOutcome (expectedRevision attemptSequence : ℕ) (completedAt : UnixMillis) :
    Except StoreError PrivilegedOperation × PrivilegedJournal :=
  settle s do
    let operation ← validatePrivilegedOperation operation
    rejectIf (operation.state.isOutcome = false) invalidPrivilegedJournal
    let current ← s.getPrivilegedOperation operation.id
    rejectIf (current.revision ≠ expectedRevision ∨
      current.attemptCount ≠ attemptSequence ∨
      current.state ≠ .dispatching) .conflict
    let attempts ← s.completeLastAttempt operation.id attemptSequence completedAt
    return (operation, { s with
      operationAttempts := attempts
      operations := s.operations.insert operation.id operation })

end PrivilegedJournal

end GrokDesktop
