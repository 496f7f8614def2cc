import GrokDesktop.Domain.Automation

/-!
# Occurrences and the scheduler lease

An occurrence is the durable record of one scheduled slot: it is claimed by the owner of the
scheduler lease, linked to one run and ended with it. The lease carries a fence that grows with
every change of ownership.
-/

namespace GrokDesktop

open Except Option

/-- Maximum lifetime of one scheduler lease. -/
def maxAutomationSchedulerLeaseMs : ℕ := 60000
/-- Maximum number of volatile claims of one occurrence. -/
def maxAutomationOccurrenceClaimAttempts : ℕ := 16

/-! ## The lease -/

/-- Exact owner and fence that scheduler mutations require. -/
structure AutomationSchedulerLeaseToken where
  ownerId : AutomationSchedulerOwnerId
  fence : ℕ
  deriving DecidableEq

/-- Durable singleton scheduler lease. -/
structure AutomationSchedulerLease where
  ownerId : AutomationSchedulerOwnerId
  fence : ℕ
  acquiredAt : UnixMillis
  renewedAt : UnixMillis
  expiresAt : UnixMillis
  deriving DecidableEq

/-- Checks the lifetime of a lease. -/
def validateLeaseTtl (ttlMs : ℕ) : Except AutomationSchedulerError Unit :=
  rejectIf (ttlMs = 0 ∨ maxAutomationSchedulerLeaseMs < ttlMs) .invalidLease

namespace AutomationSchedulerLease

def acquire (ownerId : AutomationSchedulerOwnerId) (fence : ℕ) (now : UnixMillis) (ttlMs : ℕ) :
    Except AutomationSchedulerError AutomationSchedulerLease := do
  validateLeaseTtl ttlMs
  rejectIf (fence = 0) .invalidLease
  let expiresAt ← okOr (checkedAdd now ttlMs) .invalidLease
  return {
    ownerId := ownerId
    fence := fence
    acquiredAt := now
    renewedAt := now
    expiresAt := expiresAt }

variable (lease : AutomationSchedulerLease)

/-- Rehydrates a stored lease. -/
def restore : Except AutomationSchedulerError AutomationSchedulerLease := do
  rejectIf (lease.fence = 0 ∨ lease.renewedAt < lease.acquiredAt
    ∨ lease.expiresAt ≤ lease.renewedAt
    ∨ maxAutomationSchedulerLeaseMs < lease.expiresAt - lease.renewedAt) .invalidPersistedState
  return lease

/-- The token that fenced store mutations require. -/
def token : AutomationSchedulerLeaseToken where
  ownerId := lease.ownerId
  fence := lease.fence

/-- Whether this generation owns the instant. -/
def isValidAt (now : UnixMillis) : Bool :=
  lease.acquiredAt ≤ now && now < lease.expiresAt

/-- Renews an unexpired lease under the same token. -/
def renew (token : AutomationSchedulerLeaseToken) (now : UnixMillis) (ttlMs : ℕ) :
    Except AutomationSchedulerError AutomationSchedulerLease := do
  validateLeaseTtl ttlMs
  rejectIf (token.ownerId ≠ lease.ownerId ∨ token.fence ≠ lease.fence) .staleFence
  rejectIf (now < lease.renewedAt) .clockRegression
  rejectIf (lease.expiresAt ≤ now) .leaseExpired
  let expiresAt ← okOr (checkedAdd now ttlMs) .invalidLease
  return { lease with expiresAt := expiresAt, renewedAt := now }

/-- Transfers an expired lease to a new owner under a larger fence. -/
def takeOver (ownerId : AutomationSchedulerOwnerId) (fence : ℕ) (now : UnixMillis) (ttlMs : ℕ) :
    Except AutomationSchedulerError AutomationSchedulerLease := do
  rejectIf (now < lease.expiresAt) .leaseStillHeld
  rejectIf (fence ≤ lease.fence) .staleFence
  acquire ownerId fence now ttlMs

end AutomationSchedulerLease

/-! ## Occurrences -/

namespace AutomationOccurrenceState

/-- Whether the occurrence accepts no automatic transition. -/
def isTerminal : AutomationOccurrenceState → Bool
  | succeeded | failed | skippedMissed | skippedOverlap | skippedInvalidLocalTime
  | interruptedNeedsReview | cancelled => true
  | pending | queuedOverlap | claimed | runLinked => false

/-- The other states that one store call can move an occurrence to. -/
def successors : AutomationOccurrenceState → List AutomationOccurrenceState
  | pending => [claimed, runLinked]
  | claimed => [pending, runLinked, interruptedNeedsReview]
  | queuedOverlap => [pending]
  | runLinked => [succeeded, failed, interruptedNeedsReview, cancelled]
  | succeeded | failed | skippedMissed | skippedOverlap | skippedInvalidLocalTime
  | interruptedNeedsReview | cancelled => []

end AutomationOccurrenceState

/-- The uniqueness identity of a slot. -/
structure AutomationOccurrenceSlot where
  definitionRevision : ℕ
  nominalLocal : AutomationLocalDateTime
  deriving DecidableEq

/-- Exact fenced claim of an occurrence. -/
structure AutomationOccurrenceClaim where
  ownerId : AutomationSchedulerOwnerId
  fence : ℕ
  claimedAt : UnixMillis
  expiresAt : UnixMillis
  deriving DecidableEq

/-- Durable record of one scheduled occurrence. -/
structure AutomationOccurrence where
  id : AutomationOccurrenceId
  automationId : AutomationId
  snapshot : AutomationExecutionSnapshot
  nominalLocal : AutomationLocalDateTime
  scheduledFor : Option UnixMillis
  occurrenceCount : ℕ
  state : AutomationOccurrenceState
  claim : Option AutomationOccurrenceClaim
  runId : Option RunId
  claimAttemptCount : ℕ
  revision : ℕ
  createdAt : UnixMillis
  updatedAt : UnixMillis
  deriving DecidableEq

namespace AutomationOccurrence

variable (occurrence : AutomationOccurrence)

def slot : AutomationOccurrenceSlot where
  definitionRevision := occurrence.snapshot.definitionRevision
  nominalLocal := occurrence.nominalLocal

/-! ### Reachable shapes -/

/-- The claim and the run that belong to the state. -/
def lifecycleShape : Bool :=
  match occurrence.state with
  | .pending | .queuedOverlap | .skippedMissed | .skippedOverlap | .skippedInvalidLocalTime =>
      occurrence.claim.isNone && occurrence.runId.isNone
  | .claimed =>
      occurrence.claim.isSome && occurrence.runId.isNone && 0 < occurrence.claimAttemptCount
  | .runLinked =>
      occurrence.claim.isSome && occurrence.runId.isSome && 0 < occurrence.claimAttemptCount
  | .succeeded | .failed =>
      occurrence.claim.isNone && occurrence.runId.isSome && 0 < occurrence.claimAttemptCount
  | .interruptedNeedsReview =>
      occurrence.claim.isNone &&
        ((occurrence.runId.isSome && 0 < occurrence.claimAttemptCount) ||
          (occurrence.runId.isNone &&
            occurrence.claimAttemptCount = maxAutomationOccurrenceClaimAttempts))
  | .cancelled => occurrence.claim.isNone

/-- The revisions that the state can have after its claims. -/
def revisionShape : Bool :=
  let attempts := occurrence.claimAttemptCount
  let revision := occurrence.revision
  match occurrence.state with
  | .pending => 2 * attempts ≤ revision && revision % 2 = 0
  | .queuedOverlap | .skippedMissed | .skippedOverlap => 2 * attempts + 1 ≤ revision
  | .claimed => 0 < attempts && 2 * attempts - 1 ≤ revision && revision % 2 ≠ 0
  | .runLinked => 0 < attempts && 2 * attempts ≤ revision && revision % 2 = 0
  | .succeeded | .failed => 0 < attempts && 2 * attempts + 1 ≤ revision && revision % 2 ≠ 0
  | .cancelled =>
      if occurrence.runId.isSome then 0 < attempts && 2 * attempts + 1 ≤ revision
      else if 0 < attempts then 2 * attempts ≤ revision
      else 1 ≤ revision
  | .skippedInvalidLocalTime => attempts = 0 && revision = 0
  | .interruptedNeedsReview =>
      if occurrence.runId.isSome then
        0 < attempts && 2 * attempts + 1 ≤ revision && revision % 2 ≠ 0
      else
        attempts = maxAutomationOccurrenceClaimAttempts && 2 * attempts + 1 ≤ revision &&
          revision % 2 ≠ 0

/-- The claim is bounded and made during the life of the occurrence. -/
def claimShape : Bool :=
  occurrence.claim.all fun claim =>
    0 < claim.fence && claim.claimedAt < claim.expiresAt &&
      claim.expiresAt - claim.claimedAt ≤ maxAutomationSchedulerLeaseMs &&
      occurrence.createdAt ≤ claim.claimedAt && claim.claimedAt ≤ occurrence.updatedAt

section Zones

variable [TimezoneLibrary]

/-- The schedule has the slot at the recorded instant. -/
def exactDecision (occurrence : AutomationOccurrence) : Bool :=
  match occurrence.snapshot.schedule.decisionForNominal occurrence.snapshot.timezone
      occurrence.nominalLocal with
  | .ok decision => decision.scheduledFor = occurrence.scheduledFor
  | .error _ => false

/-- The fields can be reached together. -/
def reachableShape (occurrence : AutomationOccurrence) : Bool :=
  let scheduledShape :=
    if occurrence.state = .skippedInvalidLocalTime then occurrence.scheduledFor.isNone
    else occurrence.scheduledFor.isSome
  occurrence.exactDecision && scheduledShape && occurrence.lifecycleShape &&
    occurrence.revisionShape && occurrence.claimShape

variable [Sha256Library]

/-- Rehydrates a stored occurrence after checking its lifecycle and immutable parts. -/
def restore (occurrence : AutomationOccurrence) :
    Except AutomationSchedulerError AutomationOccurrence := do
  rejectIf (!occurrence.snapshot.restore.isOk ∨ !occurrence.nominalLocal.toNaive.isOk
    ∨ occurrence.occurrenceCount = 0
    ∨ maxAutomationOccurrenceClaimAttempts < occurrence.claimAttemptCount
    ∨ occurrence.updatedAt < occurrence.createdAt ∨ !occurrence.reachableShape)
    .invalidPersistedState
  return occurrence

/-! ### Materializing -/

def materialize (id : AutomationOccurrenceId) (automationId : AutomationId)
    (snapshot : AutomationExecutionSnapshot) (nominalLocal : AutomationLocalDateTime)
    (scheduledFor : Option UnixMillis) (occurrenceCount : ℕ) (state : AutomationOccurrenceState)
    (now : UnixMillis) : Except AutomationSchedulerError AutomationOccurrence := do
  let _ ← snapshot.restore
  let _ ← nominalLocal.toNaive.mapError .schedule
  rejectIf (occurrenceCount = 0) .invalidDecision
  restore {
    id := id
    automationId := automationId
    snapshot := snapshot
    nominalLocal := nominalLocal
    scheduledFor := scheduledFor
    occurrenceCount := occurrenceCount
    state := state
    claim := none
    runId := none
    claimAttemptCount := 0
    revision := 0
    createdAt := now
    updatedAt := now }

/-- Materializes a due occurrence in the pending state. -/
def pending (id : AutomationOccurrenceId) (automationId : AutomationId)
    (snapshot : AutomationExecutionSnapshot) (decision : AutomationScheduleDecision)
    (occurrenceCount : ℕ) (now : UnixMillis) :
    Except AutomationSchedulerError AutomationOccurrence :=
  match decision with
  | .due nominalLocal scheduledFor =>
      materialize id automationId snapshot nominalLocal (some scheduledFor) occurrenceCount .pending
        now
  | .skippedNonexistentLocalTime _ => .error .invalidDecision

/-- Materializes the skip of a slot in a gap. -/
def skippedInvalidLocalTime (id : AutomationOccurrenceId) (automationId : AutomationId)
    (snapshot : AutomationExecutionSnapshot) (decision : AutomationScheduleDecision)
    (now : UnixMillis) : Except AutomationSchedulerError AutomationOccurrence :=
  match decision with
  | .skippedNonexistentLocalTime nominalLocal =>
      materialize id automationId snapshot nominalLocal none 1 .skippedInvalidLocalTime now
  | .due _ _ => .error .invalidDecision

end Zones

/-! ### Transitions -/

/-- The error of a transition that the state does not have. -/
def invalidTransition (target : AutomationOccurrenceState) : AutomationSchedulerError :=
  .invalidOccurrenceTransition occurrence.state target

/-- Moves to a state at a time, and advances the revision. -/
def moveTo (next : AutomationOccurrenceState) (now : UnixMillis) :
    Except AutomationSchedulerError AutomationOccurrence := do
  rejectIf (now < occurrence.updatedAt) .clockRegression
  let revision ← advanceRevision occurrence.revision
  return { occurrence with revision := revision, state := next, updatedAt := now }

/-- Moves from a state without a claim or run. -/
def moveFrom (source next : AutomationOccurrenceState) (now : UnixMillis) :
    Except AutomationSchedulerError AutomationOccurrence := do
  rejectIf (occurrence.state ≠ source ∨ occurrence.claim.isSome ∨ occurrence.runId.isSome)
    (occurrence.invalidTransition next)
  occurrence.moveTo next now

/-- Moves from pending or queued without a claim or run. -/
def moveUnclaimedTo (next : AutomationOccurrenceState) (now : UnixMillis) :
    Except AutomationSchedulerError AutomationOccurrence := do
  rejectIf (¬ (occurrence.state = .pending ∨ occurrence.state = .queuedOverlap)
    ∨ occurrence.claim.isSome ∨ occurrence.runId.isSome) (occurrence.invalidTransition next)
  occurrence.moveTo next now

/-- Ends an occurrence with its linked run. -/
def finishLinked (runId : RunId) (next : AutomationOccurrenceState) (now : UnixMillis) :
    Except AutomationSchedulerError AutomationOccurrence := do
  rejectIf (occurrence.state ≠ .runLinked ∨ occurrence.runId ≠ some runId)
    (occurrence.invalidTransition next)
  let moved ← occurrence.moveTo next now
  return { moved with claim := none }

/-- Retains this pending occurrence as the one allowed overlap. -/
def queueOverlap (now : UnixMillis) : Except AutomationSchedulerError AutomationOccurrence := do
  rejectIf (occurrence.snapshot.overlapPolicy ≠ .queueOne)
    (occurrence.invalidTransition .queuedOverlap)
  occurrence.moveFrom .pending .queuedOverlap now

/-- Promotes the retained overlap. -/
def promoteQueued (now : UnixMillis) : Except AutomationSchedulerError AutomationOccurrence :=
  occurrence.moveFrom .queuedOverlap .pending now

/-- Ends a pending decision under the missed-run policy `skip`. -/
def skipMissed (now : UnixMillis) : Except AutomationSchedulerError AutomationOccurrence := do
  rejectIf (occurrence.snapshot.missedRunPolicy ≠ .skip)
    (occurrence.invalidTransition .skippedMissed)
  occurrence.moveUnclaimedTo .skippedMissed now

/-- Ends a pending or queued decision under the overlap policy. -/
def skipOverlap (now : UnixMillis) : Except AutomationSchedulerError AutomationOccurrence :=
  occurrence.moveUnclaimedTo .skippedOverlap now

def acquireClaim (token : AutomationSchedulerLeaseToken) (claimedAt expiresAt : UnixMillis) :
    Except AutomationSchedulerError AutomationOccurrence := do
  rejectIf (occurrence.state ≠ .pending) (occurrence.invalidTransition .claimed)
  rejectIf (occurrence.scheduledFor.any fun scheduledFor => claimedAt < scheduledFor)
    .invalidDecision
  rejectIf (token.fence = 0 ∨ expiresAt ≤ claimedAt
    ∨ maxAutomationSchedulerLeaseMs < expiresAt - claimedAt) .invalidLease
  rejectIf (maxAutomationOccurrenceClaimAttempts ≤ occurrence.claimAttemptCount)
    .claimAttemptsExhausted
  let moved ← occurrence.moveTo .claimed claimedAt
  return { moved with
    claimAttemptCount := occurrence.claimAttemptCount + 1
    claim := some {
      ownerId := token.ownerId
      fence := token.fence
      claimedAt := claimedAt
      expiresAt := expiresAt } }

/-- Returns an expired unlinked claim to pending. -/
def releaseExpiredClaim (now : UnixMillis) :
    Except AutomationSchedulerError AutomationOccurrence := do
  let claim ← okOr occurrence.claim .invalidPersistedState
  rejectIf (occurrence.state ≠ .claimed ∨ occurrence.runId.isSome ∨ now < claim.expiresAt)
    (occurrence.invalidTransition .pending)
  let moved ← occurrence.moveTo .pending now
  return { moved with claim := none }

/-- Links one run while the matching claim is live. -/
def linkRun (token : AutomationSchedulerLeaseToken) (runId : RunId) (now : UnixMillis) :
    Except AutomationSchedulerError AutomationOccurrence := do
  let claim ← okOr occurrence.claim .invalidPersistedState
  rejectIf (occurrence.state ≠ .claimed ∨ claim.ownerId ≠ token.ownerId
    ∨ claim.fence ≠ token.fence ∨ claim.expiresAt ≤ now) .staleFence
  let moved ← occurrence.moveTo .runLinked now
  return { moved with runId := some runId }

/-- Records successful completion of the linked run. -/
def succeed (runId : RunId) (now : UnixMillis) :
    Except AutomationSchedulerError AutomationOccurrence :=
  occurrence.finishLinked runId .succeeded now

/-- Records known failure of the linked run. -/
def fail (runId : RunId) (now : UnixMillis) :
    Except AutomationSchedulerError AutomationOccurrence :=
  occurrence.finishLinked runId .failed now

/-- Records that the linked run requires review. -/
def interrupt (runId : RunId) (now : UnixMillis) :
    Except AutomationSchedulerError AutomationOccurrence :=
  occurrence.finishLinked runId .interruptedNeedsReview now

/-- Ends a repeatedly reclaimed occurrence for review. -/
def markClaimsExhausted (now : UnixMillis) :
    Except AutomationSchedulerError AutomationOccurrence := do
  rejectIf (occurrence.state ≠ .pending ∨ occurrence.claim.isSome ∨ occurrence.runId.isSome
    ∨ occurrence.claimAttemptCount < maxAutomationOccurrenceClaimAttempts)
    (occurrence.invalidTransition .interruptedNeedsReview)
  occurrence.moveTo .interruptedNeedsReview now

/-- Cancels an occurrence that has not ended. -/
def cancel (now : UnixMillis) : Except AutomationSchedulerError AutomationOccurrence := do
  rejectIf occurrence.state.isTerminal (occurrence.invalidTransition .cancelled)
  let moved ← occurrence.moveTo .cancelled now
  return { moved with claim := none }

/-! ### What the transitions do -/

/-- The fields that no transition changes. -/
structure Origin where
  id : AutomationOccurrenceId
  automationId : AutomationId
  snapshot : AutomationExecutionSnapshot
  nominalLocal : AutomationLocalDateTime
  scheduledFor : Option UnixMillis
  occurrenceCount : ℕ
  createdAt : UnixMillis

/-- What an occurrence was materialized with. -/
def origin : Origin where
  id := occurrence.id
  automationId := occurrence.automationId
  snapshot := occurrence.snapshot
  nominalLocal := occurrence.nominalLocal
  scheduledFor := occurrence.scheduledFor
  occurrenceCount := occurrence.occurrenceCount
  createdAt := occurrence.createdAt

section Specifications

variable {old new : AutomationOccurrence} {now : UnixMillis}

/-- The occurrence in another state, one revision later. -/
def moved (occurrence : AutomationOccurrence) (next : AutomationOccurrenceState)
    (now : UnixMillis) : AutomationOccurrence :=
  { occurrence with revision := occurrence.revision + 1, state := next, updatedAt := now }

lemma advanceRevision_eq_ok {revision next : ℕ} :
    advanceRevision revision = .ok next ↔ revision + 1 ≤ u64Max ∧ revision + 1 = next := by
  simp only [advanceRevision, okOr_eq_ok, checkedAdd_eq_some]

variable {runId : RunId} {next : AutomationOccurrenceState} {token : AutomationSchedulerLeaseToken}
  {claimedAt expiresAt : UnixMillis}

/-- An accepted move. -/
lemma moveTo_eq_ok :
    old.moveTo next now = .ok new ↔
      old.updatedAt ≤ now ∧ old.revision + 1 ≤ u64Max ∧ new = old.moved next now := by
  simp only [moveTo, bind_eq_ok, rejectIf_eq_ok, exists_const, advanceRevision_eq_ok, return_eq_ok,
    Nat.not_lt]
  constructor
  · rintro ⟨hnow, _, ⟨hrev, rfl⟩, rfl⟩
    exact ⟨hnow, hrev, rfl⟩
  · rintro ⟨hnow, hrev, rfl⟩
    exact ⟨hnow, _, ⟨hrev, rfl⟩, rfl⟩

/-- A move, and a change to other fields after it. -/
lemma exists_moveTo_eq_ok {f : AutomationOccurrence → AutomationOccurrence} :
    (∃ moved, old.moveTo next now = .ok moved ∧ f moved = new) ↔
      old.updatedAt ≤ now ∧ old.revision + 1 ≤ u64Max ∧ new = f (old.moved next now) := by
  simp only [moveTo_eq_ok]
  constructor
  · rintro ⟨_, ⟨hnow, hrev, rfl⟩, rfl⟩
    exact ⟨hnow, hrev, rfl⟩
  · rintro ⟨hnow, hrev, rfl⟩
    exact ⟨_, ⟨hnow, hrev, rfl⟩, rfl⟩

lemma moveFrom_eq_ok {source : AutomationOccurrenceState} :
    old.moveFrom source next now = .ok new ↔
      (old.state = source ∧ old.claim = none ∧ old.runId = none) ∧
        old.updatedAt ≤ now ∧ old.revision + 1 ≤ u64Max ∧ new = old.moved next now := by
  simp only [moveFrom, bind_eq_ok, rejectIf_eq_ok, exists_const, moveTo_eq_ok, not_or, not_not,
    Bool.not_eq_true, isSome_eq_false_iff, isNone_iff_eq_none]

lemma moveUnclaimedTo_eq_ok :
    old.moveUnclaimedTo next now = .ok new ↔
      ((old.state = .pending ∨ old.state = .queuedOverlap) ∧ old.claim = none ∧ old.runId = none) ∧
        old.updatedAt ≤ now ∧ old.revision + 1 ≤ u64Max ∧ new = old.moved next now := by
  simp only [moveUnclaimedTo, bind_eq_ok, rejectIf_eq_ok, moveTo_eq_ok, not_or, not_and,
    Bool.not_eq_true, isSome_eq_false_iff, isNone_iff_eq_none]
  tauto

lemma finishLinked_eq_ok :
    old.finishLinked runId next now = .ok new ↔
      (old.state = .runLinked ∧ old.runId = some runId) ∧
        old.updatedAt ≤ now ∧ old.revision + 1 ≤ u64Max ∧
        new = { old.moved next now with claim := none } := by
  simp only [finishLinked, bind_eq_ok, rejectIf_eq_ok, exists_const, exists_moveTo_eq_ok, not_or,
    not_not, return_eq_ok]

lemma cancel_eq_ok :
    old.cancel now = .ok new ↔
      old.state.isTerminal = false ∧ old.updatedAt ≤ now ∧ old.revision + 1 ≤ u64Max ∧
        new = { old.moved .cancelled now with claim := none } := by
  simp only [cancel, bind_eq_ok, rejectIf_eq_ok, exists_const, exists_moveTo_eq_ok,
    Bool.not_eq_true, return_eq_ok]

lemma queueOverlap_eq_ok :
    old.queueOverlap now = .ok new ↔
      old.snapshot.overlapPolicy = .queueOne ∧
        (old.state = .pending ∧ old.claim = none ∧ old.runId = none) ∧
        old.updatedAt ≤ now ∧ old.revision + 1 ≤ u64Max ∧
        new = old.moved .queuedOverlap now := by
  simp only [queueOverlap, bind_eq_ok, rejectIf_eq_ok, exists_const, moveFrom_eq_ok, not_not]

/-- The occurrence with a claim under the token. -/
def claimedBy (occurrence : AutomationOccurrence) (token : AutomationSchedulerLeaseToken)
    (claimedAt expiresAt : UnixMillis) : AutomationOccurrence :=
  { occurrence.moved .claimed claimedAt with
    claimAttemptCount := occurrence.claimAttemptCount + 1
    claim := some {
      ownerId := token.ownerId
      fence := token.fence
      claimedAt := claimedAt
      expiresAt := expiresAt } }

/-- An accepted claim. -/
lemma acquireClaim_eq_ok :
    old.acquireClaim token claimedAt expiresAt = .ok new ↔
      (old.state = .pending ∧ (old.scheduledFor.any fun due => claimedAt < due) = false
        ∧ token.fence ≠ 0 ∧ claimedAt < expiresAt
        ∧ expiresAt - claimedAt ≤ maxAutomationSchedulerLeaseMs
        ∧ old.claimAttemptCount < maxAutomationOccurrenceClaimAttempts) ∧
        old.updatedAt ≤ claimedAt ∧ old.revision + 1 ≤ u64Max ∧
        new = old.claimedBy token claimedAt expiresAt := by
  simp only [acquireClaim, bind_eq_ok, rejectIf_eq_ok, exists_const, exists_moveTo_eq_ok, not_or,
    not_not, not_le, not_lt, Bool.not_eq_true, return_eq_ok, and_assoc]
  rfl

/-- An accepted release. -/
lemma releaseExpiredClaim_eq_ok :
    old.releaseExpiredClaim now = .ok new ↔
      (old.state = .claimed ∧ old.runId = none
        ∧ ∃ claim, old.claim = some claim ∧ claim.expiresAt ≤ now) ∧
        old.updatedAt ≤ now ∧ old.revision + 1 ≤ u64Max ∧
        new = { old.moved .pending now with claim := none } := by
  simp only [releaseExpiredClaim, bind_eq_ok, okOr_eq_ok, rejectIf_eq_ok, exists_const,
    exists_moveTo_eq_ok, not_or, not_not, not_lt, Bool.not_eq_true, isSome_eq_false_iff,
    isNone_iff_eq_none, return_eq_ok]
  constructor
  · rintro ⟨claim, hclm, ⟨hsta, hrun, hexp⟩, hmov⟩
    exact ⟨⟨hsta, hrun, claim, hclm, hexp⟩, hmov⟩
  · rintro ⟨⟨hsta, hrun, claim, hclm, hexp⟩, hmov⟩
    exact ⟨claim, hclm, ⟨hsta, hrun, hexp⟩, hmov⟩

/-- An accepted link to a run. -/
lemma linkRun_eq_ok :
    old.linkRun token runId now = .ok new ↔
      (old.state = .claimed ∧ ∃ claim, old.claim = some claim ∧ claim.ownerId = token.ownerId
        ∧ claim.fence = token.fence ∧ now < claim.expiresAt) ∧
        old.updatedAt ≤ now ∧ old.revision + 1 ≤ u64Max ∧
        new = { old.moved .runLinked now with runId := some runId } := by
  simp only [linkRun, bind_eq_ok, okOr_eq_ok, rejectIf_eq_ok, exists_const, exists_moveTo_eq_ok,
    not_or, not_not, not_le, return_eq_ok]
  constructor
  · rintro ⟨claim, hclm, ⟨hsta, hval⟩, hmov⟩
    exact ⟨⟨hsta, claim, hclm, hval⟩, hmov⟩
  · rintro ⟨⟨hsta, claim, hclm, hval⟩, hmov⟩
    exact ⟨claim, hclm, ⟨hsta, hval⟩, hmov⟩

lemma markClaimsExhausted_eq_ok :
    old.markClaimsExhausted now = .ok new ↔
      (old.state = .pending ∧ old.claim = none ∧ old.runId = none
        ∧ maxAutomationOccurrenceClaimAttempts ≤ old.claimAttemptCount) ∧
        old.updatedAt ≤ now ∧ old.revision + 1 ≤ u64Max ∧
        new = old.moved .interruptedNeedsReview now := by
  simp only [markClaimsExhausted, bind_eq_ok, rejectIf_eq_ok, exists_const, moveTo_eq_ok, not_or,
    not_not, not_lt, Bool.not_eq_true, isSome_eq_false_iff, isNone_iff_eq_none]

section Restore

variable [TimezoneLibrary] [Sha256Library]

variable {occurrence : AutomationOccurrence}

/-- What the check of a stored occurrence says. -/
theorem restore_isOk_iff :
    occurrence.restore.isOk = true ↔
      occurrence.snapshot.restore.isOk = true ∧ occurrence.nominalLocal.toNaive.isOk = true ∧
        occurrence.occurrenceCount ≠ 0 ∧
        occurrence.claimAttemptCount ≤ maxAutomationOccurrenceClaimAttempts ∧
        occurrence.createdAt ≤ occurrence.updatedAt ∧ occurrence.reachableShape = true := by
  simp only [isOk_iff, restore, bind_eq_ok, rejectIf_eq_ok, not_or, Bool.not_eq_true,
    Bool.not_eq_false']
  simp

lemma lifecycleShape_of_restore
    (h : occurrence.restore.isOk = true) : occurrence.lifecycleShape = true := by
  obtain ⟨-, -, -, -, -, hshp⟩ := restore_isOk_iff.1 h
  simp only [reachableShape, Bool.and_eq_true] at hshp
  exact hshp.1.1.2

end Restore

/-! ### The claim and the run of each state -/

/-- What a call leaves of a stored occurrence: its origin and its run, in a state that follows the
old one, with the claim and the run of that state. -/
structure Later (old new : AutomationOccurrence) : Prop where
  origin_eq : new.origin = old.origin
  updatedAt_le : old.updatedAt ≤ new.updatedAt
  runId_eq : ∀ runId, old.runId = some runId → new.runId = some runId
  lifecycle : new.lifecycleShape = true
  state_mem : new.state = old.state ∨ new.state ∈ old.state.successors

lemma Later.refl (hshp : old.lifecycleShape = true) : old.Later old :=
  ⟨rfl, le_rfl, fun _ h => h, hshp, .inl rfl⟩

lemma Later.id_eq (h : old.Later new) : new.id = old.id :=
  congrArg Origin.id h.origin_eq

lemma Later.automationId_eq (h : old.Later new) : new.automationId = old.automationId :=
  congrArg Origin.automationId h.origin_eq

/-- A claim leaves a later form. -/
lemma later_acquireClaim (hshp : old.lifecycleShape = true)
    (h : old.acquireClaim token claimedAt expiresAt = .ok new) : old.Later new := by
  obtain ⟨⟨hsta, -⟩, hnow, -, rfl⟩ := acquireClaim_eq_ok.1 h
  have hrun : old.claim = none ∧ old.runId = none := by simpa [lifecycleShape, hsta] using hshp
  refine ⟨rfl, hnow, fun _ h => h, ?_, .inr ?_⟩
  · simp [lifecycleShape, claimedBy, moved, hrun.2]
  · simp [hsta, AutomationOccurrenceState.successors, claimedBy, moved]

/-- A link leaves a later form. -/
lemma later_linkRun (hshp : old.lifecycleShape = true)
    (h : old.linkRun token runId now = .ok new) :
    old.Later new := by
  obtain ⟨⟨hsta, claim, hclm, -⟩, hnow, -, rfl⟩ := linkRun_eq_ok.1 h
  simp only [lifecycleShape, hsta, Bool.and_eq_true, isNone_iff_eq_none] at hshp
  refine ⟨rfl, hnow, fun r hr => ?_, ?_, .inr ?_⟩
  · rw [hshp.1.2] at hr
    cases hr
  · simp [lifecycleShape, moved, hclm, hshp.2]
  · simp [hsta, AutomationOccurrenceState.successors, moved]

/-- An occurrence that is claimed and linked at once. -/
theorem later_bind {claimed : AutomationOccurrence} (hshp : old.lifecycleShape = true)
    (hclm : old.acquireClaim token claimedAt expiresAt = .ok claimed)
    (hlink : claimed.linkRun token runId now = .ok new) : old.Later new := by
  have hcla := later_acquireClaim hshp hclm
  have hlinked := later_linkRun hcla.lifecycle hlink
  refine ⟨hlinked.origin_eq.trans hcla.origin_eq,
    hcla.updatedAt_le.trans hlinked.updatedAt_le,
    fun r hr => hlinked.runId_eq r (hcla.runId_eq r hr), hlinked.lifecycle, .inr ?_⟩
  obtain ⟨⟨hsta, -⟩, -⟩ := acquireClaim_eq_ok.1 hclm
  obtain ⟨-, -, -, rfl⟩ := linkRun_eq_ok.1 hlink
  simp [hsta, AutomationOccurrenceState.successors, moved]

/-- A release leaves a later form. -/
lemma later_releaseExpiredClaim (h : old.releaseExpiredClaim now = .ok new) : old.Later new := by
  obtain ⟨⟨hsta, hrun, -⟩, hnow, -, rfl⟩ := releaseExpiredClaim_eq_ok.1 h
  refine ⟨rfl, hnow, fun _ h => h, ?_, .inr ?_⟩
  · simp [lifecycleShape, moved, hrun]
  · simp [hsta, AutomationOccurrenceState.successors, moved]

/-- An occurrence whose last claim is released and exhausted at once. -/
theorem later_exhaust {released : AutomationOccurrence}
    (hrel : old.releaseExpiredClaim now = .ok released)
    (hcnt : released.claimAttemptCount = maxAutomationOccurrenceClaimAttempts)
    (h : released.markClaimsExhausted now = .ok new) : old.Later new := by
  obtain ⟨⟨hsta, hrun, -⟩, hnow, -, rfl⟩ := releaseExpiredClaim_eq_ok.1 hrel
  obtain ⟨-, -, -, rfl⟩ := markClaimsExhausted_eq_ok.1 h
  refine ⟨rfl, hnow, fun _ h => h, ?_, .inr ?_⟩
  · simp [lifecycleShape, moved] at hcnt ⊢
    simp [hrun, hcnt]
  · simp [hsta, AutomationOccurrenceState.successors, moved]

/-- An end leaves a later form. -/
lemma later_finishLinked (hshp : old.lifecycleShape = true)
    (h : old.finishLinked runId next now = .ok new)
    (hnext : next = .succeeded ∨ next = .failed ∨ next = .interruptedNeedsReview) :
    old.Later new := by
  obtain ⟨⟨hsta, hrun⟩, hnow, -, rfl⟩ := finishLinked_eq_ok.1 h
  simp only [lifecycleShape, hsta, Bool.and_eq_true] at hshp
  refine ⟨rfl, hnow, fun _ h => h, ?_, .inr ?_⟩
  · rcases hnext with rfl | rfl | rfl <;> simp [lifecycleShape, moved, hrun, hshp.2]
  · rcases hnext with rfl | rfl | rfl <;>
      simp [hsta, AutomationOccurrenceState.successors, moved]

lemma later_cancel (hlink : old.state = .runLinked) (h : old.cancel now = .ok new) :
    old.Later new := by
  obtain ⟨-, hnow, -, rfl⟩ := cancel_eq_ok.1 h
  refine ⟨rfl, hnow, fun _ h => h, ?_, .inr ?_⟩
  · simp [lifecycleShape, moved]
  · simp [hlink, AutomationOccurrenceState.successors, moved]

/-- A promotion leaves a later form. -/
lemma later_promoteQueued (h : old.promoteQueued now = .ok new) : old.Later new := by
  obtain ⟨⟨hsta, hclm, hrun⟩, hnow, -, rfl⟩ := moveFrom_eq_ok.1 h
  refine ⟨rfl, hnow, fun _ h => h, ?_, .inr ?_⟩
  · simp [lifecycleShape, moved, hclm, hrun]
  · simp [hsta, AutomationOccurrenceState.successors, moved]

end Specifications

end AutomationOccurrence

end GrokDesktop
