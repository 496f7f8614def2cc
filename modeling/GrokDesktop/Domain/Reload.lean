import GrokDesktop.Domain.Occurrence

/-!
# Reloading an occurrence

The methods of an occurrence change it in place, and do there what its transitions compute. Each
makes its checks before its first assignment, so one that fails leaves the occurrence as it was, and
what the others leave passes the check of a stored occurrence. That check alone is not kept: the
promotion of a queued occurrence needs the odd revision that queueing gives it.
-/

namespace GrokDesktop.AutomationOccurrence

open Except
open MonadExcept (ofExcept)

/-! ## The methods in place -/

/-- What a method with a mutable receiver does. -/
abbrev Method := ExceptT AutomationSchedulerError (StateM AutomationOccurrence) Unit

/-- A method: its own checks, those of every method, and the assignments one after the other. -/
def method (check : AutomationOccurrence → Except AutomationSchedulerError Unit)
    (next : AutomationOccurrenceState) (now : UnixMillis)
    (assign : AutomationOccurrence → AutomationOccurrence) : Method := do
  let self ← get
  ofExcept (check self)
  ofExcept (rejectIf (now < self.updatedAt) .clockRegression)
  let revision ← ofExcept (advanceRevision self.revision)
  modify fun self => { self with revision := revision }
  modify assign
  modify fun self => { self with state := next }
  modify fun self => { self with updatedAt := now }

/-- The moves from some states without a claim or run. -/
def moveMethod (sources : List AutomationOccurrenceState) (next : AutomationOccurrenceState)
    (now : UnixMillis) (allowed : AutomationOccurrence → Bool := fun _ => true) : Method :=
  method (fun self => do
    rejectIf (!allowed self) (self.invalidTransition next)
    rejectIf (self.state ∉ sources ∨ self.claim.isSome ∨ self.runId.isSome)
      (self.invalidTransition next)) next now fun self => self

def finishMethod (runId : RunId) (next : AutomationOccurrenceState) (now : UnixMillis) :
    Method :=
  method (fun self => rejectIf (self.state ≠ .runLinked ∨ self.runId ≠ some runId)
    (self.invalidTransition next)) next now fun self => { self with claim := none }

/-- The calls of the methods. -/
inductive Call where
  | queueOverlap
  | promoteQueued
  | skipMissed
  | skipOverlap
  | claim (token : AutomationSchedulerLeaseToken) (expiresAt : UnixMillis)
  | releaseExpiredClaim
  | linkRun (token : AutomationSchedulerLeaseToken) (runId : RunId)
  | succeed (runId : RunId)
  | fail (runId : RunId)
  | interrupt (runId : RunId)
  | markClaimsExhausted
  | cancel

/-- The methods as the source has them, called at a time. -/
def Call.perform (now : UnixMillis) : Call → Method
  | queueOverlap => moveMethod [.pending] .queuedOverlap now
      fun self => self.snapshot.overlapPolicy = .queueOne
  | promoteQueued => moveMethod [.queuedOverlap] .pending now
  | skipMissed => moveMethod [.pending, .queuedOverlap] .skippedMissed now
      fun self => self.snapshot.missedRunPolicy = .skip
  | skipOverlap => moveMethod [.pending, .queuedOverlap] .skippedOverlap now
  | claim token expiresAt => method (fun self => do
      rejectIf (self.state ≠ .pending) (self.invalidTransition .claimed)
      rejectIf (self.scheduledFor.any fun scheduledFor => now < scheduledFor) .invalidDecision
      rejectIf (token.fence = 0 ∨ expiresAt ≤ now
        ∨ maxAutomationSchedulerLeaseMs < expiresAt - now) .invalidLease
      rejectIf (maxAutomationOccurrenceClaimAttempts ≤ self.claimAttemptCount)
        .claimAttemptsExhausted) .claimed now fun self => { self with
          claimAttemptCount := self.claimAttemptCount + 1
          claim := some ⟨token.ownerId, token.fence, now, expiresAt⟩ }
  | releaseExpiredClaim => method (fun self => do
      let claim ← okOr self.claim .invalidPersistedState
      rejectIf (self.state ≠ .claimed ∨ self.runId.isSome ∨ now < claim.expiresAt)
        (self.invalidTransition .pending)) .pending now fun self => { self with claim := none }
  | linkRun token runId => method (fun self => do
      let claim ← okOr self.claim .invalidPersistedState
      rejectIf (self.state ≠ .claimed ∨ claim.ownerId ≠ token.ownerId
        ∨ claim.fence ≠ token.fence ∨ claim.expiresAt ≤ now) .staleFence) .runLinked now
          fun self => { self with runId := some runId }
  | succeed runId => finishMethod runId .succeeded now
  | fail runId => finishMethod runId .failed now
  | interrupt runId => finishMethod runId .interruptedNeedsReview now
  | markClaimsExhausted => method (fun self =>
      rejectIf (self.state ≠ .pending ∨ self.claim.isSome ∨ self.runId.isSome
        ∨ self.claimAttemptCount < maxAutomationOccurrenceClaimAttempts)
        (self.invalidTransition .interruptedNeedsReview)) .interruptedNeedsReview now
          fun self => self
  | cancel => method (fun self =>
      rejectIf self.state.isTerminal (self.invalidTransition .cancelled)) .cancelled now
        fun self => { self with claim := none }

/-- The occurrence after a call at a time. -/
def afterCall (self : AutomationOccurrence) (call : UnixMillis × Call) : AutomationOccurrence :=
  ((call.2.perform call.1).run.run self).2

/-- What the calls make of a new occurrence, one after the other. -/
def afterCalls (start : Except AutomationSchedulerError AutomationOccurrence)
    (calls : List (UnixMillis × Call)) : Except AutomationSchedulerError AutomationOccurrence :=
  start.map fun self => calls.foldl afterCall self

/-! ## What a method leaves -/

section Reload

variable {old : AutomationOccurrence} {next : AutomationOccurrenceState} {now : UnixMillis}
  {check : AutomationOccurrence → Except AutomationSchedulerError Unit}
  {assign : AutomationOccurrence → AutomationOccurrence}

/-- What a method computes: the checks, and then the occurrence with the assignments made. -/
def assigned (old : AutomationOccurrence)
    (check : AutomationOccurrence → Except AutomationSchedulerError Unit)
    (next : AutomationOccurrenceState) (now : UnixMillis)
    (assign : AutomationOccurrence → AutomationOccurrence) :
    Except AutomationSchedulerError AutomationOccurrence := do
  check old
  rejectIf (now < old.updatedAt) .clockRegression
  let revision ← advanceRevision old.revision
  return { assign { old with revision := revision } with state := next, updatedAt := now }

/-- A method in place is the pure transition. -/
lemma performs_method :
    Performs (method check next now assign) old (old.assigned check next now assign) :=
  .check fun _ => .check fun _ => .check fun _ => rfl

/-- A method fails and changes nothing, or passes its checks and makes its assignments. -/
lemma method_cases :
    (∃ e, (method check next now assign).run.run old = (.error e, old)) ∨
      check old = .ok () ∧ old.updatedAt ≤ now ∧
        (method check next now assign).run.run old = (.ok (), { assign
          { old with revision := old.revision + 1 } with state := next, updatedAt := now }) := by
  have h : Performs (method check next now assign) old _ := performs_method
  unfold Performs at h
  split at h
  · rename_i hok
    simp only [assigned, bind_eq_ok, rejectIf_eq_ok, exists_const, not_lt, advanceRevision_eq_ok,
      return_eq_ok] at hok
    obtain ⟨_, hchk, hnow, _, ⟨-, rfl⟩, rfl⟩ := hok
    exact .inr ⟨hchk, hnow, h⟩
  · exact .inl ⟨_, h⟩

/-- The transition that a call asks for, as a function on occurrences. -/
def Call.transition (now : UnixMillis) (self : AutomationOccurrence) :
    Call → Except AutomationSchedulerError AutomationOccurrence
  | queueOverlap => self.queueOverlap now
  | promoteQueued => self.promoteQueued now
  | skipMissed => self.skipMissed now
  | skipOverlap => self.skipOverlap now
  | claim token expiresAt => self.acquireClaim token now expiresAt
  | releaseExpiredClaim => self.releaseExpiredClaim now
  | linkRun token runId => self.linkRun token runId now
  | succeed runId => self.succeed runId now
  | fail runId => self.fail runId now
  | interrupt runId => self.interrupt runId now
  | markClaimsExhausted => self.markClaimsExhausted now
  | cancel => self.cancel now

/-- In place the methods do what the transitions compute, errors included. -/
theorem Call.performs (call : Call) (now : UnixMillis) (self : AutomationOccurrence) :
    Performs (call.perform now) self (call.transition now self) := by
  cases call
  all_goals refine cast (congrArg (Performs _ self) ?_) performs_method
  case queueOverlap | promoteQueued | skipMissed | skipOverlap =>
    have hfree (e : AutomationSchedulerError) : rejectIf False e = .ok () := rfl
    simp [hfree, assigned, transition, AutomationOccurrence.queueOverlap,
      AutomationOccurrence.skipMissed, AutomationOccurrence.promoteQueued,
      AutomationOccurrence.skipOverlap, moveFrom, moveUnclaimedTo, moveTo]
  all_goals
    simp only [assigned, transition, acquireClaim, AutomationOccurrence.releaseExpiredClaim,
      AutomationOccurrence.linkRun, AutomationOccurrence.succeed, AutomationOccurrence.fail,
      AutomationOccurrence.interrupt, finishLinked, AutomationOccurrence.markClaimsExhausted,
      AutomationOccurrence.cancel, moveTo, bind_assoc, pure_bind]

variable [TimezoneLibrary] [Sha256Library] {self : AutomationOccurrence}

/-- An occurrence that passes the check of a stored one and can be moved on. -/
structure Reloadable (occurrence : AutomationOccurrence) : Prop where
  restore : occurrence.restore.isOk = true
  queued : occurrence.state = .queuedOverlap → occurrence.revision % 2 = 1

/-- A method keeps an occurrence reloadable. -/
lemma Reloadable.method (h : Reloadable old)
    (hok : check old = .ok () → old.updatedAt ≤ now → Reloadable { assign
      { old with revision := old.revision + 1 } with state := next, updatedAt := now }) :
    Reloadable ((method check next now assign).run.run old).2 := by
  rcases method_cases with ⟨e, he⟩ | ⟨hchk, hnow, hrun⟩
  · rw [he]
    exact h
  · rw [hrun]
    exact hok hchk hnow

/-- A method starts from the states that its check names, and the revisions of those states are one
below those of the next. -/
theorem Call.keeps (call : Call) (now : UnixMillis) (h : Reloadable old) :
    Reloadable ((call.perform now).run.run old).2 := by
  obtain ⟨hsnap, hloc, hcnt, hatt, htime, hreach⟩ := restore_isOk_iff.1 h.restore
  have hodd := h.queued
  cases call
  all_goals
    refine h.method fun hchk hnow => ?_
    have hcre := htime.trans hnow
    simp only [bind_eq_ok, rejectIf_eq_ok, okOr_eq_ok, exists_const, not_or, not_not,
      not_lt] at hchk
    -- the check leaves few of the states to start from
    cases hsta : old.state <;>
      simp [hsta, AutomationOccurrenceState.isTerminal] at hchk
  all_goals
    refine ⟨restore_isOk_iff.2 ⟨hsnap, hloc, hcnt, ?_, hcre, ?_⟩, ?_⟩
  all_goals
    clear h hsnap hloc hcnt
    simp only [reachableShape, Bool.and_eq_true] at hreach ⊢
    obtain ⟨⟨⟨⟨hdec, hsched⟩, hlife⟩, hrev⟩, hclm⟩ := hreach
    simp_all [lifecycleShape, revisionShape, claimShape, exactDecision,
      maxAutomationOccurrenceClaimAttempts]
  all_goals grind

lemma restore_eq_ok (h : old.restore = .ok self) : self = old := by
  simp only [restore, bind_eq_ok, return_eq_ok] at h
  obtain ⟨-, -, rfl⟩ := h
  rfl

/-- A new occurrence is reloadable. -/
lemma materialize_reloadable {id : AutomationOccurrenceId} {automationId : AutomationId}
    {snapshot : AutomationExecutionSnapshot} {nominalLocal : AutomationLocalDateTime}
    {scheduledFor : Option UnixMillis} {occurrenceCount : ℕ} (hnext : next ≠ .queuedOverlap)
    (h : materialize id automationId snapshot nominalLocal scheduledFor occurrenceCount next now
      = .ok self) : Reloadable self := by
  simp only [materialize, bind_eq_ok] at h
  obtain ⟨-, -, -, -, -, -, hres⟩ := h
  obtain rfl := restore_eq_ok hres
  exact ⟨isOk_iff.2 ⟨_, hres⟩, fun hsta => absurd hsta hnext⟩

/-- Whatever the calls leave is restored as it is. -/
lemma afterCalls_restore {start : Except AutomationSchedulerError AutomationOccurrence}
    (h : ∀ self, start = .ok self → Reloadable self) (calls : List (UnixMillis × Call)) :
    afterCalls start calls >>= restore = afterCalls start calls := by
  cases start with
  | error e => rfl
  | ok self =>
    have hrel : Reloadable (calls.foldl afterCall self) :=
      List.foldlRecOn calls _ (h self rfl) fun self hrel call _ => call.2.keeps call.1 hrel
    obtain ⟨result, hres⟩ := isOk_iff.1 hrel.restore
    rw [restore_eq_ok hres] at hres
    simp only [afterCalls, Except.map, bind_eq_ok]
    exact ⟨_, rfl, hres⟩

/-- Whatever the methods are called with, the occurrence that they leave of a materialized one is
its own reload, and a method that fails leaves every occurrence as it was. -/
theorem occurrence_reloads (id : AutomationOccurrenceId) (automationId : AutomationId)
    (snapshot : AutomationExecutionSnapshot) (decision : AutomationScheduleDecision)
    (occurrenceCount : ℕ) (created : UnixMillis) (calls : List (UnixMillis × Call)) :
    let due := afterCalls (pending id automationId snapshot decision occurrenceCount created) calls
    let skipped :=
      afterCalls (skippedInvalidLocalTime id automationId snapshot decision created) calls
    due >>= restore = due ∧ skipped >>= restore = skipped ∧
      ∀ (self : AutomationOccurrence) (now : UnixMillis) (call : Call),
        ((call.perform now).run.run self).1 = .ok () ∨
          ((call.perform now).run.run self).2 = self := by
  refine ⟨afterCalls_restore (fun self h => ?_) calls, afterCalls_restore (fun self h => ?_) calls,
    fun self now call => ?_⟩
  · cases decision with
    | due _ _ => exact materialize_reloadable (by decide) h
    | skippedNonexistentLocalTime _ => cases h
  · cases decision with
    | due _ _ => cases h
    | skippedNonexistentLocalTime _ => exact materialize_reloadable (by decide) h
  · have hperforms := call.performs now self
    unfold Performs at hperforms
    split at hperforms
    · exact .inl (by rw [hperforms])
    · exact .inr (by rw [hperforms])

end Reload

end GrokDesktop.AutomationOccurrence
