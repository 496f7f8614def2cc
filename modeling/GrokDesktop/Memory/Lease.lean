import GrokDesktop.Memory.Slots

/-!
# The scheduler lease

The lease has one owner and a fence. A renewal keeps both, and a takeover raises the fence by one,
so a token that was taken over never owns the lease again. The clock floor of the journal is the
latest of its times, and no call takes one of them back.
-/

namespace GrokDesktop

open Resumption Table AutomationOccurrence AutomationSchedulerLease List
open Except

section Lease

variable {s s' : SchedulerState}

/-- The times that the clock floor is the latest of. -/
inductive DurableTime (s : SchedulerState) : UnixMillis → Prop
  | lease {lease : AutomationSchedulerLease} (h : s.automationSchedulerLease = some lease) :
      DurableTime s lease.renewedAt
  | evaluated {id : AutomationId} {cursor : AutomationScheduleCursor}
      (h : s.automationScheduleCursors.lookup id = some cursor) :
      DurableTime s cursor.evaluatedThrough
  | advanced {id : AutomationId} {cursor : AutomationScheduleCursor}
      (h : s.automationScheduleCursors.lookup id = some cursor) : DurableTime s cursor.updatedAt
  | occurrence {id : AutomationOccurrenceId} {occurrence : AutomationOccurrence}
      (h : s.automationOccurrences.lookup id = some occurrence) :
      DurableTime s occurrence.updatedAt
  | claimed {id : AutomationOccurrenceId} {attempts : List AutomationOccurrenceClaimAttempt}
      {attempt : AutomationOccurrenceClaimAttempt}
      (h : s.automationOccurrenceClaimAttempts.lookup id = some attempts)
      (hattempt : attempt ∈ attempts) : DurableTime s attempt.claimedAt
  | completed {id : AutomationOccurrenceId} {attempts : List AutomationOccurrenceClaimAttempt}
      {attempt : AutomationOccurrenceClaimAttempt} {completedAt : UnixMillis}
      (h : s.automationOccurrenceClaimAttempts.lookup id = some attempts)
      (hattempt : attempt ∈ attempts) (hcompleted : attempt.completedAt = some completedAt) :
      DurableTime s completedAt

/-- The clock floor is one of the times of the journal. -/
lemma durableTime_of_floor {floor : UnixMillis}
    (h : automationSchedulerDurableFloor s = some floor) : DurableTime s floor := by
  have hmem := max?_mem h
  simp only [mem_append, mem_map, mem_flatMap, mem_cons, mem_flatten,
    not_mem_nil, or_false, Option.mem_toList, mem_values] at hmem
  obtain ((⟨_, hlease, rfl⟩ | ⟨_, ⟨_, hcsr⟩, rfl | rfl⟩) | ⟨_, ⟨_, hocc⟩, rfl⟩) |
    ⟨_, ⟨_, ⟨_, hatts⟩, hattempt⟩, rfl | hcompleted⟩ := hmem
  · exact .lease hlease
  · exact .evaluated hcsr
  · exact .advanced hcsr
  · exact .occurrence hocc
  · exact .claimed hatts hattempt
  · exact .completed hatts hattempt hcompleted

/-- No time of the journal is after the clock floor. -/
lemma DurableTime.le_floor {t : UnixMillis} (h : DurableTime s t) :
    ∃ floor, automationSchedulerDurableFloor s = some floor ∧ t ≤ floor := by
  have hmem : t ∈ (s.automationSchedulerLease.toList.map renewedAt) ++
      (s.automationScheduleCursors.values.flatMap fun cursor =>
        [cursor.evaluatedThrough, cursor.updatedAt]) ++
      (s.automationOccurrences.values.map updatedAt) ++
      (s.automationOccurrenceClaimAttempts.values.flatten.flatMap fun attempt =>
        attempt.claimedAt :: attempt.completedAt.toList) := by
    simp only [mem_append, mem_map, mem_flatMap, mem_cons, mem_flatten,
      not_mem_nil, or_false, Option.mem_toList, mem_values]
    cases h with
    | lease h => exact .inl (.inl (.inl ⟨_, h, rfl⟩))
    | evaluated h => exact .inl (.inl (.inr ⟨_, ⟨_, h⟩, .inl rfl⟩))
    | advanced h => exact .inl (.inl (.inr ⟨_, ⟨_, h⟩, .inr rfl⟩))
    | occurrence h => exact .inl (.inr ⟨_, ⟨_, h⟩, rfl⟩)
    | claimed h hatt => exact .inr ⟨_, ⟨_, ⟨_, h⟩, hatt⟩, .inl rfl⟩
    | completed h hatt hdone => exact .inr ⟨_, ⟨_, ⟨_, h⟩, hatt⟩, .inr hdone⟩
  cases hmax : automationSchedulerDurableFloor s with
  | none =>
    rw [automationSchedulerDurableFloor, max?_eq_none_iff] at hmax
    rw [hmax] at hmem
    cases hmem
  | some floor => exact ⟨floor, rfl, (max?_eq_some_iff.1 hmax).2 t hmem⟩

/-! ## The fence -/

variable {token : AutomationSchedulerLeaseToken} {now : UnixMillis}

/-- What owning the lease means. -/
lemma requireAutomationSchedulerLease_eq_ok {owned : AutomationSchedulerLease}
    (h : requireAutomationSchedulerLease s token now = .ok owned) :
    s.automationSchedulerLease = some owned ∧ owned.token = token := by
  simp only [requireAutomationSchedulerLease, bind_eq_ok, okOr_eq_ok, rejectIf_eq_ok, exists_const,
    not_or, not_not, return_eq_ok] at h
  obtain ⟨lease, hlease, -, -, ⟨hown, hfence, -⟩, rfl⟩ := h
  exact ⟨hlease, by rw [AutomationSchedulerLease.token, hown, hfence]⟩

/-- How a call changes the lease: its token stays, or it is taken over under the next fence. -/
structure LeaseProgress (old new : AutomationSchedulerLease) : Prop where
  token : new.token = old.token ∨ new.fence = old.fence + 1
  renewedAt : old.renewedAt ≤ new.renewedAt

lemma LeaseProgress.refl (lease : AutomationSchedulerLease) : LeaseProgress lease lease :=
  ⟨.inl rfl, le_rfl⟩

/-- The fence never falls. -/
lemma LeaseProgress.fence_le {old new : AutomationSchedulerLease} (h : LeaseProgress old new) :
    old.fence ≤ new.fence := by
  rcases h.token with h | h
  · exact (congrArg AutomationSchedulerLeaseToken.fence h).ge
  · omega

/-- An acquired lease belongs to the caller, whose fence is the next one when the stored lease has
expired, also when the caller held it before. -/
lemma acquireLease_acquired {ownerId : AutomationSchedulerOwnerId} {ttlMs : ℕ}
    {lease acquired : AutomationSchedulerLease} {continuous : Bool} {since : UnixMillis}
    (hlease : s.automationSchedulerLease = some lease)
    (h : acquireAutomationSchedulerLease s ownerId now ttlMs
      = (.ok (.acquired acquired continuous since), s')) :
    s'.automationSchedulerLease = some acquired ∧ acquired.ownerId = ownerId ∧
      if lease.expiresAt ≤ now then acquired.fence = lease.fence + 1
      else lease.ownerId = ownerId ∧ acquired.fence = lease.fence := by
  obtain ⟨_, -, h⟩ := bind_eq_ok.1 (settle_eq_ok h)
  split at h
  · cases h
  rw [hlease] at h
  obtain ⟨_, -, h⟩ := bind_eq_ok.1 h
  split at h
  · cases h
  split at h
  · rename_i hheld
    rw [if_neg (Nat.not_le.2 hheld)]
    split at h
    · cases h
    · rename_i howner
      simp only [renewLease, renew, bind_eq_ok, mapError_eq_ok, return_eq_ok] at h
      obtain ⟨_, ⟨_, -, _, -, _, -, _, -, _, -, rfl⟩, h⟩ := h
      cases h
      exact ⟨rfl, not_not.1 howner, not_not.1 howner, rfl⟩
  · rename_i hexpired
    rw [if_pos (Nat.not_lt.1 hexpired)]
    simp only [takeOverLease, takeOver, acquire, bind_eq_ok, okOr_eq_ok, checkedAdd_eq_some,
      mapError_eq_ok, return_eq_ok] at h
    obtain ⟨_, ⟨-, rfl⟩, _, ⟨_, -, _, -, _, -, _, -, _, -, rfl⟩, h⟩ := h
    cases h
    exact ⟨rfl, rfl, rfl⟩

variable [TimezoneLibrary] [Sha256Library] {s s' : SchedulerState}

variable {c : SchedulerCall}

variable {r : c.Reply}

/-- Every call keeps the lease, renews it or takes it over. -/
theorem JournalStep.lease (h : JournalStep s c r s')
    {lease : AutomationSchedulerLease} (hlease : s.automationSchedulerLease = some lease) :
    ∃ lease', s'.automationSchedulerLease = some lease' ∧ LeaseProgress lease lease' := by
  cases h with
  | unchanged | created | saved | evaluated | claimed | bound | linked | began | completed
  | savedRun => exact ⟨lease, hlease, .refl lease⟩
  | recovered => exact ⟨lease, (writeRecovery_lease _ _).trans hlease, .refl lease⟩
  | firstLease _ hnone _ =>
    rw [hlease] at hnone
    cases hnone
  | renewed _ hold _ hrenew =>
    obtain rfl := Option.mem_unique hlease hold
    simp only [renew, bind_eq_ok, rejectIf_eq_ok, exists_const, not_lt, return_eq_ok] at hrenew
    obtain ⟨_, -, -, hnow, -, _, -, rfl⟩ := hrenew
    exact ⟨_, rfl, .inl rfl, hnow⟩
  | takenOver hfloor hold htake =>
    obtain rfl := Option.mem_unique hlease hold
    simp only [takeOver, acquire, bind_eq_ok, rejectIf_eq_ok, exists_const, return_eq_ok] at htake
    obtain ⟨-, -, _, -, -, _, -, rfl⟩ := htake
    obtain ⟨floor, hmax, hle⟩ := (DurableTime.lease hlease).le_floor
    exact ⟨_, rfl, .inr rfl, hle.trans (hfloor floor hmax)⟩

variable {allowed : SchedulerState → SchedulerCall → Prop}

/-- Along a run the token stays or the fence grows. -/
theorem JournalRun.lease (h : JournalRun allowed s s') {lease : AutomationSchedulerLease}
    (hlease : s.automationSchedulerLease = some lease) :
    ∃ lease', s'.automationSchedulerLease = some lease' ∧ lease.fence ≤ lease'.fence ∧
      (lease'.token = lease.token ∨ lease.fence < lease'.fence) := by
  induction h with
  | refl => exact ⟨lease, hlease, le_rfl, .inl rfl⟩
  | tail _ hstep ih =>
    obtain ⟨mid, hmid, hle, htoken⟩ := ih
    obtain ⟨c, r, -, hans⟩ := hstep
    obtain ⟨lease', hlease', hprog⟩ := (journalStep_of_answers hans).lease hmid
    have hfence := hprog.fence_le
    refine ⟨lease', hlease', hle.trans hfence, ?_⟩
    rcases hprog.token with hsame | hnext
    · rw [hsame]
      exact htoken.imp_right fun h => h.trans_le hfence
    · exact .inr (by omega)

/-! ## Fenced calls -/

def SchedulerCall.leaseToken : SchedulerCall → Option AutomationSchedulerLeaseToken
  | .commitEvaluation evaluation => some evaluation.lease
  | .claim request => some request.lease
  | .claimAndBind dispatch => some dispatch.claim.lease
  | .linkRun lease _ _ _ _ => some lease
  | .recoverClaims lease _ _ => some lease
  | _ => none

/-- The fenced call was answered with an error. -/
def SchedulerCall.Rejected : (c : SchedulerCall) → c.Reply → Prop
  | .commitEvaluation _, r => ∃ e, r = .error e
  | .claim _, r => ∃ e, r = .error e
  | .claimAndBind _, r => ∃ e, r = .error e
  | .linkRun _ _ _ _ _, r => ∃ e, r = .error e
  | .recoverClaims _ _ _, r => ∃ e, r = .error e
  | _, _ => False

/-- The claim repeats a recorded command. -/
def RecordedClaim (s : SchedulerState) (claim : ClaimAutomationOccurrence) : Prop :=
  ∃ record,
    s.automationOccurrenceClaimCommands.lookup (claim.command.scope, claim.command.key)
      = some record ∧
    record.fingerprint = claim.command.fingerprint ∧ record.occurrenceId = claim.occurrenceId

/-- The call repeats a recorded command. -/
def SchedulerCall.Recorded (s : SchedulerState) : SchedulerCall → Prop
  | .commitEvaluation evaluation => ∃ record,
      s.automationScheduleEvaluationCommands.lookup
        (evaluation.command.scope, evaluation.command.key) = some record ∧
      record.fingerprint = evaluation.command.fingerprint ∧
      record.result.cursor.automationId = evaluation.cursor.automationId
  | .claim request => RecordedClaim s request
  | .claimAndBind dispatch => RecordedClaim s dispatch.claim
  | _ => False

/-- A fenced call is rejected, repeats a recorded command, or owns the lease. -/
def Fenced (s : SchedulerState) (c : SchedulerCall) (token : AutomationSchedulerLeaseToken)
    (r : c.Reply) (s' : SchedulerState) : Prop :=
  (s' = s ∧ (c.Rejected r ∨ c.Recorded s)) ∨
    ∃ now owned, requireAutomationSchedulerLease s token now = .ok owned

/-- Every call with a token is fenced. -/
lemma fenced_of_answers
    (htoken : c.leaseToken = some token) (h : schedulerSystem.answers s c r s') :
    Fenced s c token r s' := by
  cases c <;> simp only [SchedulerCall.leaseToken, Option.some.injEq, reduceCtorEq] at htoken
  all_goals
    subst htoken
    have h₁ := congrArg Prod.fst h
    have h₂ := congrArg Prod.snd h
    subst h₁ h₂
    change Function.uncurry (Fenced s _ _) _
    refine settle_induction (fun e => .inl ⟨rfl, .inl ⟨e, rfl⟩⟩) fun a s' h => ?_
  case commitEvaluation =>
    obtain ⟨-, -, h⟩ := bind_eq_ok.1 h
    split at h
    · rename_i record hrec
      simp only [bind_eq_ok, rejectIf_eq_ok, exists_const, not_or, not_not] at h
      obtain ⟨hexact, -, rfl⟩ := h
      exact .inl ⟨rfl, .inr ⟨record, hrec, hexact⟩⟩
    · obtain ⟨writes, hwrs, -⟩ := bind_eq_ok.1 h
      obtain ⟨_, _, _, _, _, _, hchk, -⟩ := stageEvaluation_eq_ok hwrs
      obtain ⟨owned, hown, -⟩ := bind_eq_ok.1 hchk
      exact .inr ⟨_, owned, hown⟩
  case claim =>
    obtain ⟨-, -, h⟩ := bind_eq_ok.1 h
    split at h
    · rename_i record hrec
      simp only [bind_eq_ok, rejectIf_eq_ok, exists_const, not_or, not_not] at h
      obtain ⟨hexact, -, rfl⟩ := h
      exact .inl ⟨rfl, .inr ⟨record, hrec, hexact⟩⟩
    · obtain ⟨⟨cur, attempts⟩, hchk, -⟩ := bind_eq_ok.1 h
      obtain ⟨-, -, owned, hown⟩ := checkedClaim_eq_ok hchk
      exact .inr ⟨_, owned, hown⟩
  case claimAndBind =>
    obtain ⟨-, -, h⟩ := bind_eq_ok.1 h
    split at h
    · rename_i record hrec
      simp only [bind_eq_ok, rejectIf_eq_ok, exists_const, not_or, not_not] at h
      obtain ⟨hexact, _, -, -, rfl⟩ := h
      exact .inl ⟨rfl, .inr ⟨record, hrec, hexact⟩⟩
    · obtain ⟨⟨cur, attempts⟩, hchk, -⟩ := bind_eq_ok.1 h
      obtain ⟨-, -, owned, hown⟩ := checkedClaim_eq_ok hchk
      exact .inr ⟨_, owned, hown⟩
  case linkRun =>
    obtain ⟨owned, hown, -⟩ := bind_eq_ok.1 h
    exact .inr ⟨_, owned, hown⟩
  case recoverClaims =>
    obtain ⟨-, -, h⟩ := bind_eq_ok.1 h
    obtain ⟨owned, hown, -⟩ := bind_eq_ok.1 h
    exact .inr ⟨_, owned, hown⟩

/-! ## The clock floor -/

/-- How a call changes a cursor: its times never go back. -/
structure CursorProgress (old new : AutomationScheduleCursor) : Prop where
  evaluatedThrough : old.evaluatedThrough ≤ new.evaluatedThrough
  updatedAt : old.updatedAt ≤ new.updatedAt

/-- The checks of an evaluation of a definition that has a cursor. -/
lemma checkedEvaluation_cursor {evaluation : AutomationScheduleEvaluationCommit}
    {automation : Automation} {snap : AutomationExecutionSnapshot}
    {cur : Option AutomationScheduleCursor}
    (h : checkedEvaluation s evaluation = .ok (automation, snap, cur)) :
    cur = s.automationScheduleCursors.lookup automation.id ∧
      expectedEvaluationCursor automation snap cur evaluation = .ok evaluation.cursor := by
  simp only [checkedEvaluation, bind_eq_ok, rejectIf_eq_ok, exists_const, not_not] at h
  obtain ⟨_, -, -, _, -, -, _, -, _, hcur, -, -, _, hexp, heq, -, rfl, rfl, rfl⟩ := h
  refine ⟨?_, heq ▸ hexp⟩
  unfold matchingAutomationScheduleCursor at hcur
  split at hcur
  · rename_i hnone
    rw [← Except.ok.inj hcur, hnone]
  · rename_i cursor hcsr
    simp only [bind_eq_ok, return_eq_ok] at hcur
    obtain ⟨_, -, _, -, rfl⟩ := hcur
    exact hcsr.symm

omit [TimezoneLibrary] [Sha256Library] in
lemma advance_eq_ok {cursor new : AutomationScheduleCursor} {evaluatedThrough now : UnixMillis}
    {next : Option AutomationScheduleDecision}
    (h : cursor.advance evaluatedThrough next now = .ok new) :
    cursor.evaluatedThrough ≤ evaluatedThrough ∧ cursor.updatedAt ≤ now ∧
      new = { cursor with
        revision := cursor.revision + 1
        evaluatedThrough := evaluatedThrough
        nextDecision := next
        updatedAt := now } := by
  simp only [AutomationScheduleCursor.advance, bind_eq_ok, rejectIf_eq_ok, exists_const, not_or,
    not_lt, advanceRevision_eq_ok, return_eq_ok] at h
  obtain ⟨⟨hthr, hnow, -⟩, _, -, _, ⟨-, rfl⟩, rfl⟩ := h
  exact ⟨hthr, hnow, rfl⟩

/-- Every call keeps the cursors or advances them. -/
theorem JournalStep.cursors (h : JournalStep s c r s')
    {id : AutomationId} {cursor : AutomationScheduleCursor}
    (hcsr : s.automationScheduleCursors.lookup id = some cursor) :
    ∃ cursor', s'.automationScheduleCursors.lookup id = some cursor' ∧
      CursorProgress cursor cursor' := by
  cases h with
  | unchanged | created | saved | firstLease | renewed | takenOver | claimed | bound | linked
  | began | completed | savedRun => exact ⟨cursor, hcsr, le_rfl, le_rfl⟩
  | recovered =>
    rw [writeRecovery_cursors]
    exact ⟨cursor, hcsr, le_rfl, le_rfl⟩
  | @evaluated evaluation writes hwrs =>
    simp only [SchedulerState.writeEvaluation, lookup_insert]
    split
    · subst id
      obtain ⟨snap, cur, _, _, _, _, hchk, -⟩ := stageEvaluation_eq_ok hwrs
      obtain ⟨rfl, hexp⟩ := checkedEvaluation_cursor hchk
      rw [hcsr, expectedEvaluationCursor, mapError_eq_ok] at hexp
      obtain ⟨hthr, hnow, heq⟩ := advance_eq_ok hexp
      refine ⟨_, rfl, hthr, hnow.trans ?_⟩
      rw [heq]
    · exact ⟨cursor, hcsr, le_rfl, le_rfl⟩

/-- No attempt is forgotten, and none is completed at another time. -/
def AttemptsKept (old new : List AutomationOccurrenceClaimAttempt) : Prop :=
  ∀ attempt ∈ old, ∃ attempt' ∈ new, attempt'.claimedAt = attempt.claimedAt ∧
    ∀ completedAt, attempt.completedAt = some completedAt →
      attempt'.completedAt = some completedAt

omit [TimezoneLibrary] [Sha256Library] in
lemma AttemptsKept.of_subset {old new : List AutomationOccurrenceClaimAttempt} (h : old ⊆ new) :
    AttemptsKept old new :=
  fun attempt hatt => ⟨attempt, h hatt, rfl, fun _ h => h⟩

omit [TimezoneLibrary] [Sha256Library] in
/-- Completing an attempt keeps the others. -/
lemma AttemptsKept.complete {occ : AutomationOccurrence}
    {attempts completed : List AutomationOccurrenceClaimAttempt}
    {completion : AutomationOccurrenceClaimCompletion}
    (h : completeClaimAttempt occ attempts completion now = .ok completed) :
    AttemptsKept attempts completed := by
  simp only [completeClaimAttempt, bind_eq_ok, okOr_eq_ok, rejectIf_eq_ok, exists_const, not_or,
    Bool.not_eq_true, Option.isSome_eq_false_iff, Option.isNone_iff_eq_none, return_eq_ok] at h
  obtain ⟨_, -, last, hlast, ⟨hopen, -⟩, rfl⟩ := h
  intro attempt hatt
  rw [← dropLast_append_getLast? last hlast, mem_append, mem_singleton] at hatt
  rcases hatt with hatt | rfl
  · exact ⟨attempt, mem_append_left _ hatt, rfl, fun _ h => h⟩
  · refine ⟨_, mem_append_right _ (mem_singleton_self _), rfl, fun t ht => ?_⟩
    rw [hopen] at ht
    cases ht

variable {k : AutomationOccurrenceId}

/-- A recovery forgets no attempt. -/
lemma attemptsKept_recovered {limit : ℕ} {start stage : RecoveryStage}
    (ht : JournalEntries s.automationOccurrences) (hstart : start.attempts = ∅)
    (h : ((s.expiredOccurrences now).take limit).foldlM (recoverOccurrence s now) start
      = .ok stage)
    {completed : List AutomationOccurrenceClaimAttempt}
    (hk : stage.attempts.lookup k = some completed) :
    ∃ attempts, s.automationOccurrenceClaimAttempts.lookup k = some attempts ∧
      AttemptsKept attempts completed := by
  revert k completed
  refine recovery_induction (P := fun stage => ∀ {k completed},
    stage.attempts.lookup k = some completed → ∃ attempts,
      s.automationOccurrenceClaimAttempts.lookup k = some attempts ∧
        AttemptsKept attempts completed) h (by simp [hstart]) ?_
  intro stage stage' cur hcur hstep hdone k completed hk
  cases hstep with
  | resumable _ _ _ => exact hdone hk
  | @recovered occ _ attempts _ _ _ _ hrec _ hatts hcomp _ =>
    rw [lookup_insert] at hk
    split at hk
    · subst k
      rw [(hrec.later (ht.lifecycle_of_mem hcur)).id_eq]
      refine ⟨attempts, hatts, ?_⟩
      rw [← Option.some.inj hk]
      rcases hcomp with rfl | ⟨completion, hcomp⟩
      · exact .of_subset (Subset.refl _)
      · exact .complete hcomp
    · exact hdone hk

/-- Every call keeps the recorded attempts. -/
lemma JournalStep.attempts (h : JournalStep s c r s')
    (ht : JournalEntries s.automationOccurrences) {attempts : List AutomationOccurrenceClaimAttempt}
    (hk : s.automationOccurrenceClaimAttempts.lookup k = some attempts) :
    ∃ attempts', s'.automationOccurrenceClaimAttempts.lookup k = some attempts' ∧
      AttemptsKept attempts attempts' := by
  have hsame : AttemptsKept attempts attempts := .of_subset (Subset.refl _)
  have hclm : ∀ {claim cur old} {attempt : AutomationOccurrenceClaimAttempt}
      {new : AutomationOccurrence}, checkedClaim s claim = .ok (cur, old) →
      cur.Later new → ∃ attempts',
        (s.automationOccurrenceClaimAttempts.insert new.id (old ++ [attempt])).lookup k
          = some attempts' ∧ AttemptsKept attempts attempts' := by
    intro claim cur old attempt new hchk hlat
    obtain ⟨hcur, hold, -⟩ := checkedClaim_eq_ok hchk
    rw [hlat.id_eq, ht.keyed _ _ hcur, lookup_insert]
    split
    · subst k
      rw [hk] at hold
      exact ⟨_, rfl, .of_subset (hold ▸ subset_append_left _ _)⟩
    · exact ⟨attempts, hk, hsame⟩
  cases h with
  | unchanged | created | saved | firstLease | renewed | takenOver | evaluated | began | completed
  | savedRun => exact ⟨attempts, hk, hsame⟩
  | claimed hchk hacq _ =>
    obtain ⟨hcur, -⟩ := checkedClaim_eq_ok hchk
    exact hclm hchk
      (later_acquireClaim (ht.lifecycle _ _ hcur) hacq)
  | bound hchk _ hacq _ hlink _ =>
    obtain ⟨hcur, -⟩ := checkedClaim_eq_ok hchk
    exact hclm hchk
      (later_bind (ht.lifecycle _ _ hcur) hacq hlink)
  | linked _ _ _ _ hatts hdone =>
    simp only [lookup_insert]
    split
    · subst k
      obtain rfl := Option.mem_unique hk hatts
      exact ⟨_, rfl, .complete hdone⟩
    · exact ⟨attempts, hk, hsame⟩
  | @recovered _ _ _ _ _ stage _ hstart hstage =>
    rw [writeRecovery_claimAttempts, lookup_insertEntries]
    cases hstag : stage.attempts.lookup k with
    | none => exact ⟨attempts, hk, hsame⟩
    | some completed =>
      obtain ⟨old, hold, hkept⟩ := attemptsKept_recovered ht hstart.2.1 hstage hstag
      rw [hk] at hold
      exact ⟨completed, rfl, Option.some.inj hold ▸ hkept⟩

/-- Every call keeps the times of the journal or replaces them by later ones. -/
lemma JournalStep.durableTime (h : JournalStep s c r s')
    (ht : JournalEntries s.automationOccurrences) {t : UnixMillis} (htime : DurableTime s t) :
    ∃ t', DurableTime s' t' ∧ t ≤ t' := by
  cases htime with
  | lease hlease =>
    obtain ⟨_, hlease', hprog⟩ := h.lease hlease
    exact ⟨_, .lease hlease', hprog.renewedAt⟩
  | evaluated hcsr =>
    obtain ⟨_, hcsr', hprog⟩ := h.cursors hcsr
    exact ⟨_, .evaluated hcsr', hprog.evaluatedThrough⟩
  | advanced hcsr =>
    obtain ⟨_, hcsr', hprog⟩ := h.cursors hcsr
    exact ⟨_, .advanced hcsr', hprog.updatedAt⟩
  | occurrence hocc =>
    obtain ⟨_, hnew, hlat⟩ := (h.progress ht).later _ _ hocc
    exact ⟨_, .occurrence hnew, hlat.updatedAt_le⟩
  | claimed hatts hatt =>
    obtain ⟨_, hatts', hkept⟩ := h.attempts ht hatts
    obtain ⟨attempt', hatt', hcla, -⟩ := hkept _ hatt
    exact ⟨_, .claimed hatts' hatt', hcla.ge⟩
  | completed hatts hatt hdone =>
    obtain ⟨_, hatts', hkept⟩ := h.attempts ht hatts
    obtain ⟨attempt', hatt', -, hsame⟩ := hkept _ hatt
    exact ⟨t, .completed hatts' hatt' (hsame t hdone), le_rfl⟩

/-- The clock floor never goes back. -/
theorem JournalRun.durableFloor
    (h : JournalRun allowed s s') (ht : JournalEntries s.automationOccurrences)
    {floor : UnixMillis} (hfloor : automationSchedulerDurableFloor s = some floor) :
    ∃ floor', automationSchedulerDurableFloor s' = some floor' ∧ floor ≤ floor' := by
  have htime : ∃ t, DurableTime s' t ∧ floor ≤ t := by
    induction h with
    | refl => exact ⟨floor, durableTime_of_floor hfloor, le_rfl⟩
    | tail hrun hstep ih =>
      obtain ⟨t, htime, hle⟩ := ih
      obtain ⟨c, r, -, hans⟩ := hstep
      obtain ⟨t', htime', hle'⟩ :=
        (journalStep_of_answers hans).durableTime (JournalRun.entries hrun ht) htime
      exact ⟨t', htime', hle.trans hle'⟩
  obtain ⟨t, htime, hle⟩ := htime
  obtain ⟨floor', hfloor', hle'⟩ := htime.le_floor
  exact ⟨floor', hfloor', hle.trans hle'⟩

/-! ## Safety of the lease -/

/-- The lease is safe along every run: the fence never decreases, it grows by one with each takeover
(whoever acquires the expired lease), only one token owns the lease, a token that was taken over is
rejected (or repeats a recorded command) without any change, and the clock floor never goes
back. -/
theorem fenced_lease_safety (ht : JournalEntries s.automationOccurrences)
    (hrun : JournalRun (fun _ _ => True) s s') :
    (∀ lease, s.automationSchedulerLease = some lease → ∃ lease',
      s'.automationSchedulerLease = some lease' ∧ lease.fence ≤ lease'.fence) ∧
    (∀ c r next lease lease', schedulerSystem.answers s' c r next →
      s'.automationSchedulerLease = some lease → next.automationSchedulerLease = some lease' →
      lease'.token ≠ lease.token → lease'.fence = lease.fence + 1) ∧
    (∀ ownerId now ttlMs lease acquired continuous since next,
      s'.automationSchedulerLease = some lease →
      acquireAutomationSchedulerLease s' ownerId now ttlMs
        = (.ok (.acquired acquired continuous since), next) →
      next.automationSchedulerLease = some acquired ∧ acquired.ownerId = ownerId ∧
        if lease.expiresAt ≤ now then acquired.fence = lease.fence + 1
        else lease.ownerId = ownerId ∧ acquired.fence = lease.fence) ∧
    (∀ token token' now now', (requireAutomationSchedulerLease s' token now).isOk = true →
      (requireAutomationSchedulerLease s' token' now').isOk = true → token = token') ∧
    (∀ taken lease lease', JournalRun (fun _ _ => True) s taken →
      JournalRun (fun _ _ => True) taken s' → s.automationSchedulerLease = some lease →
      taken.automationSchedulerLease = some lease' → lease'.token ≠ lease.token →
      ∀ c r next, SchedulerCall.leaseToken c = some lease.token →
        schedulerSystem.answers s' c r next → next = s' ∧ (c.Rejected r ∨ c.Recorded s')) ∧
    (∀ floor, automationSchedulerDurableFloor s = some floor → ∃ floor',
      automationSchedulerDurableFloor s' = some floor' ∧ floor ≤ floor') := by
  refine ⟨fun lease hlease => ?_, ?_, fun _ _ _ _ _ _ _ _ => acquireLease_acquired, ?_, ?_,
    fun floor => hrun.durableFloor ht⟩
  · obtain ⟨lease', hlease', hle, -⟩ := hrun.lease hlease
    exact ⟨lease', hlease', hle⟩
  · intro c r next lease lease' hans hlease hlease' hne
    obtain ⟨_, hnext, hprog⟩ := (journalStep_of_answers hans).lease hlease
    obtain rfl := Option.mem_unique hlease' hnext
    exact hprog.token.resolve_left hne
  · intro token token' now now' h h'
    obtain ⟨owned, hown⟩ := isOk_iff.1 h
    obtain ⟨owned', hown'⟩ := isOk_iff.1 h'
    obtain ⟨hlease, rfl⟩ := requireAutomationSchedulerLease_eq_ok hown
    obtain ⟨hlease', rfl⟩ := requireAutomationSchedulerLease_eq_ok hown'
    rw [Option.mem_unique hlease hlease']
  · intro taken lease lease' hbef hafter hlease htaken hne c r next htoken hans
    refine (fenced_of_answers htoken hans).resolve_right ?_
    rintro ⟨now, owned, hown⟩
    -- the fence of the taken lease, and of every later one, is larger
    obtain ⟨_, hlease', -, hgrown⟩ := hbef.lease hlease
    obtain rfl := Option.mem_unique htaken hlease'
    obtain ⟨last, hlast, hle, -⟩ := hafter.lease htaken
    obtain ⟨hown, hsame⟩ := requireAutomationSchedulerLease_eq_ok hown
    obtain rfl := Option.mem_unique hlast hown
    have hlt := hgrown.resolve_left hne
    have hfence := congrArg AutomationSchedulerLeaseToken.fence hsame
    simp only [AutomationSchedulerLease.token] at hfence
    omega

end Lease

namespace SampleJournal

attribute [local instance] sha zones

/-- The owner of the expired first lease takes it over under the second fence, and the first token
recovers nothing any more. -/
theorem started_lease_safety :
    (after (started.take 3)).automationSchedulerLease
        = some ⟨owner, 1, noon, noon, noon + 60000⟩ ∧
      (after started).automationSchedulerLease = some ⟨owner, 2, later, later, later + 60000⟩ ∧
      (∀ acquired continuous since next,
        acquireAutomationSchedulerLease (after (started.take 3)) owner later 60000
          = (.ok (.acquired acquired continuous since), next) → acquired.fence = 2) ∧
      ∀ r next,
        schedulerSystem.answers (after started) (.recoverClaims (lease 1) later 100) r next →
        next = after started ∧ ∃ e, r = .error e := by
  have hrun : JournalRun (fun _ _ => True) store (after (started.take 3)) :=
    .of_calls (allowedCalls_true store _)
  have htake : JournalRun (fun _ _ => True) (after (started.take 3)) (after started) :=
    .of_calls (allowedCalls_true _ (started.drop 3))
  have hentries : JournalEntries (after (started.take 3)).automationOccurrences :=
    hrun.entries .empty
  have hheld : (after (started.take 3)).automationSchedulerLease
      = some ⟨owner, 1, noon, noon, noon + 60000⟩ := by
    decide +kernel
  have htaken : (after started).automationSchedulerLease
      = some ⟨owner, 2, later, later, later + 60000⟩ := by
    decide +kernel
  refine ⟨hheld, htaken, fun acquired continuous since next h => ?_, fun r next h => ?_⟩
  · obtain ⟨-, -, hfence⟩ := (fenced_lease_safety hentries .refl).2.2.1 _ _ _ _ _ _ _ _ hheld h
    exact hfence
  · obtain ⟨hsame, hrejected | hrecorded⟩ := (fenced_lease_safety hentries htake).2.2.2.2.1
      (after started) _ _ htake .refl hheld htaken (by decide) _ r next rfl h
    · exact ⟨hsame, hrejected⟩
    · exact hrecorded.elim

/-- A recorded evaluation is answered also when its token was taken over. -/
theorem recorded_evaluation_not_rejected :
    ¬ ∀ s taken s' : SchedulerState, ∀ lease lease', JournalRun (fun _ _ => True) s taken →
      JournalRun (fun _ _ => True) taken s' → s.automationSchedulerLease = some lease →
      taken.automationSchedulerLease = some lease' → lease'.token ≠ lease.token →
      ∀ c r next, SchedulerCall.leaseToken c = some lease.token →
        schedulerSystem.answers s' c r next → c.Rejected r := by
  intro h
  have hheld : (after (started.take 3)).automationSchedulerLease =
      some ⟨owner, 1, noon, noon, noon + 60000⟩ := by
    decide +kernel
  have htaken : (after started).automationSchedulerLease =
      some ⟨owner, 2, later, later, later + 60000⟩ := by
    decide +kernel
  have hok :
      (commitAutomationScheduleEvaluation (after started) firstEvaluation).1.isOk = true := by
    decide +kernel
  obtain ⟨e, he⟩ := h (after (started.take 3)) (after started) (after started) _ _
    (.of_calls (allowedCalls_true _ (started.drop 3))) .refl hheld htaken (by decide)
    (.commitEvaluation firstEvaluation)
    (commitAutomationScheduleEvaluation (after started) firstEvaluation).1
    (commitAutomationScheduleEvaluation (after started) firstEvaluation).2 rfl rfl
  rw [he] at hok
  cases hok

end SampleJournal

end GrokDesktop
