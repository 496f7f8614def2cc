import GrokDesktop.Memory.Bindings
import GrokDesktop.Memory.Lease

/-!
# Repeated commands of the journal

An evaluation and a claim are recorded under the scope and the key of their command, and no call
replaces a record. A repeated evaluation is answered with its record. A repeated claim is answered
with the binding of its occurrence, which the start and the end of the bound run and a recovery
replace.
-/

namespace GrokDesktop

open Resumption Table AutomationOccurrence
open Except

section Replays

variable [TimezoneLibrary] [Sha256Library] {s s' : SchedulerState}
  {allowed : SchedulerState → SchedulerCall → Prop}

/-- No recorded command is replaced. -/
structure KeepsRecords (s s' : SchedulerState) : Prop where
  evaluations :
    s.automationScheduleEvaluationCommands.Extends s'.automationScheduleEvaluationCommands
  claims : s.automationOccurrenceClaimCommands.Extends s'.automationOccurrenceClaimCommands

omit [TimezoneLibrary] [Sha256Library] in
lemma KeepsRecords.refl (s : SchedulerState) : KeepsRecords s s :=
  ⟨.refl _, .refl _⟩

/-! ## Recording -/

lemma commitEvaluation_eq_ok {evaluation : AutomationScheduleEvaluationCommit}
    {res : AutomationScheduleEvaluationResult}
    (h : commitAutomationScheduleEvaluation s evaluation = (.ok res, s')) :
    KeepsRecords s s' ∧
      validateSchedulerCommand evaluation.command automationEvaluationScope = .ok () ∧
      s'.automationScheduleEvaluationCommands.lookup
        (evaluation.command.scope, evaluation.command.key)
          = some ⟨evaluation.command.fingerprint, res⟩ ∧
      res.cursor.automationId = evaluation.cursor.automationId := by
  obtain ⟨_, hval, h⟩ := bind_eq_ok.1 (settle_eq_ok h)
  split at h
  · rename_i record hrec
    simp only [bind_eq_ok, rejectIf_eq_ok, exists_const, not_or, not_not] at h
    obtain ⟨⟨hfp, hid⟩, rfl, rfl⟩ := h
    exact ⟨.refl s, hval, hfp ▸ hrec, hid⟩
  · rename_i hnone
    simp only [bind_eq_ok] at h
    obtain ⟨writes, -, rfl, rfl⟩ := h
    exact ⟨⟨.insert _ hnone, .refl _⟩, hval, lookup_insert_self .., rfl⟩

lemma claim_keepsRecords {claim : ClaimAutomationOccurrence} {res : AutomationOccurrence}
    (h : claimAutomationOccurrence s claim = (.ok res, s')) : KeepsRecords s s' := by
  obtain ⟨_, -, h⟩ := bind_eq_ok.1 (settle_eq_ok h)
  split at h
  · simp only [bind_eq_ok] at h
    obtain ⟨_, -, -, rfl⟩ := h
    exact .refl s
  · rename_i hnone
    simp only [bind_eq_ok] at h
    obtain ⟨_, -, _, -, _, -, -, rfl⟩ := h
    exact ⟨.refl _, .insert _ hnone⟩

/-- A claim that succeeds is recorded, and its occurrence is bound as the call answered. -/
lemma claimAndBind_eq_ok (ht : JournalEntries s.automationOccurrences)
    {dispatch : AutomationOccurrenceDispatch} {res : AutomationOccurrenceDispatchResult}
    (h : claimAndBindAutomationOccurrence s dispatch = (.ok res, s')) :
    KeepsRecords s s' ∧
      validateSchedulerCommand dispatch.claim.command automationClaimScope = .ok () ∧
      RecordedClaim s' dispatch.claim ∧
      s'.automationOccurrenceDispatches.lookup dispatch.claim.occurrenceId = some res := by
  obtain ⟨_, hval, h⟩ := bind_eq_ok.1 (settle_eq_ok h)
  split at h
  · rename_i record hrec
    simp only [bind_eq_ok, okOr_eq_ok, rejectIf_eq_ok, exists_const, not_or, not_not] at h
    obtain ⟨hexact, _, hbind, rfl, rfl⟩ := h
    exact ⟨.refl s, hval, ⟨record, hrec, hexact⟩, hbind⟩
  · rename_i hnone
    simp only [bind_eq_ok, mapError_eq_ok] at h
    obtain ⟨⟨cur, _⟩, hchk, _, -, claimed, hclm, _, -, linked, hlink, rfl, rfl⟩ := h
    obtain ⟨hcur, -⟩ := checkedClaim_eq_ok hchk
    have hid : linked.id = dispatch.claim.occurrenceId :=
      (later_bind (ht.lifecycle _ _ hcur) hclm hlink).id_eq.trans (ht.keyed _ _ hcur)
    refine ⟨⟨.refl _, .insert _ hnone⟩, hval, ⟨_, lookup_insert_self .., rfl, hid⟩, ?_⟩
    rw [← hid]
    exact lookup_insert_self ..

/-- No call replaces a record. -/
lemma keepsRecords_of_answers {c : SchedulerCall} {r : c.Reply}
    (ht : JournalEntries s.automationOccurrences) (h : schedulerSystem.answers s c r s') :
    KeepsRecords s s' := by
  cases journalStep_of_answers h with
  | evaluated => exact (commitEvaluation_eq_ok h).1
  | claimed => exact claim_keepsRecords h
  | bound => exact (claimAndBind_eq_ok ht h).1
  | recovered =>
    constructor
    · rw [SchedulerState.writeRecovery,
        writeRecovery_unchanged s _ SchedulerState.automationScheduleEvaluationCommands
        (fun _ _ _ => rfl) (fun _ _ _ => rfl)]
    · rw [SchedulerState.writeRecovery,
        writeRecovery_unchanged s _ SchedulerState.automationOccurrenceClaimCommands
        (fun _ _ _ => rfl) (fun _ _ _ => rfl)]
  | _ => exact ⟨.refl _, .refl _⟩

/-- No run replaces a record. -/
lemma JournalRun.keepsRecords (h : JournalRun allowed s s')
    (ht : JournalEntries s.automationOccurrences) : KeepsRecords s s' := by
  induction h with
  | refl => exact .refl s
  | tail hrun hstep ih =>
    obtain ⟨c, r, -, hans⟩ := hstep
    have hkept := keepsRecords_of_answers (JournalRun.entries hrun ht) hans
    exact ⟨fun k v h => hkept.evaluations k v (ih.evaluations k v h),
      fun k v h => hkept.claims k v (ih.claims k v h)⟩

/-! ## Repeating -/

omit [TimezoneLibrary] [Sha256Library] in
/-- Commands of one scope and key are accepted together. -/
lemma validate_of_sameKey {cmd other : MutationCommand} {scope : String}
    (hval : validateSchedulerCommand cmd scope = .ok ())
    (hsc : other.scope = cmd.scope) (hkey : other.key = cmd.key) :
    validateSchedulerCommand other scope = .ok () := by
  rwa [validateSchedulerCommand, hsc, hkey]

/-- A recorded evaluation is answered from its record. -/
lemma commitEvaluation_recorded {evaluation : AutomationScheduleEvaluationCommit}
    {record : AutomationScheduleEvaluationCommandRecord}
    (hval : validateSchedulerCommand evaluation.command automationEvaluationScope = .ok ())
    (hrec : s.automationScheduleEvaluationCommands.lookup
      (evaluation.command.scope, evaluation.command.key) = some record) :
    commitAutomationScheduleEvaluation s evaluation =
      if record.fingerprint ≠ evaluation.command.fingerprint
        ∨ record.result.cursor.automationId ≠ evaluation.cursor.automationId
      then (.error .conflict, s) else (.ok record.result, s) := by
  simp only [commitAutomationScheduleEvaluation, hval, hrec, rejectIf]
  split
  all_goals rfl

/-- A recorded claim is answered with the binding of its occurrence. -/
lemma claimAndBind_recorded {dispatch : AutomationOccurrenceDispatch}
    {record : AutomationOccurrenceClaimCommandRecord}
    (hval : validateSchedulerCommand dispatch.claim.command automationClaimScope = .ok ())
    (hrec : s.automationOccurrenceClaimCommands.lookup
      (dispatch.claim.command.scope, dispatch.claim.command.key) = some record) :
    claimAndBindAutomationOccurrence s dispatch =
      (if record.fingerprint ≠ dispatch.claim.command.fingerprint
        ∨ record.occurrenceId ≠ dispatch.claim.occurrenceId
      then .error .conflict
      else okOr (s.automationOccurrenceDispatches.lookup dispatch.claim.occurrenceId)
        invalidAutomationSchedulerJournal, s) := by
  simp only [claimAndBindAutomationOccurrence, hval, hrec, rejectIf]
  split
  · rfl
  · cases s.automationOccurrenceDispatches.lookup dispatch.claim.occurrenceId <;> rfl

/-- After a command has succeeded and any calls have followed, an evaluation is repeated without
effect, and another command under the same key conflicts. A claim is repeated without effect too,
and with the same answer as long as no call has started or ended the run of its occurrence and no
recovery has changed them; a call that has started or ended the run always changes the answer. -/
theorem replay_of_committed {start : SchedulerState} (hempty : start.automationOccurrences = ∅)
    (hreach : JournalRun (fun _ _ => True) start s) :
    (∀ evaluation result s₁, ∀ calls : List SchedulerCall,
      commitAutomationScheduleEvaluation s evaluation = (.ok result, s₁) →
      let s₂ := calls.foldl SchedulerState.after s₁
      commitAutomationScheduleEvaluation s₂ evaluation = (.ok result, s₂) ∧
      ∀ other : AutomationScheduleEvaluationCommit,
        other.command.scope = evaluation.command.scope →
        other.command.key = evaluation.command.key →
        other.command.fingerprint ≠ evaluation.command.fingerprint →
        commitAutomationScheduleEvaluation s₂ other = (.error .conflict, s₂)) ∧
    (∀ dispatch result s₁, ∀ calls : List SchedulerCall,
      claimAndBindAutomationOccurrence s dispatch = (.ok result, s₁) →
      let s₂ := calls.foldl SchedulerState.after s₁
      let id := dispatch.claim.occurrenceId
      (claimAndBindAutomationOccurrence s₂ dispatch).2 = s₂ ∧
      (AllowedCalls (fun t c => ¬ t.MovesRun id c ∧ ¬ t.RecoversBound id result.run.id c) s₁ calls →
        claimAndBindAutomationOccurrence s₂ dispatch = (.ok result, s₂)) ∧
      (result.run.state = .queued →
        claimAndBindAutomationOccurrence s₂ dispatch = (.ok result, s₂) →
        AllowedCalls (fun t c => ¬ t.MovesRun id c) s₁ calls) ∧
      ∀ other : AutomationOccurrenceDispatch,
        other.claim.command.scope = dispatch.claim.command.scope →
        other.claim.command.key = dispatch.claim.command.key →
        other.claim.command.fingerprint ≠ dispatch.claim.command.fingerprint →
        claimAndBindAutomationOccurrence s₂ other = (.error .conflict, s₂)) := by
  have ht : JournalEntries s.automationOccurrences := hreach.entries (hempty ▸ .empty)
  constructor
  · intro evaluation result s₁ calls h s₂
    obtain ⟨-, hval, hrec, hid⟩ := commitEvaluation_eq_ok h
    have ht₁ :=
      ((journalStep_of_answers (c := .commitEvaluation evaluation) h).progress ht).entries ht
    have hrun : JournalRun (fun _ _ => True) s₁ s₂ := .of_calls (allowedCalls_true s₁ calls)
    have hkept := (hrun.keepsRecords ht₁).evaluations _ _ hrec
    refine ⟨?_, fun other hsc hkey hne => ?_⟩
    · rw [commitEvaluation_recorded hval hkept, if_neg (by simp [hid])]
    · rw [commitEvaluation_recorded (validate_of_sameKey hval hsc hkey)
        (by rw [hsc, hkey, hkept]), if_pos (.inl hne.symm)]
  · intro dispatch result s₁ calls h s₂ id
    obtain ⟨-, hval, ⟨record, hrec, hfp, hid⟩, hbind⟩ := claimAndBind_eq_ok ht h
    have ht₁ := ((journalStep_of_answers (c := .claimAndBind dispatch) h).progress ht).entries ht
    have hrun : JournalRun (fun _ _ => True) s₁ s₂ := .of_calls (allowedCalls_true s₁ calls)
    have hkept := (hrun.keepsRecords ht₁).claims _ _ hrec
    obtain ⟨last, hlast, hmoved, hsame⟩ := binding_after_calls calls ht₁ hbind
    have hanswer : claimAndBindAutomationOccurrence s₂ dispatch = (.ok last, s₂) := by
      rw [claimAndBind_recorded hval hkept, if_neg (by simp [hfp, hid]), hlast]
      rfl
    rw [hanswer]
    refine ⟨rfl, fun hallowed => ?_, fun hqueued hrepl => ?_, fun other hsc hkey hne => ?_⟩
    · rw [hsame hallowed]
    · obtain rfl : last = result := Except.ok.inj (Prod.mk.inj hrepl).1
      exact (hmoved.resolve_right fun hleft => hleft hqueued).2
    · rw [claimAndBind_recorded (validate_of_sameKey hval hsc hkey)
        (by rw [hsc, hkey, hkept]), if_pos (.inl (hfp ▸ hne.symm))]

end Replays

namespace SampleJournal

attribute [local instance] sha zones

/-- The claim of the sample journal. -/
def dispatch : AutomationOccurrenceDispatch where
  claim := {
    lease := lease 2
    occurrenceId := activeId
    expectedRevision := 0
    claimedAt := later
    expiresAt := later + 60000
    command := ⟨automationClaimScope, "claim-key", 0⟩ }
  thread := thread
  prompt := prompt
  run := run

/-- The evaluation of two slots and the claim of the first are repeated, the claim after the lease
was renewed and the start of the other occurrence was refused. -/
theorem evaluated_replay :
    let slots := evaluation [occurrence activeId 11, occurrence queuedId 12]
    (commitAutomationScheduleEvaluation (after started) slots).1.isOk = true ∧
      (claimAndBindAutomationOccurrence (after evaluated) dispatch).1.isOk = true ∧
      (∀ result s₁, ∀ calls : List SchedulerCall,
        commitAutomationScheduleEvaluation (after started) slots = (.ok result, s₁) →
        let s₂ := calls.foldl SchedulerState.after s₁
        commitAutomationScheduleEvaluation s₂ slots = (.ok result, s₂)) ∧
      ∀ result s₁,
        claimAndBindAutomationOccurrence (after evaluated) dispatch = (.ok result, s₁) →
        let calls : List SchedulerCall :=
          [.acquireLease owner (later + 1) 60000, .beginRun queuedId 1 run.id 0 later]
        let s₂ := calls.foldl SchedulerState.after s₁
        claimAndBindAutomationOccurrence s₂ dispatch = (.ok result, s₂) := by
  have hstarted : JournalRun (fun _ _ => True) store (after started) :=
    .of_calls (allowedCalls_true store started)
  have hevaluated : JournalRun (fun _ _ => True) store (after evaluated) :=
    .of_calls (allowedCalls_true store evaluated)
  refine ⟨by decide +kernel, by decide +kernel, fun result s₁ calls h => ?_, fun result s₁ h => ?_⟩
  · exact ((replay_of_committed rfl hstarted).1 _ result s₁ calls h).1
  · refine ((replay_of_committed rfl hevaluated).2 _ result s₁ _ h).2.1 ?_
    have hother : queuedId ≠ dispatch.claim.occurrenceId := by decide
    exact ⟨⟨id, id⟩, ⟨fun h => hother h.1, id⟩, trivial⟩

/-- The claim is repeated after its run has started, and answered with the running run. -/
theorem begun_replay_differs :
    ¬ ∀ start s s₁ s₂ : SchedulerState, ∀ dispatch result, start.automationOccurrences = ∅ →
      JournalRun (fun _ _ => True) start s →
      claimAndBindAutomationOccurrence s dispatch = (.ok result, s₁) →
      JournalRun (fun _ _ => True) s₁ s₂ →
      claimAndBindAutomationOccurrence s₂ dispatch = (.ok result, s₂) := by
  intro h
  have hstates : ((claimAndBindAutomationOccurrence (after evaluated) dispatch).1.toOption.map
        fun bound => bound.run.state) = some .queued ∧
      ((claimAndBindAutomationOccurrence (after running) dispatch).1.toOption.map
        fun bound => bound.run.state) = some .running := by
    decide +kernel
  cases hbound : claimAndBindAutomationOccurrence (after evaluated) dispatch with
  | mk answer s₁ =>
    cases answer with
    | error e => simp [hbound] at hstates
    | ok result =>
      have hlast : JournalRun (fun _ _ => True) s₁ (after running) := by
        obtain rfl : (claimAndBindAutomationOccurrence (after evaluated) dispatch).2 = s₁ := by
          rw [hbound]
        exact .of_calls (allowedCalls_true _ [.beginRun activeId 2 run.id 0 later])
      have hrepl := h store (after evaluated) s₁ (after running) dispatch result rfl
        (.of_calls (allowedCalls_true store evaluated)) hbound hlast
      rw [hbound, hrepl] at hstates
      exact absurd (hstates.1.symm.trans hstates.2) (by decide)

end SampleJournal

end GrokDesktop
