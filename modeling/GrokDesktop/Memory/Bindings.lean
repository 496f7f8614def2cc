import GrokDesktop.Memory.Progress

/-!
# The bindings of the journal

A bound occurrence has a binding with its run. The start and the end of the run and a recovery
replace it, and no other call does. A run that a call puts into a binding has left the queue.
-/

namespace GrokDesktop

open Table Except SchedulerState

section Recovery

variable {s : SchedulerState} {id : AutomationOccurrenceId} {stage : RecoveryStage}
  {binding : AutomationOccurrenceDispatchResult}

/-- A recovered occurrence is written into its own binding. -/
lemma binding_writeRecoveredOccurrence
    (hbind : s.automationOccurrenceDispatches.lookup id = some binding)
    (key : AutomationOccurrenceId) (occurrence : AutomationOccurrence) :
    ∃ next, (s.writeRecoveredOccurrence key occurrence).automationOccurrenceDispatches.lookup id
        = some next ∧ next.run = binding.run ∧ (id = key ∨ next = binding) := by
  unfold writeRecoveredOccurrence
  cases hkey : s.automationOccurrenceDispatches.lookup key with
  | none => exact ⟨binding, hbind, rfl, .inr rfl⟩
  | some other =>
    simp only [lookup_insert]
    split
    · rename_i hid
      rw [← hid, hbind] at hkey
      exact ⟨_, rfl, by rw [Option.some.inj hkey], .inl hid⟩
    · exact ⟨binding, hbind, rfl, .inr rfl⟩

/-- An interrupted run is written into a binding that has it. -/
lemma binding_writeRecoveredRun
    (hbind : s.automationOccurrenceDispatches.lookup id = some binding) (key : RunId) (run : Run) :
    ∃ next, (s.writeRecoveredRun key run).automationOccurrenceDispatches.lookup id = some next ∧
      (next = binding ∨ binding.run.id = key ∧ next.run = run) := by
  unfold writeRecoveredRun
  cases hfind : s.automationOccurrenceDispatches.entries.find? fun entry =>
      entry.2.run.id = key with
  | none => exact ⟨binding, hbind, .inl rfl⟩
  | some entry =>
    simp only [lookup_insert]
    split
    · rename_i hid
      have hentry := AList.mem_lookup_iff.2 (List.mem_of_find?_eq_some hfind)
      rw [← hid] at hentry
      rw [Option.mem_unique hbind hentry]
      exact ⟨_, rfl, .inr ⟨by simpa using List.find?_some hfind, rfl⟩⟩
    · exact ⟨binding, hbind, .inl rfl⟩

/-- A recovery keeps a binding whose occurrence and run it does not stage, and the run that it puts
into another one has left the queue. -/
lemma binding_writeRecovery (hbind : s.automationOccurrenceDispatches.lookup id = some binding)
    (hruns : ∀ key run, stage.runs.lookup key = some run → run.state ≠ .queued) :
    ∃ next, (s.writeRecovery stage).automationOccurrenceDispatches.lookup id = some next ∧
      (next.run = binding.run ∨ next.run.state ≠ .queued) ∧
      (stage.occurrences.lookup id = none → stage.runs.lookup binding.run.id = none →
        next = binding) := by
  let Left (t : SchedulerState) : Prop :=
    ∃ next, t.automationOccurrenceDispatches.lookup id = some next ∧
      (next.run = binding.run ∨ next.run.state ≠ .queued) ∧
      (stage.occurrences.lookup id = none → stage.runs.lookup binding.run.id = none →
        next = binding)
  refine List.foldlRecOn (motive := Left) _ _ (List.foldlRecOn (motive := Left) _ _
    ⟨binding, hbind, .inl rfl, fun _ _ => rfl⟩ ?_) ?_
  · rintro t ⟨mid, hmid, hrun, hkept⟩ entry hentry
    obtain ⟨next, hnext, hsame, hid⟩ := binding_writeRecoveredOccurrence hmid entry.1 entry.2
    refine ⟨next, hnext, hsame ▸ hrun, fun hnone hnoRun => ?_⟩
    rcases hid with rfl | rfl
    · rw [AList.mem_lookup_iff.2 hentry] at hnone
      cases hnone
    · exact hkept hnone hnoRun
  · rintro t ⟨mid, hmid, hrun, hkept⟩ entry hentry
    have hstaged := AList.mem_lookup_iff.2 hentry
    obtain ⟨next, hnext, rfl | ⟨hid, hsame⟩⟩ := binding_writeRecoveredRun hmid entry.1 entry.2
    · exact ⟨next, hnext, hrun, hkept⟩
    · refine ⟨next, hnext, .inr (hsame ▸ hruns _ _ hstaged), fun hnone hnoRun => ?_⟩
      rw [hkept hnone hnoRun] at hid
      rw [hid, hstaged] at hnoRun
      cases hnoRun

end Recovery

section Steps

variable [TimezoneLibrary] [Sha256Library] {s : SchedulerState} {id : AutomationOccurrenceId}
  {binding : AutomationOccurrenceDispatchResult}

/-- The call starts or ends the bound run of an occurrence. -/
def SchedulerState.MovesRun (s : SchedulerState) (id : AutomationOccurrenceId)
    (c : SchedulerCall) : Prop :=
  match c with
  | .beginRun occurrenceId _ _ _ _ | .completeRun occurrenceId _ _ _ _ =>
      occurrenceId = id ∧ s.after c ≠ s
  | _ => False

/-- The call is a recovery that changes the occurrence or the run. -/
def SchedulerState.RecoversBound (s : SchedulerState) (id : AutomationOccurrenceId)
    (runId : RunId) (c : SchedulerCall) : Prop :=
  match c with
  | .recoverClaims _ _ _ =>
      (s.after c).automationOccurrences.lookup id ≠ s.automationOccurrences.lookup id ∨
        (s.after c).runs.lookup runId ≠ s.runs.lookup runId
  | _ => False

/-- The runs that a recovery stages are interrupted ones, and differ from the stored ones. -/
lemma staged_run {now : UnixMillis} {limit : ℕ} {start stage : RecoveryStage}
    (hstart : start.runs = ∅)
    (h : ((s.expiredOccurrences now).take limit).foldlM (recoverOccurrence s now) start
      = .ok stage) {key : RunId} {run : Run} (hrun : stage.runs.lookup key = some run) :
    run.state = .interruptedNeedsReview ∧ s.runs.lookup key ≠ some run := by
  refine recovery_induction (P := fun stage => ∀ key run, stage.runs.lookup key = some run →
    run.state = .interruptedNeedsReview ∧ s.runs.lookup key ≠ some run) h
    (by simp [hstart]) ?_ key run hrun
  intro stage stage' cur _ hstep ih key run hrun
  cases hstep with
  | resumable => exact ih key run hrun
  | recovered _ _ _ _ hint =>
    cases hint with
    | kept => exact ih key run hrun
    | interrupted hold htr =>
      obtain ⟨hperm, -, rfl⟩ := Run.transition_eq_ok.1 htr
      rcases lookup_insert_cases hrun with hrun | ⟨rfl, rfl⟩
      · exact ih key run hrun
      · refine ⟨rfl, fun hsame => ?_⟩
        have hstate := congrArg Run.state (Option.mem_unique hold hsame)
        rw [hstate] at hperm
        cases hperm

/-- The run of a binding stays or leaves the queue, which it does when the call starts or ends it,
and the binding stays unless the call does that or recovers it. -/
lemma binding_after (ht : JournalEntries s.automationOccurrences)
    (hbind : s.automationOccurrenceDispatches.lookup id = some binding) (c : SchedulerCall) :
    ∃ next, (s.after c).automationOccurrenceDispatches.lookup id = some next ∧
      (next.run = binding.run ∧ ¬ s.MovesRun id c ∨ next.run.state ≠ .queued) ∧
      (next = binding ∨ s.MovesRun id c ∨ s.RecoversBound id binding.run.id c) := by
  obtain ⟨r, hans⟩ := exists_answer s c
  have hstep := journalStep_of_answers hans
  by_cases hsame : s.after c = s
  · refine ⟨binding, by rw [hsame, hbind], .inl ⟨rfl, fun h => ?_⟩, .inl rfl⟩
    unfold SchedulerState.MovesRun at h
    split at h
    · exact h.2 hsame
    · exact h.2 hsame
    · exact h
  generalize hafter : s.after c = s' at hstep hsame ⊢
  cases hstep with
  | unchanged => exact absurd rfl hsame
  | created | saved | firstLease | renewed | takenOver | evaluated | claimed | linked | savedRun =>
    exact ⟨binding, hbind, .inl ⟨rfl, fun h => h⟩, .inl rfl⟩
  | @bound dispatch _ _ _ _ _ result hchk hfresh hclm _ hlink hresult =>
    obtain ⟨hcur, -⟩ := checkedClaim_eq_ok hchk
    have hlat := AutomationOccurrence.later_bind (ht.lifecycle _ _ hcur) hclm hlink
    simp only [dispatchConflicts, Bool.or_eq_false_iff, contains_eq_false] at hfresh
    have hother : id ≠ result.occurrence.id := by
      rintro rfl
      rw [hresult, hlat.id_eq, hfresh.2] at hbind
      cases hbind
    exact ⟨binding, (lookup_insert_of_ne _ _ hother).trans hbind, .inl ⟨rfl, fun h => h⟩, .inl rfl⟩
  | @began occurrenceId _ _ _ _ other _ _ _ running hother _ _ _ _ _ _ _ hrunning =>
    by_cases hid : id = occurrenceId
    · obtain ⟨-, -, rfl⟩ := Run.transition_eq_ok.1 hrunning
      rw [hid]
      exact ⟨_, lookup_insert_self _ _ _, .inr (by simp),
        .inr (.inl ⟨rfl, hafter ▸ hsame⟩)⟩
    · exact ⟨binding, (lookup_insert_of_ne _ _ hid).trans hbind,
        .inl ⟨rfl, fun h => hid h.1.symm⟩, .inl rfl⟩
  | @completed occurrenceId _ _ completion _ _ ended _ _ _ other _ _ _ _ hended _ _ hother =>
    by_cases hid : id = occurrenceId
    · obtain ⟨-, -, rfl⟩ := Run.transition_eq_ok.1 hended
      rw [hid]
      exact ⟨_, lookup_insert_self _ _ _, .inr (by cases completion <;> simp
        [AutomationOccurrenceRunCompletion.runState]), .inr (.inl ⟨rfl, hafter ▸ hsame⟩)⟩
    · exact ⟨binding, (lookup_insert_of_ne _ _ hid).trans hbind,
        .inl ⟨rfl, fun h => hid h.1.symm⟩, .inl rfl⟩
  | @recovered _ _ _ _ _ stage _ hstart hstage =>
    obtain ⟨next, hnext, hrun, hkept⟩ := binding_writeRecovery hbind fun key run hrun => by
      simp [(staged_run hstart.2.2.1 hstage hrun).1]
    refine ⟨next, hnext, hrun.imp_left fun hrun => ⟨hrun, fun h => h⟩, ?_⟩
    by_cases hocc : stage.occurrences.lookup id = none
    · by_cases hrun : stage.runs.lookup binding.run.id = none
      · exact .inl (hkept hocc hrun)
      · obtain ⟨run, hrun⟩ := Option.ne_none_iff_exists'.1 hrun
        refine .inr (.inr (.inr ?_))
        rw [hafter, writeRecovery_runs, lookup_insertEntries, hrun]
        exact (staged_run hstart.2.2.1 hstage hrun).2.symm
    · obtain ⟨new, hnew⟩ := Option.ne_none_iff_exists'.1 hocc
      obtain ⟨old, hold, -, hne⟩ := staged_later ht hstart.1 hstage hnew
      refine .inr (.inr (.inl ?_))
      rw [hafter, writeRecovery_automationOccurrences, lookup_insertEntries, hnew, hold]
      exact fun h => hne (congrArg _ (Option.some.inj h))

/-- A binding stays along calls that do not start, end or recover it; once a call has started or
ended its run, that run is not queued any more. -/
theorem binding_after_calls (calls : List SchedulerCall)
    (ht : JournalEntries s.automationOccurrences)
    (hbind : s.automationOccurrenceDispatches.lookup id = some binding) :
    ∃ last, (calls.foldl SchedulerState.after s).automationOccurrenceDispatches.lookup id
        = some last ∧
      (last.run = binding.run ∧ AllowedCalls (fun s c => ¬ s.MovesRun id c) s calls ∨
        last.run.state ≠ .queued) ∧
      (AllowedCalls (fun s c => ¬ s.MovesRun id c ∧ ¬ s.RecoversBound id binding.run.id c) s calls →
        last = binding) := by
  induction calls generalizing s binding with
  | nil => exact ⟨binding, hbind, .inl ⟨rfl, trivial⟩, fun _ => rfl⟩
  | cons c calls ih =>
    obtain ⟨r, hans⟩ := exists_answer s c
    have hprog := (journalStep_of_answers hans).progress ht
    obtain ⟨next, hnext, hrun, hkept⟩ := binding_after ht hbind c
    obtain ⟨last, hlast, hruns, hall⟩ := ih (hprog.entries ht) hnext
    refine ⟨last, hlast, ?_, fun hallowed => ?_⟩
    · rcases hruns with ⟨hsame, hrest⟩ | hleft
      · rw [hsame]
        exact hrun.imp_left fun h => ⟨h.1, h.2, hrest⟩
      · exact .inr hleft
    · obtain rfl := hkept.resolve_right fun h => h.elim hallowed.1.1 hallowed.1.2
      exact hall hallowed.2

end Steps

end GrokDesktop
