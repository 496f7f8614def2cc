import GrokDesktop.HostWork.Execution

/-!
# Approvals and run states

A request makes a run wait and a decision ends the wait, each together with its approval. The run
service and an interruption move a run alone: a run that waits is moved on and its approval is left
pending. As long as no waiting run is moved in that way, a run waits exactly when it has one pending
approval.
-/

namespace GrokDesktop.HostWork.ExecutionState

open Except Table
open Machine

variable {s s' : ExecutionState}

/-- The number of pending approvals of a run. -/
def pendingCount (approvals : Table ApprovalId Approval) (id : RunId) : ℕ :=
  approvals.values.countP fun approval => approval.runId = id ∧ approval.status = .pending

/-- Whether the run waits for an approval. -/
def awaits (runs : Table RunId Run) (id : RunId) : Bool :=
  (runs.lookup id).any fun run => run.state = .awaitingApproval

/-- Runs and approvals agree. For an approval of a run that has ended only the repetition of a
recorded decision is answered, with the recorded outcome, and it changes nothing. -/
structure ApprovalsAgree (s : ExecutionState) : Prop where
  awaiting : ∀ id run, s.runs.lookup id = some run →
    (run.state = .awaitingApproval ↔ pendingCount s.approvals id = 1)
  ended : ∀ id run, s.runs.lookup id = some run → run.state.isTerminal = true →
    pendingCount s.approvals id = 0
  undecided : ∀ id approval run expected decision command now out,
    s.approvals.lookup id = some approval → s.runs.lookup approval.runId = some run →
      run.state.isTerminal = true → s.decide id expected decision command now = .ok out →
        ∃ outcome, s.IsRecorded command outcome ∧ out = (decidedApprovalOutcome outcome, s)

/-- No run that waits for an approval is moved alone. -/
def keepsWaiting (s : ExecutionState) : Event → Bool
  | .transition id _ _ _ => !awaits s.runs id
  | .interrupt id _ _ => !(s.effects.lookup id).any fun effect => awaits s.runs effect.runId
  | _ => true

/-! ## Counting the pending approvals -/

/-- Each run has the pending approvals that its state calls for. -/
def Counted (s : ExecutionState) : Prop :=
  ∀ id, pendingCount s.approvals id = (awaits s.runs id).toNat

lemma awaits_insert (runs : Table RunId Run) (id id' : RunId) (run : Run) :
    awaits (runs.insert id run) id' =
      if id' = id then Decidable.decide (run.state = .awaitingApproval) else awaits runs id' := by
  unfold awaits
  rw [lookup_insert]
  split
  · rfl
  · rfl

/-- How the count changes when an approval is written. -/
lemma pendingCount_insert (approvals : Table ApprovalId Approval) (id : ApprovalId)
    (approval : Approval) (runId : RunId) :
    pendingCount (approvals.insert id approval) runId +
        (approvals.lookup id).toList.countP (fun approval =>
          approval.runId = runId ∧ approval.status = .pending) =
      pendingCount approvals runId +
        if approval.runId = runId ∧ approval.status = .pending then 1 else 0 := by
  unfold pendingCount
  rw [countP_values_insert]
  simp

/-- Moving a run alone keeps the counts if the run neither waited nor waits now. -/
theorem Counted.insert_run {id : RunId} {run : Run} (h : s.Counted)
    (hbef : awaits s.runs id = false) (hafter : run.state ≠ .awaitingApproval) :
    Counted { s with runs := s.runs.insert id run } := by
  intro id'
  rw [awaits_insert]
  split
  · subst id'
    rw [decide_eq_false hafter, ← hbef]
    exact h id
  · exact h id'

variable {now : UnixMillis} {id : ApprovalId}

/-- A request adds the one approval that its run waits for. -/
theorem Counted.request {input : RequestApproval}
    {out : Approval × ExecutionState} (h : s.Counted) (hout : s.request input id now = .ok out) :
    out.2.Counted := by
  obtain ⟨run, hrun, ⟨hperm, -⟩, hnew, hpend, hrid, hsta⟩ := request_eq_ok hout
  -- A run that can be made to wait does not wait already.
  have hwaits : awaits s.runs input.runId = false := by
    rw [awaits]
    cases hcase : run.state <;> simp_all [RunState.permits]
  rw [hsta]
  intro id'
  have hcnt := pendingCount_insert s.approvals id out.1 id'
  rw [hnew, hpend, hrid, h id', Option.toList_none, List.countP_nil] at hcnt
  rw [awaits_insert, ← Nat.add_zero (pendingCount _ _), hcnt]
  by_cases hid : id' = input.runId
  · subst hid
    simp [hwaits, Run.moved]
  · simp [hid, eq_comm (a := input.runId)]

/-- A decision closes the one approval that its run waits for. -/
theorem Counted.commitDecision {expected : ℕ} {decision : ApprovalDecision}
    {command : MutationCommand} {out : Except ApplicationError Approval × ExecutionState}
    (h : s.Counted) (hout : s.commitDecision id expected decision command now = .ok out) :
    out.2.Counted := by
  obtain ⟨approval, decided, run, next, happr, hpend, hrun, -, hrid, hnext, hsta⟩ :=
    commitDecision_eq_ok hout
  have hclo : decided.status ≠ .pending ∧ next ≠ .awaitingApproval := by
    rcases hnext with ⟨hstat, rfl⟩ | ⟨hstat, -, rfl⟩
    · rw [hstat]
      exact ⟨by decide, by decide⟩
    · exact ⟨hstat, by decide⟩
  rw [hsta]
  intro id'
  have hcnt := pendingCount_insert s.approvals id decided id'
  rw [happr, h id'] at hcnt
  rw [awaits_insert]
  by_cases hid : id' = approval.runId
  · subst hid
    have hle := (awaits s.runs approval.runId).toNat_le
    have hone : pendingCount (s.approvals.insert id decided) approval.runId + 1 =
        (awaits s.runs approval.runId).toNat := by
      simpa [hpend, hclo.1] using hcnt
    have hzero : pendingCount (s.approvals.insert id decided) approval.runId = 0 := by omega
    simp [Run.moved, hclo.2, hzero]
  · simpa [hid, hclo.1, eq_comm (a := approval.runId)] using hcnt

/-- Every call keeps the counts, as long as no waiting run is moved alone. -/
theorem Counted.step {e : Event} (h : s.Counted) (hall : s.keepsWaiting e = true)
    (hstep : s.step e = some s') : s'.Counted := by
  cases e with
  | createWork id projectId threadId now =>
    obtain ⟨out, hout, rfl⟩ := committed_eq_some.1 hstep
    simp only [createWork, bind_eq_ok, rejectIf_eq_ok, return_eq_ok, Bool.not_eq_true] at hout
    obtain ⟨_, hnew, rfl⟩ := hout
    refine h.insert_run ?_ (by simp [Run.queuedWork, Run.queued])
    simp [awaits, contains_eq_false.1 hnew]
  | transition id expected next now =>
    rw [ExecutionState.step, Option.ite_none_right_eq_some] at hstep
    obtain ⟨hnext, hcom⟩ := hstep
    obtain ⟨out, hout, rfl⟩ := committed_eq_some.1 hcom
    obtain ⟨run, -, -, -, rfl⟩ := transition_eq_ok.1 hout
    refine h.insert_run (by simpa [keepsWaiting] using hall) ?_
    rintro rfl
    revert hnext
    decide
  | request input id now =>
    obtain ⟨out, hout, rfl⟩ := committed_eq_some.1 hstep
    exact h.request hout
  | decide id expected decision command now =>
    obtain ⟨out, hout, rfl⟩ := committed_eq_some.1 hstep
    rcases decide_eq_ok hout with ⟨outcome, -, rfl⟩ | hcommit
    · exact h
    · exact h.commitDecision hcommit
  | prepare input id now =>
    obtain ⟨out, hout, rfl⟩ := committed_eq_some.1 hstep
    simp only [prepare, bind_eq_ok, return_eq_ok] at hout
    obtain ⟨_, _, _, _, _, _, _, _, rfl⟩ := hout
    exact h
  | start id expected now | finish id expected succeeded now =>
    obtain ⟨out, hout, rfl⟩ := committed_eq_some.1 hstep
    obtain ⟨_, _, _, _, _, rfl⟩ := moveEffect_eq_ok.1 hout
    exact h
  | interrupt id expected now =>
    obtain ⟨out, hout, rfl⟩ := committed_eq_some.1 hstep
    obtain ⟨effect, run, heff, -, -, -, -, -, rfl⟩ := interrupt_eq_ok.1 hout
    refine Counted.insert_run (s := { s with effects := _ }) h ?_ (by simp [Run.moved])
    simpa [keepsWaiting, heff] using hall
  | dispatch what =>
    obtain rfl := Option.some.inj hstep
    exact h

/-- In every run in which no waiting run is moved alone, approvals and run states agree. -/
theorem approvals_agree (h : Reaches step keepsWaiting {} s) : s.ApprovalsAgree := by
  have hcnt : s.Counted := h.invariant (P := Counted) (fun _ => rfl) fun _ _ _ =>
    Counted.step
  refine ⟨?_, ?_, ?_⟩
  · intro id run hrun
    rw [hcnt id]
    simp [awaits, hrun]
  · intro id run hrun hend
    rw [hcnt id]
    cases hcase : run.state <;> simp_all [awaits, RunState.isTerminal]
  · intro id approval run expected decision command now out happr hrun hend hout
    -- A decision that commits moves the run, and a run that has ended is not moved.
    rcases decide_eq_ok hout with hprior | hcommit
    · exact hprior
    obtain ⟨_, _, run', next, happr', -, hrun', ⟨hperm, -⟩, -⟩ := commitDecision_eq_ok hcommit
    obtain rfl := Option.mem_unique happr happr'
    cases hcase : run.state <;> simp_all [RunState.isTerminal, RunState.permits]

/-! ## A run that is cancelled while it waits -/

namespace Waiting

/-- A run that asks for an approval. -/
def events : List Event :=
  [.createWork ⟨"run", rfl⟩ ⟨"project", rfl⟩ ⟨"thread", rfl⟩ 1,
    .transition ⟨"run", rfl⟩ 0 .planning 2, .transition ⟨"run", rfl⟩ 1 .running 3,
    .request ⟨⟨"run", rfl⟩, 2, ⟨"host_process_exec", "[\"ls\"]", "Run in /home", .high⟩, .once, 9⟩
      ⟨"approval", rfl⟩ 4]

/-- The approval is granted. -/
def grant (now : UnixMillis) : Event :=
  .decide ⟨"approval", rfl⟩ 0 .grant ⟨"decide_approval", "grant-once", 1⟩ now

/-- The agreement after the approval is granted, the run is completed and the decision is
repeated. -/
theorem approvals_agree_waiting :
    ∃ s, run step keepsWaiting {}
        (events ++ [grant 5, .transition ⟨"run", rfl⟩ 4 .completed 6, grant 7]) = some s ∧
      s.ApprovalsAgree :=
  ⟨_, rfl, approvals_agree
    ⟨events ++ [grant 5, .transition ⟨"run", rfl⟩ 4 .completed 6, grant 7], rfl⟩⟩

/-- Cancelling the run ends it and leaves its approval pending. -/
theorem cancelled_run_pending :
    ¬ ∀ s, Reaches step (fun _ _ => true) {} s → s.ApprovalsAgree := by
  intro h
  have hended := (h _ ⟨events ++ [.transition ⟨"run", rfl⟩ 3 .cancelled 5], rfl⟩).ended
    ⟨"run", rfl⟩ _ rfl rfl
  exact absurd hended (by decide)

end Waiting

end GrokDesktop.HostWork.ExecutionState
