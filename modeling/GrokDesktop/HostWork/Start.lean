import GrokDesktop.HostWork.Execution
import GrokDesktop.HostWork.Prompt

/-!
# The start of Host Work

`HostWorkService::start` creates the run of a turn before it takes the permit of the runtime, moves
the run to planning and stores the message of the user. Each of these can still fail, and nothing
closes the run then: it stays open in the thread, where the next start finds it.
-/

namespace GrokDesktop.HostWork

open Except Table

/-- The calls of a start that can fail by themselves, the reading of their arguments included. -/
inductive StartCall where
  | getPolicy
  | getThread
  | listHostWork
  | collectContext
  | createWork
  | transition
  | createMessage
  deriving DecidableEq

/-- The request to start work in a thread. -/
structure StartRequest where
  projectId : ProjectId
  threadId : ThreadId
  prompt : String

/-- How the calls of a start are answered. -/
structure StartReplies where
  failure : StartCall → Option ApplicationError := fun _ => none
  ready : Bool := true
  policy : HostExecutionPolicy
  thread : Thread
  priorMessages : List Message := []
  /-- The outcome that is recorded for the key of the creation. -/
  created : Option Run := none
  newRunId : RunId
  createdAt : UnixMillis
  permit : Bool
  /-- The outcome that is recorded for the key of the planning. -/
  planned : Option Run := none
  plannedAt : UnixMillis

/-- The thread has the run, and the run is an open host run. -/
def ExecutionState.HasOpenRun (s : ExecutionState) (threadId : ThreadId) (id : RunId) : Prop :=
  ∃ run, s.runs.lookup id = some run ∧ run.isWorkBoundTo .hostDirect = true ∧
    run.threadId = threadId ∧ run.state.isTerminal = false

/-- `list_host_work` of the thread: the 100 runs that were changed last. -/
def ExecutionState.listHostWork (s : ExecutionState) (threadId : ThreadId) : List Run :=
  ((s.runs.values.filter fun run => run.isWorkBoundTo .hostDirect &&
    run.threadId = threadId).insertionSort fun a b => b.updatedAt < a.updatedAt ∨
      a.updatedAt = b.updatedAt ∧ a.id.value ≤ b.id.value).take 100

namespace StartReplies

variable (replies : StartReplies) (s : ExecutionState) (request : StartRequest)

/-- A call that succeeds unless it fails by itself. -/
def attempt (call : StartCall) : Except ApplicationError Unit :=
  match replies.failure call with
  | some failure => .error failure
  | none => .ok ()

/-- The checks before the run is created. -/
def checks : Except ApplicationError Unit := do
  rejectIf (trim request.prompt = "" ∨ maxWorkPromptBytes < request.prompt.utf8ByteSize)
    (.invalidInput "Host Work prompt is invalid")
  rejectIf (replies.ready = false) (.unavailable "Host Work runtime is not prepared")
  replies.attempt .getPolicy
  rejectIf (replies.policy.isEffectivelyActive = false)
    (.invalidState "Host Tools enrollment is not active")
  replies.attempt .getThread
  rejectIf (replies.thread.projectId ≠ request.projectId)
    (.invalidInput "Host Work thread does not belong to the selected project")
  replies.attempt .listHostWork
  replies.attempt .collectContext
  let existingRuns := s.listHostWork request.threadId
  rejectIf (existingRuns = [] ∧ replies.priorMessages ≠ [])
    (.invalidState "Host Work cannot be enabled inside an existing Chat conversation")
  rejectIf (existingRuns.any fun run => !run.state.isTerminal)
    (.invalidState "A Host Work turn is already active in this conversation")
  let _ ← hostWorkPrompt replies.policy replies.priorMessages request.prompt

/-- `RunService::create_work`. -/
def createRun : Except ApplicationError (Run × ExecutionState) := do
  replies.attempt .createWork
  match replies.created with
  | some run => return (run, s)
  | none => s.createWork replies.newRunId request.projectId request.threadId replies.createdAt

/-- `RunService::transition` to planning. -/
def plan (run : Run) : Except ApplicationError (Run × ExecutionState) := do
  replies.attempt .transition
  match replies.planned with
  | some run => return (run, s)
  | none => s.transition run.id run.revision .planning replies.plannedAt

/-- The steps after the creation. The error of a later one does not undo an earlier one. -/
def launch (run : Run) : Except ApplicationError Run × ExecutionState :=
  if replies.permit then
    match replies.plan s run with
    | .error failure => (.error failure, s)
    | .ok (run, s) => (replies.attempt .createMessage >>= fun _ => .ok run, s)
  else (.error (.unavailable "Host Work runtime is busy"), s)

/-- `HostWorkService::start`, up to the point at which the execution is spawned. -/
def start : Except ApplicationError Run × ExecutionState :=
  match replies.checks s request with
  | .error failure => (.error failure, s)
  | .ok () =>
    match replies.createRun s request with
    | .error failure => (.error failure, s)
    | .ok (run, s) => if run.state ≠ .queued then (.ok run, s) else replies.launch s run

/-- A start that fails leaves no open host run in the thread that was not there before. -/
def LeavesNothing : Prop :=
  (∃ failure, (replies.start s request).1 = .error failure) →
    ∀ id, (replies.start s request).2.HasOpenRun request.threadId id →
      s.HasOpenRun request.threadId id

/-- The start is admitted and creates a run. -/
def Creates : Prop :=
  replies.checks s request = .ok () ∧ replies.failure .createWork = none ∧
    replies.created = none ∧ s.runs.lookup replies.newRunId = none

/-- The permit is free, the clock does not go back, and the planning and the message are stored. -/
def Unhindered : Prop :=
  replies.permit = true ∧ replies.failure .transition = none ∧
    (replies.planned = none → replies.createdAt ≤ replies.plannedAt) ∧
    replies.failure .createMessage = none

/-! ## The steps -/

variable {replies s request}

@[simp] lemma attempt_eq_ok {call : StartCall} {u : Unit} :
    replies.attempt call = .ok u ↔ replies.failure call = none := by
  unfold attempt
  cases replies.failure call <;> simp

variable {out : Run × ExecutionState} {threadId : ThreadId} {id : RunId} {run : Run}

/-- Planning opens no run. -/
lemma plan_hasOpenRun (h : replies.plan s run = .ok out) (hopen : out.2.HasOpenRun threadId id) :
    s.HasOpenRun threadId id := by
  simp only [plan, bind_eq_ok] at h
  obtain ⟨_, -, h⟩ := h
  split at h
  · cases h
    exact hopen
  · obtain ⟨old, hold, -, ⟨hperm, -⟩, rfl⟩ := ExecutionState.transition_eq_ok.1 h
    obtain ⟨new, hnew, hbound, hthr, hlive⟩ := hopen
    rcases lookup_insert_cases hnew with hkept | ⟨rfl, rfl⟩
    · exact ⟨new, hkept, hbound, hthr, hlive⟩
    · refine ⟨old, hold, hbound, hthr, ?_⟩
      cases hsta : old.state <;> simp_all [RunState.permits, RunState.isTerminal]

/-- Launching opens no run. -/
lemma launch_hasOpenRun
    (hopen : (replies.launch s run).2.HasOpenRun threadId id) : s.HasOpenRun threadId id := by
  unfold launch at hopen
  split at hopen
  · split at hopen
    · exact hopen
    · next hplan => exact plan_hasOpenRun hplan hopen
  · exact hopen

/-! ## A created run -/

variable (replies s request)

/-- The run that a start creates. -/
def newRun : Run :=
  .queuedWork replies.newRunId request.projectId request.threadId .hostDirect replies.createdAt

/-- The store with the created run. -/
def withNewRun : ExecutionState :=
  { s with runs := s.runs.insert replies.newRunId (replies.newRun request) }

variable {replies s request}

lemma lookup_withNewRun :
    (replies.withNewRun s request).runs.lookup replies.newRunId = some (replies.newRun request) :=
  lookup_insert_self ..

/-- A start that creates its run goes on to launch it. -/
lemma start_of_creates (h : replies.Creates s request) : replies.start s request =
    replies.launch (replies.withNewRun s request) (replies.newRun request) := by
  obtain ⟨hchec, hcall, hcre, hfresh⟩ := h
  have hnew : s.runs.contains replies.newRunId = false := contains_eq_false.2 hfresh
  have hrun : replies.createRun s request =
      .ok (replies.newRun request, replies.withNewRun s request) := by
    simp [createRun, attempt, hcall, hcre, ExecutionState.createWork, rejectIf, hnew, newRun,
      withNewRun]
  simp [start, hchec, hrun, newRun, Run.queuedWork, Run.queued]

/-- The planning of the created run keeps it open. -/
lemma plan_newRun
    (h : replies.plan (replies.withNewRun s request) (replies.newRun request) = .ok out) :
    out.2.HasOpenRun request.threadId replies.newRunId := by
  simp only [plan, bind_eq_ok] at h
  obtain ⟨_, -, h⟩ := h
  split at h
  · cases h
    exact ⟨_, lookup_withNewRun, rfl, rfl, rfl⟩
  · obtain ⟨run, hrun, -, -, rfl⟩ := ExecutionState.transition_eq_ok.1 h
    cases lookup_withNewRun.symm.trans hrun
    exact ⟨_, lookup_insert_self .., rfl, rfl, rfl⟩

lemma exists_plan_newRun :
    (∃ out, replies.plan (replies.withNewRun s request) (replies.newRun request) = .ok out) ↔
      replies.failure .transition = none ∧
        (replies.planned = none → replies.createdAt ≤ replies.plannedAt) := by
  cases hplan : replies.planned with
  | some run => simp [plan, hplan, bind_eq_ok]
  | none =>
    simp only [plan, hplan, bind_eq_ok, attempt_eq_ok, ExecutionState.transition_eq_ok]
    constructor
    · rintro ⟨out, _, hcall, run, hrun, -, ⟨-, hclk, -⟩, -⟩
      cases lookup_withNewRun.symm.trans hrun
      exact ⟨hcall, fun _ => hclk⟩
    · rintro ⟨hcall, hclk⟩
      have hroom : (replies.newRun request).revision < u64Max := show 0 < u64Max by decide
      exact ⟨_, (), hcall, _, lookup_withNewRun, rfl, ⟨rfl, hclk trivial, hroom⟩, rfl⟩

lemma launch_newRun_hasOpenRun :
    (replies.launch (replies.withNewRun s request) (replies.newRun request)).2.HasOpenRun
      request.threadId replies.newRunId := by
  have hopen : (replies.withNewRun s request).HasOpenRun request.threadId replies.newRunId :=
    ⟨_, lookup_withNewRun, rfl, rfl, rfl⟩
  unfold launch
  split
  · split
    · exact hopen
    · next hplan => exact plan_newRun hplan
  · exact hopen

/-- When the launch of a new run fails. -/
lemma launch_newRun_fails :
    (∃ failure, (replies.launch (replies.withNewRun s request) (replies.newRun request)).1 =
      .error failure) ↔ ¬ replies.Unhindered := by
  have hplans := @exists_plan_newRun replies s request
  unfold launch Unhindered
  by_cases hperm : replies.permit = true
  · rw [if_pos hperm]
    cases hplan : replies.plan (replies.withNewRun s request) (replies.newRun request) with
    | error failure =>
      simp only [hplan, reduceCtorEq, exists_false, false_iff] at hplans
      simp only [Except.error.injEq, exists_eq', true_iff]
      exact fun h => hplans ⟨h.2.1, h.2.2.1⟩
    | ok out =>
      cases hmess : replies.failure .createMessage <;>
        simp_all [attempt]
  · simp [hperm]

/-- A hindered start leaves its run open. -/
lemma not_leavesNothing (hcre : replies.Creates s request)
    (hhind : ¬ replies.Unhindered) : ¬ replies.LeavesNothing s request := by
  intro hleav
  rw [LeavesNothing, start_of_creates hcre] at hleav
  obtain ⟨run, hrun, -⟩ := hleav (launch_newRun_fails.2 hhind) _ launch_newRun_hasOpenRun
  exact Option.some_ne_none run (hrun.symm.trans hcre.2.2.2)

/-- A refused start leaves nothing behind exactly when, should it create a run, nothing after the
creation stands in its way. -/
theorem leavesNothing_iff : replies.LeavesNothing s request ↔
    (replies.Creates s request → replies.Unhindered) := by
  constructor
  · intro hleaves hcreates
    by_contra hhindered
    exact not_leavesNothing hcreates hhindered hleaves
  · intro hcondition hfails id hopen
    by_cases hcreates : replies.Creates s request
    · rw [start_of_creates hcreates] at hfails
      exact absurd (hcondition hcreates) (launch_newRun_fails.1 hfails)
    unfold start at hopen
    split at hopen
    · exact hopen
    next hchecks =>
    split at hopen
    · exact hopen
    next run after hrun =>
    -- Without a creation the run is the one that is recorded for the key.
    have hsame : after = s := by
      simp only [createRun, bind_eq_ok, attempt_eq_ok] at hrun
      obtain ⟨_, hcall, hrun⟩ := hrun
      split at hrun
      · cases hrun
        rfl
      · next hcreated =>
        simp only [ExecutionState.createWork, bind_eq_ok, rejectIf_eq_ok, Bool.not_eq_true] at hrun
        obtain ⟨_, hnew, -⟩ := hrun
        exact absurd ⟨hchecks, hcall, hcreated, contains_eq_false.1 hnew⟩ hcreates
    subst hsame
    split at hopen
    · exact hopen
    · exact launch_hasOpenRun hopen

end StartReplies

/-! ## A busy runtime -/

namespace BusyRuntime

def request : StartRequest := ⟨⟨"site", rfl⟩, ⟨"chat", rfl⟩, "go"⟩

def replies (run : RunId) (permit : Bool) : StartReplies where
  policy := LongAnswer.policy
  thread := ⟨⟨"chat", rfl⟩, ⟨"site", rfl⟩, "Work", .opened, .original ⟨"chat", rfl⟩, 0, 0, 0⟩
  newRunId := run
  createdAt := 1
  permit := permit
  plannedAt := 1

/-- The start of a thread is refused while another turn has the permit, and the run that it leaves
has the next start refused when the permit is free again. -/
theorem busy_start_blocks : ¬ (replies ⟨"first", rfl⟩ false).LeavesNothing {} request ∧
    ((replies ⟨"next", rfl⟩ true).start ((replies ⟨"first", rfl⟩ false).start {} request).2
      request).1 =
      .error (.invalidState "A Host Work turn is already active in this conversation") := by
  have hchecks : (replies ⟨"first", rfl⟩ false).checks {} request = .ok () := by decide +kernel
  have hcreates : (replies ⟨"first", rfl⟩ false).Creates {} request := ⟨hchecks, rfl, rfl, rfl⟩
  constructor
  · exact StartReplies.not_leavesNothing hcreates fun h => Bool.false_ne_true h.1
  · decide +kernel

end BusyRuntime

end GrokDesktop.HostWork
