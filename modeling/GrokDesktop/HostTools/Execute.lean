import GrokDesktop.Lib.Machine

/-!
# The process group of a host command

`CapabilityHostFilesystem::execute` waits for the leader of the process group that it started, for
the cancellation and for the timeout, whichever comes first. On the last two it sends KILL to the
group. Then it waits until both output pipes are closed and returns. Once the leader has exited it
watches neither the timeout nor the cancellation any more, and sends no KILL: a process of the group
that is still alive then makes the call wait as long as it holds a pipe, and outlives the call if it
holds none.
-/

namespace GrokDesktop.HostTools

open Option

/-- A process of the group and the output pipes it holds. -/
structure GroupProcess where
  alive : Bool
  stdout : Bool
  stderr : Bool
  deriving DecidableEq

/-- Why an execution failed. -/
inductive HostProcessErrorKind where
  | invalid
  | denied
  | unavailable
  | timedOut
  | interrupted
  deriving DecidableEq

structure HostProcessError where
  kind : HostProcessErrorKind
  message : String
  deriving DecidableEq

/-- What ended the first wait of the call. -/
inductive ProcessTerminal where
  | exited
  | cancelled
  | timedOut
  deriving DecidableEq

/-- The error that the call returns in the end. -/
def ProcessTerminal.error : ProcessTerminal → Option HostProcessError
  | exited => none
  | cancelled => some ⟨.interrupted, "Host process was cancelled"⟩
  | timedOut => some ⟨.timedOut, "Host process exceeded its time limit"⟩

/-- Where the call is. -/
inductive Phase where
  | selecting
  /-- KILL was sent and the leader is waited for. -/
  | waiting (terminal : ProcessTerminal)
  | drainingStdout (terminal : ProcessTerminal)
  | drainingStderr (terminal : ProcessTerminal)
  | returned (error : Option HostProcessError)
  deriving DecidableEq

/-- A running call, with the processes of its group; the leader is the first. -/
structure ExecuteState where
  group : List GroupProcess
  cancelled : Bool
  timedOut : Bool
  killed : Bool
  phase : Phase

/-- What can happen. -/
inductive Event where
  /-- A process of the group exits, closes a pipe, or starts a process that inherits its pipes. -/
  | exits (i : ℕ)
  | closesStdout (i : ℕ)
  | closesStderr (i : ℕ)
  | forks (i : ℕ)
  | cancel
  | elapse
  /-- The call takes a ready branch of its first wait, or the wait for the leader fails. -/
  | select (terminal : ProcessTerminal)
  | waitFails
  /-- The call sees the leader, or a pipe, ended. -/
  | reaps
  | drains

namespace ExecuteState

/-- The call right after the process was started. -/
def spawned : ExecuteState := ⟨[⟨true, true, true⟩], false, false, false, .selecting⟩

variable (s : ExecuteState)

def leaderAlive : Bool := s.group.head?.any GroupProcess.alive

/-- No process of the group is alive. -/
def noneAlive : Bool := s.group.all fun p => !p.alive

/-- `kill_process_tree`: KILL ends all members of the group. -/
def killProcessTree : ExecuteState :=
  { s with group := s.group.map fun p => { p with alive := false }, killed := true }

/-- A pipe is at its end when no living process holds it. -/
def atEnd (holds : GroupProcess → Bool) : Bool :=
  s.group.all fun p => !(p.alive && holds p)

/-- The call takes a branch of its first wait. -/
def select : ProcessTerminal → Option ExecuteState
  | .exited => if s.leaderAlive then none else some { s with phase := .drainingStdout .exited }
  | .cancelled =>
      if s.cancelled then some { s.killProcessTree with phase := .waiting .cancelled } else none
  | .timedOut =>
      if s.timedOut then some { s.killProcessTree with phase := .waiting .timedOut } else none

/-- One step of the group, its surroundings or the call. -/
def step : Event → Option ExecuteState
  | .exits i => some { s with group := s.group.modify i fun p => { p with alive := false } }
  | .closesStdout i => some { s with group := s.group.modify i fun p => { p with stdout := false } }
  | .closesStderr i => some { s with group := s.group.modify i fun p => { p with stderr := false } }
  | .forks i => (s.group[i]?).bind fun p =>
      if p.alive then some { s with group := s.group ++ [p] } else none
  | .cancel => some { s with cancelled := true }
  | .elapse => some { s with timedOut := true }
  | .select terminal => if s.phase = .selecting then s.select terminal else none
  | .waitFails =>
      if s.phase = .selecting ∧ s.leaderAlive = false then
        some { s with phase := .returned (some ⟨.unavailable, "Host process wait failed"⟩) }
      else none
  | .reaps => match s.phase with
      | .waiting terminal =>
          if s.leaderAlive then none else some { s with phase := .drainingStdout terminal }
      | _ => none
  | .drains => match s.phase with
      | .drainingStdout terminal =>
          if s.atEnd GroupProcess.stdout then some { s with phase := .drainingStderr terminal }
          else none
      | .drainingStderr terminal =>
          if s.atEnd GroupProcess.stderr then some { s with phase := .returned terminal.error }
          else none
      | _ => none

/-- The call has returned. -/
def returned (s : ExecuteState) : Prop := ∃ error, s.phase = .returned error

/-- The call cannot go on by itself. -/
def blocked : Prop :=
  (∀ terminal, s.step (.select terminal) = none) ∧ s.step .reaps = none ∧ s.step .drains = none

/-- After the timeout or the cancellation a pending call does not wait for a group that was not sent
KILL, and after the return the group is gone. -/
structure Contained (s : ExecuteState) : Prop where
  killed : s.cancelled = true ∨ s.timedOut = true → ¬ s.returned → s.blocked →
    s.killed = true ∨ s.noneAlive = true
  gone : s.returned → s.noneAlive = true

/-- The leader exits only as the last process of its group. -/
def leaderLast : Event → Bool
  | .exits 0 => s.group.tail.all fun p => !p.alive
  | _ => true

/-- While a process of the group is alive the leader is, and the call is in its first wait. -/
def Led : Prop :=
  s.noneAlive = true ∨ s.leaderAlive = true ∧ s.phase = .selecting

/-! ## One step -/

variable {s s' : ExecuteState}

lemma Led.noneAlive_of_leader (h : s.Led) (hldr : s.leaderAlive = false) :
    s.noneAlive = true := by
  rcases h with h | ⟨h, -⟩
  · exact h
  · rw [hldr] at h
    cases h

lemma Led.noneAlive_of_phase (h : s.Led) (hphase : s.phase ≠ .selecting) :
    s.noneAlive = true :=
  h.resolve_right fun hled => hphase hled.2

/-- A change that revives no process and leaves the leader alone. -/
lemma Led.of_group (h : s.Led) (hphase : s'.phase = s.phase)
    (hnone : s.noneAlive = true → s'.noneAlive = true)
    (hldr : s.leaderAlive = true → s'.leaderAlive = true ∨ s'.noneAlive = true) : s'.Led := by
  rcases h with h | ⟨h, hsel⟩
  · exact .inl (hnone h)
  · rcases hldr h with hldr | hgone
    · exact .inr ⟨hldr, hphase.trans hsel⟩
    · exact .inl hgone

variable {f : GroupProcess → GroupProcess} {i : ℕ}

lemma noneAlive_modify (hf : ∀ p, (f p).alive = true → p.alive = true) (h : s.noneAlive = true) :
    { s with group := s.group.modify i f }.noneAlive = true := by
  simp only [noneAlive, List.all_eq_true, Bool.not_eq_true'] at h ⊢
  intro p hp
  obtain ⟨j, hj⟩ := List.getElem?_of_mem hp
  rw [List.getElem?_modify] at hj
  obtain ⟨q, hq, rfl⟩ := map_eq_some_iff.1 hj
  have hdead := h q (List.mem_of_getElem? hq)
  split
  · exact Bool.eq_false_iff.2 fun halive => by simp [hf q halive] at hdead
  · exact hdead

lemma leaderAlive_modify (hf : i ≠ 0 ∨ ∀ p, (f p).alive = p.alive) :
    { s with group := s.group.modify i f }.leaderAlive = s.leaderAlive := by
  cases hgroup : s.group with
  | nil => simp [leaderAlive, hgroup]
  | cons leader rest =>
    cases i with
    | zero =>
      have hsame := hf.resolve_left (fun h => h rfl) leader
      simp [leaderAlive, hgroup, hsame]
    | succ i => simp [leaderAlive, hgroup]

/-- A step keeps the group led when the leader exits last. -/
theorem Led.step (h : s.Led) {e : Event} (hlast : s.leaderLast e = true)
    (hstep : s.step e = some s') : s'.Led := by
  cases e with
  | exits i =>
    obtain rfl := some.inj hstep
    have hnone := noneAlive_modify (s := s) (i := i) (f := fun p => { p with alive := false })
      (fun p h => by cases h)
    refine h.of_group rfl hnone fun hldr => ?_
    cases i with
    | zero =>
      -- the others are gone already
      right
      cases hgroup : s.group with
      | nil => simp [noneAlive]
      | cons leader rest =>
        simp only [leaderLast] at hlast
        simpa [noneAlive, hgroup] using hlast
    | succ i => exact .inl ((leaderAlive_modify (.inl (Nat.succ_ne_zero i))).trans hldr)
  | closesStdout i | closesStderr i =>
    obtain rfl := some.inj hstep
    refine h.of_group rfl (noneAlive_modify fun p h => h) fun hldr => .inl ?_
    refine (leaderAlive_modify (.inr ?_)).trans hldr
    exact fun p => rfl
  | forks i =>
    simp only [ExecuteState.step, bind_eq_some_iff, ite_none_right_eq_some, some.injEq] at hstep
    obtain ⟨p, hp, halive, rfl⟩ := hstep
    refine h.of_group rfl (fun hnone => ?_) fun hldr => .inl ?_
    · have hdead := List.all_eq_true.1 hnone p (List.mem_of_getElem? hp)
      simp [halive] at hdead
    · cases hgroup : s.group with
      | nil => simp [hgroup] at hp
      | cons leader rest => simpa [leaderAlive, hgroup] using hldr
  | cancel | elapse =>
    obtain rfl := some.inj hstep
    exact h
  | select terminal =>
    obtain ⟨-, hstep⟩ := ite_none_right_eq_some.1 hstep
    cases terminal with
    | exited =>
      obtain ⟨hldr, rfl⟩ : ¬ s.leaderAlive = true ∧ _ = s' := by
        simpa [ExecuteState.select] using hstep
      exact .inl (h.noneAlive_of_leader (Bool.eq_false_iff.2 hldr))
    | cancelled | timedOut =>
      obtain ⟨-, rfl⟩ : _ = true ∧ _ = s' := by simpa [ExecuteState.select] using hstep
      exact .inl (by simp [noneAlive, killProcessTree])
  | waitFails =>
    obtain ⟨⟨-, hldr⟩, rfl⟩ : _ ∧ _ = s' := by simpa [ExecuteState.step] using hstep
    exact .inl (h.noneAlive_of_leader hldr)
  | reaps | drains =>
    have hphase : s.phase ≠ .selecting := by
      intro hsel
      simp [ExecuteState.step, hsel] at hstep
    have hgroup : s'.group = s.group := by
      simp only [ExecuteState.step] at hstep
      split at hstep <;> simp only [reduceCtorEq, ite_none_left_eq_some,
        ite_none_right_eq_some, some.injEq] at hstep
      all_goals rw [← hstep.2]
    rw [Led, noneAlive, hgroup]
    exact .inl (h.noneAlive_of_phase hphase)

/-! ## Runs -/

/-- A led group is contained. -/
lemma Led.contained (h : s.Led) : s.Contained where
  killed hfired _ hblocked := by
    rcases h with h | ⟨-, hphase⟩
    · exact .inr h
    · -- the first wait is over when the timeout or the cancellation is there
      obtain ⟨hselect, -, -⟩ := hblocked
      rcases hfired with hfired | hfired
      · simpa [ExecuteState.step, hphase, ExecuteState.select, hfired] using hselect .cancelled
      · simpa [ExecuteState.step, hphase, ExecuteState.select, hfired] using hselect .timedOut
  gone := by
    rintro ⟨error, hphase⟩
    exact h.noneAlive_of_phase (by simp [hphase])

/-- When the leader is the last process of its group to exit, the group is sent KILL on timeout and
cancellation, and does not outlive the call. -/
theorem group_contained (h : Machine.Reaches step leaderLast spawned s) : s.Contained :=
  (h.invariant (P := Led) (.inr ⟨rfl, rfl⟩) fun _ _ _ h hlast hstep => h.step hlast hstep).contained

/-- The run of a command that has started another process when it ends by its timeout. -/
theorem group_contained_timeout : ∃ s, Machine.Reaches step leaderLast spawned s ∧
    s.group.length = 2 ∧ s.phase = .returned ProcessTerminal.timedOut.error ∧ s.Contained := by
  have h : Machine.Reaches step leaderLast spawned _ := ⟨[.forks 0, .closesStdout 1, .elapse,
    .select .timedOut, .reaps, .drains, .drains], rfl⟩
  exact ⟨_, h, rfl, rfl, group_contained h⟩

/-- A process that the leader leaves behind keeps the call waiting after the timeout if it holds the
pipes, and outlives the call if it does not. -/
theorem descendant_not_contained :
    (∃ s, Machine.Reaches step (fun _ _ => true) spawned s ∧ s.timedOut = true ∧ ¬ s.returned ∧
      s.blocked ∧ s.killed = false ∧ s.noneAlive = false) ∧
    ∃ s, Machine.Reaches step (fun _ _ => true) spawned s ∧ s.phase = .returned none ∧
      s.noneAlive = false := by
  refine ⟨⟨_, ⟨[.forks 0, .exits 0, .select .exited, .elapse], rfl⟩, rfl, ?_, ⟨?_, rfl, rfl⟩, rfl,
    rfl⟩, _, ⟨[.forks 0, .closesStdout 1, .closesStderr 1, .exits 0, .select .exited, .drains,
    .drains], rfl⟩, rfl, rfl⟩
  · rintro ⟨error, hphase⟩
    cases hphase
  · intro terminal
    rfl

end ExecuteState

end GrokDesktop.HostTools
