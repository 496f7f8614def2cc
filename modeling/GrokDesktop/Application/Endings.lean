import GrokDesktop.Memory.Outcomes
import GrokDesktop.Application.Dispatch

/-!
# How a dispatched turn ends

A turn whose provider has started can always be ended in review: the commit that
`build_interrupt_commit` makes from its snapshot passes every check of the store, whatever the
clock says. So `interrupt_or_reconcile` ends a turn that is still in progress and returns the
committed outcome of one that has ended.
-/

namespace GrokDesktop

open Resumption Service ConversationTurn Option Program

section Dispatched

variable [UrlLibrary] {s : State} {snapshot : ConversationTurnSnapshot} {effect : SideEffect}

/-- The records of a turn whose provider has started. -/
structure Dispatched (snapshot : ConversationTurnSnapshot) (effect : SideEffect) : Prop where
  canonical : isCanonicalConversationSnapshot snapshot = true
  state : snapshot.turn.state = .providerStarted
  linked : snapshot.effect = some effect
  started : startedProviderEffect effect.id snapshot.turn.runId snapshot.turn.modelId
    effect.createdAt = .ok effect
  effectId : snapshot.turn.effectId = some effect.id
  run : dispatchedRun (Run.queued snapshot.turn.runId snapshot.turn.projectId
    snapshot.turn.threadId snapshot.turn.createdAt) effect.createdAt = .ok snapshot.run

/-- A canonical turn whose provider has started has its run and its effect. -/
theorem exists_dispatched (hcan : isCanonicalConversationSnapshot snapshot = true)
    (hsta : snapshot.turn.state = .providerStarted) : ∃ effect, Dispatched snapshot effect := by
  obtain ⟨-, -, -, -, -, -, hrun, heff, -⟩ :=
    isCanonicalConversationSnapshot_eq_true.1 hcan
  simp only [canonicalRunForSnapshot, hsta, terminalRunState, bind_eq_bind,
    bind_eq_some_iff, Except.toOption_eq_some, bind_none, bind_some,
    ite_none_left_eq_some, some.injEq] at hrun
  obtain ⟨effect, hsome, _, hdisp, -, rfl⟩ := hrun
  unfold isCanonicalProviderEffect at heff
  simp only [hsome, hsta] at heff
  split at heff
  · cases heff
  · rename_i started hstd
    simp only [Bool.and_eq_true, decide_eq_true_eq] at heff
    obtain ⟨rfl, hid⟩ := heff
    exact ⟨_, hcan, hsta, hsome, hstd, hid, hdisp⟩

/-- The commit that ends a dispatched turn in review at the given time. -/
def interruptCommit (snapshot : ConversationTurnSnapshot) (effect : SideEffect)
    (now : UnixMillis) : TerminalTurnCommit :=
  terminalCommit snapshot
    { snapshot.turn with
      revision := snapshot.turn.revision + 1
      state := .interruptedNeedsReview
      updatedAt := now }
    { snapshot.run with
      state := .interruptedNeedsReview
      revision := saturatingAdd snapshot.run.revision 1
      updatedAt := now }
    (some { effect with
      state := .needsReview
      revision := saturatingAdd effect.revision 1
      updatedAt := max now effect.updatedAt }) none
    [{ occurredAt := now, kind := .effectNeedsReview effect.id },
      runStateChanged snapshot.run .interruptedNeedsReview now] .providerStarted

namespace Dispatched

section

variable (h : Dispatched snapshot effect)

include h

lemma executing : effect.state = .executing := by
  have hstd := h.started
  unfold startedProviderEffect SideEffect.start at hstd
  obtain ⟨-, heff⟩ := SideEffect.moveTo_eq_ok.1 hstd
  exact congrArg SideEffect.state heff

/-- A dispatched turn is at its first revision. -/
theorem revision : snapshot.turn.revision = 1 := by
  obtain ⟨hrest, -⟩ := isCanonicalConversationSnapshot_eq_true.1 h.canonical
  have hreach := isReachable_of_restore hrest
  simp only [isReachable, h.state, Bool.and_eq_true, decide_eq_true_eq]
    at hreach
  exact hreach.2.1.1

/-- The turn accepts its interruption. -/
lemma interrupt_turn {now : UnixMillis} (hnow : snapshot.turn.updatedAt ≤ now) :
    snapshot.turn.interrupt now = .ok (interruptCommit snapshot effect now).turn := by
  refine moveTo_eq_ok.2 ⟨by rw [h.state]; rfl, hnow, ?_, rfl⟩
  rw [h.revision]
  decide

/-- The run accepts the interruption of its turn. -/
lemma interrupt_run {now : UnixMillis} (hnow : snapshot.run.updatedAt ≤ now) :
    snapshot.run.transition .interruptedNeedsReview now
      = .ok (interruptCommit snapshot effect now).run := by
  obtain ⟨-, hrun⟩ := dispatchedRun_eq_ok h.run
  exact Run.transition_eq_ok.2 ⟨by rw [hrun]; rfl, hnow, rfl⟩

/-- The effect accepts the interruption of its turn. -/
lemma interrupt_effect (now : UnixMillis) :
    ∃ effect', effect.interrupt now = .ok effect' ∧
      (interruptCommit snapshot effect now).effect = some effect' :=
  ⟨_, SideEffect.moveTo_eq_ok.2 ⟨by rw [h.executing]; rfl, rfl⟩, rfl⟩

/-- A terminal timestamp is not before the records it changes. -/
theorem le_terminalTimestamp (clock : UnixMillis) :
    snapshot.turn.updatedAt ≤ terminalTimestamp snapshot clock ∧
      snapshot.run.updatedAt ≤ terminalTimestamp snapshot clock := by
  simp [terminalTimestamp, h.linked]

/-- The interruption is built from the snapshot alone, at a time not before its records. -/
lemma buildInterruptCommit_eq :
    buildInterruptCommit snapshot = .call .now fun clock =>
      .done (interruptCommit snapshot effect (terminalTimestamp snapshot clock)) := by
  have hfilt : requiredExecutingEffect snapshot.effect = .ok effect := by
    rw [requiredExecutingEffect, h.linked, filter_some_pos (by simp [h.executing])]
    rfl
  unfold buildInterruptCommit request
  simp only [bind_eq, call_bind, done_bind]
  refine congrArg (call (I := conversationInterface) ConversationCall.now) (funext ?_)
  intro clock
  obtain ⟨hturn, hrunT⟩ := h.le_terminalTimestamp clock
  obtain ⟨effect', heff, hsome⟩ := h.interrupt_effect (terminalTimestamp snapshot clock)
  cases hsome
  rw [hfilt, h.interrupt_turn hturn, h.interrupt_run hrunT]
  dsimp only [check, Except.mapError_ok, liftExcept_ok, done_bind]
  rw [heff]
  rfl

end

/-- The snapshot of a dispatched turn that is interrupted. -/
def interrupted (snapshot : ConversationTurnSnapshot) (effect : SideEffect) (now : UnixMillis) :
    ConversationTurnSnapshot :=
  { snapshot with
    turn := (interruptCommit snapshot effect now).turn
    assistantMessage := none
    run := (interruptCommit snapshot effect now).run
    effect := (interruptCommit snapshot effect now).effect }

variable {now : UnixMillis}

section

variable (h : Dispatched snapshot effect)

include h

/-- The record of an interrupted turn passes its check. -/
lemma restore_interrupted (hnow : snapshot.turn.updatedAt ≤ now) :
    (interrupted snapshot effect now).turn.restore.isOk = true := by
  obtain ⟨hrest, -⟩ := isCanonicalConversationSnapshot_eq_true.1 h.canonical
  obtain ⟨hkey, hmodel, hresp, hcit, huse, hfail, hreach⟩ :=
    restore_isOk.1 hrest
  refine restore_isOk.2
    ⟨hkey, hmodel, hresp, hcit, huse, hfail, ?_⟩
  simp only [isReachable, h.state, Bool.and_eq_true, decide_eq_true_eq]
    at hreach
  obtain ⟨htime, ⟨hrev, hdisp⟩, hout⟩ := hreach
  have hend : (interrupted snapshot effect now).turn.state = .interruptedNeedsReview := rfl
  have hrev' : (interrupted snapshot effect now).turn.revision = 2 :=
    congrArg (· + 1) hrev
  simp only [isReachable, hend, Bool.and_eq_true, decide_eq_true_eq]
  exact ⟨htime.trans hnow, ⟨hrev', hdisp⟩, hout⟩

/-- The run of an interrupted turn belongs to it. -/
lemma canonicalRun_interrupted (hnow : snapshot.run.updatedAt ≤ now) :
    canonicalRunForSnapshot (interrupted snapshot effect now)
      = some (interrupted snapshot effect now).run := by
  have hdisp : (dispatchedRun (Run.queued snapshot.turn.runId snapshot.turn.projectId
      snapshot.turn.threadId snapshot.turn.createdAt) effect.createdAt).toOption
      = some snapshot.run := Except.toOption_eq_some.2 h.run
  have hend : (snapshot.run.transition .interruptedNeedsReview now).toOption
      = some (interruptCommit snapshot effect now).run :=
    Except.toOption_eq_some.2 (h.interrupt_run hnow)
  simp only [canonicalRunForSnapshot, interrupted, interruptCommit, terminalCommit, bind_eq_bind,
    bind_some, hdisp]
  exact hend

/-- The effect of an interrupted turn belongs to it. -/
lemma canonicalEffect_interrupted :
    isCanonicalProviderEffect (interrupted snapshot effect now) = true := by
  obtain ⟨effect', heff, hsome⟩ := h.interrupt_effect now
  cases hsome
  simp only [isCanonicalProviderEffect, interrupted, interruptCommit, terminalCommit, h.started,
    heff, h.effectId, decide_true, Bool.and_self]

/-- The records of an interrupted turn belong together. -/
lemma canonical_interrupted (hturn : snapshot.turn.updatedAt ≤ now)
    (hrun : snapshot.run.updatedAt ≤ now) :
    isCanonicalConversationSnapshot (interrupted snapshot effect now) = true := by
  obtain ⟨-, hlin, huser, hthr, hseq, hmsg, -⟩ :=
    isCanonicalConversationSnapshot_eq_true.1 h.canonical
  exact isCanonicalConversationSnapshot_eq_true.2 ⟨h.restore_interrupted hturn, hlin, huser,
    hthr, hseq, hmsg, h.canonicalRun_interrupted hrun, h.canonicalEffect_interrupted,
    rfl⟩

/-- The commit of the interruption is exactly the one the store expects. -/
lemma exact_interrupted (hturn : snapshot.turn.updatedAt ≤ now)
    (hrun : snapshot.run.updatedAt ≤ now) :
    isExactTerminalTransition snapshot (interruptCommit snapshot effect now) = true := by
  have hturn' := Except.toOption_eq_some.2 (h.interrupt_turn hturn)
  have hrun' := Except.toOption_eq_some.2 (h.interrupt_run hrun)
  obtain ⟨effect', heff, hsome⟩ := h.interrupt_effect now
  have heff' := Except.toOption_eq_some.2 heff
  cases hsome
  simp only [isExactTerminalTransition, expectedTerminalTurn, expectedTerminalEvents,
    isExactTerminalEffectTransition, interruptCommit, terminalCommit, terminalRunState,
    runStateChanged, h.state, h.linked] at hturn' hrun' heff' ⊢
  simp [hturn', hrun', heff']

end

end Dispatched

/-- The store accepts the interruption of a dispatched turn. -/
theorem Holds.checkedTerminal_interrupt (h : Holds s snapshot)
    (hdisp : Dispatched snapshot effect) {now : UnixMillis}
    (hturn : snapshot.turn.updatedAt ≤ now) (hrun : snapshot.run.updatedAt ≤ now) :
    ∃ s', checkedTerminal s (interruptCommit snapshot effect now) = .ok s' := by
  have hperm : snapshot.turn.state.permits (interruptCommit snapshot effect now).turn.state
      = true := by
    rw [hdisp.state]
    rfl
  obtain ⟨evs, hevs⟩ :=
    h.extendedEventLog_moved (interruptCommit snapshot effect now).turn rfl hperm
      (by simp [interruptCommit, terminalCommit])
  rw [hdisp.state] at hevs
  refine ⟨s.writeTerminal (interruptCommit snapshot effect now) none evs, ?_⟩
  simp only [checkedTerminal, Except.bind_eq_ok, Except.rejectIf_eq_ok, Bool.not_eq_true,
    Bool.not_eq_false']
  exact ⟨snapshot, h.loadSnapshot, (), hdisp.exact_interrupted hturn hrun, none, rfl, (),
    hdisp.canonical_interrupted hturn hrun, evs, hevs, rfl⟩

/-- A held turn is found by the command that created it. -/
theorem Holds.loadTurnByCommand (h : Holds s snapshot) :
    loadTurnByCommand s (creatingCommand snapshot) = .ok (some snapshot) := by
  have hsc : [conversationCommandScope, conversationRetryCommandScope,
      conversationEditBranchCommandScope, conversationRegenerateCommandScope].contains
        (creatingCommand snapshot).scope = true := by
    unfold creatingCommand turnCommandScope
    cases snapshot.lineage.origin <;> simp
  have hkey : s.conversationTurnKeys.lookup (creatingCommand snapshot).key
      = some snapshot.turn.id := h.consistent.key _ _ h.stored
  simp only [GrokDesktop.loadTurnByCommand, hsc, hkey, h.stored, h.read.lineage]
  simpa [creatingCommand, Except.bind_eq_ok]
    using h.consistent.conversationSnapshot h.read

/-- Ending a dispatched turn in review: the commit, and a look at the turn if the commit is
rejected. -/
theorem Dispatched.interruptOrReconcile_eq (h : Dispatched snapshot effect) :
    interruptOrReconcile snapshot = .call .now fun clock =>
      .call (.commitTerminal (interruptCommit snapshot effect (terminalTimestamp snapshot clock)))
        fun (res : Except StoreError ConversationTurnSnapshot) =>
          match res with
          | .ok ended => .done ended
          | .error error => reconcile snapshot (.ofStore error) := by
  unfold interruptOrReconcile interrupt
  rw [h.buildInterruptCommit_eq]
  refine congrArg (call (I := conversationInterface) ConversationCall.now) (funext ?_)
  intro clock
  refine congrArg (call (I := conversationInterface) _) (funext ?_)
  intro res
  cases res <;> rfl

end Dispatched

end GrokDesktop
