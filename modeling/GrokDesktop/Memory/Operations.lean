import GrokDesktop.Memory.Invariant

/-!
# Runs of the conversation store

The store is used by any number of callers with arbitrary records. A run is a list of operations
from the empty store; an operation that is rejected leaves the state as it was. Every state of every
run is `Consistent`, and what `Consistent` says about turns, messages, runs and effects is spelled
out here.
-/

namespace GrokDesktop

open State

/-- The operations of the store that write conversation records. -/
inductive StoreOperation where
  | createProject (project : Project) (command : MutationCommand)
  | createThread (thread : Thread) (command : MutationCommand)
  | createMessage (message : Message) (command : MutationCommand)
  | reserveTurn (input : TurnReservationInput)
  | reserveConversationFork (plan : ConversationForkPlan)
  | resolveConversationForkCommand (command : MutationCommand)
  | acknowledgeConversationForkDelivery (command : MutationCommand) (childThreadId : ThreadId)
      (expectedRevision : ℕ)
  | commitProviderStart (commit : ProviderStartCommit)
  | appendTurnText (append : TurnTextAppend)
  | commitTerminal (commit : TerminalTurnCommit)
  | commitCancellation (commit : CancelConversationTurnCommit)
  | commitDispatchExitReconciliation (commit : CancelConversationTurnCommit)

section Operations

variable [UrlLibrary] {s s' : State}

/-- The state that an operation leaves. -/
def StoreOperation.apply (s : State) : StoreOperation → State
  | createProject project command => (GrokDesktop.createProject s project command).2
  | createThread thread command => (GrokDesktop.createThread s thread command).2
  | createMessage message command => (GrokDesktop.createMessage s message command).2
  | reserveTurn input => (GrokDesktop.reserveTurn s input).2
  | reserveConversationFork plan => (GrokDesktop.reserveConversationFork s plan).2
  | resolveConversationForkCommand command =>
      (GrokDesktop.resolveConversationForkCommand s command).2
  | acknowledgeConversationForkDelivery command childThreadId expectedRevision =>
      (GrokDesktop.acknowledgeConversationForkDelivery s command childThreadId expectedRevision).2
  | commitProviderStart commit => (GrokDesktop.commitProviderStart s commit).2
  | appendTurnText append => (GrokDesktop.appendTurnText s append).2
  | commitTerminal commit => (GrokDesktop.commitTerminal s commit).2
  | commitCancellation commit => (GrokDesktop.commitCancellation s commit).2
  | commitDispatchExitReconciliation commit =>
      (GrokDesktop.commitDispatchExitReconciliation s commit).2

def State.run (s : State) (operations : List StoreOperation) : State :=
  operations.foldl StoreOperation.apply s

/-- What an operation writes. -/
lemma StoreOperation.writes (op : StoreOperation) :
    Writes Set.univ s (op.apply s) := by
  cases op with
  | createProject project cmd =>
    exact (createProject_quiet project cmd).writes.mono (Set.subset_univ _)
  | createThread thread cmd =>
    exact (createThread_quiet thread cmd).writes.mono (Set.subset_univ _)
  | createMessage msg cmd =>
    exact (createMessage_quiet msg cmd).writes.mono (Set.subset_univ _)
  | reserveTurn input => exact reserveTurn_writes input
  | reserveConversationFork plan => exact reserveConversationFork_writes plan
  | resolveConversationForkCommand cmd =>
    exact writes_of_journals (resolveConversationForkCommand_journals cmd rfl)
  | acknowledgeConversationForkDelivery cmd childThreadId expected =>
    exact writes_of_journals
      (acknowledgeConversationForkDelivery_journals cmd childThreadId expected rfl)
  | commitProviderStart commit =>
    exact (commitProviderStart_quiet commit).writes.mono (Set.subset_univ _)
  | appendTurnText append => exact (appendTurnText_quiet append).writes.mono (Set.subset_univ _)
  | commitTerminal commit => exact (commitTerminal_quiet commit).writes.mono (Set.subset_univ _)
  | commitCancellation commit | commitDispatchExitReconciliation commit =>
    exact (commitConversationCancellation_quiet commit _).writes.mono (Set.subset_univ _)

abbrev AnyUpdates : State → State → Prop := Updates fun _ => True

lemma Writes.updates {ends : Set ConversationTurn} (h : Writes ends s s') (hs : Consistent s) :
    AnyUpdates s s' := by
  induction h with
  | refl => exact .refl
  | tail _ hwr ih =>
    exact ih.trans (hwr.updates (ih.consistent hs) trivial fun _ _ => trivial)

/-- What a run writes. -/
lemma run_writes (ops : List StoreOperation) :
    Writes Set.univ s (s.run ops) := by
  induction ops generalizing s with
  | nil => exact .refl
  | cons op rest ih => exact op.writes.trans ih

/-- Every reachable store is consistent. -/
lemma run_consistent (ops : List StoreOperation) :
    Consistent (empty.run ops) :=
  ((run_writes ops).updates .empty).consistent .empty

variable {snapshot : ConversationTurnSnapshot}

/-- Updates leave a turn that has ended, and its records, as they are. -/
theorem Updates.ended (h : AnyUpdates s s') {id : ConversationTurnId}
    (hturn : s.conversationTurns.lookup id = some snapshot.turn) (hread : TurnRead s snapshot)
    (hend : snapshot.turn.state.isTerminal = true) :
    s'.conversationTurns.lookup id = some snapshot.turn ∧ TurnRead s' snapshot := by
  induction h with
  | refl => exact ⟨hturn, hread⟩
  | tail _ hupd ih =>
    obtain ⟨changed, -, hupd⟩ := hupd
    obtain ⟨hturn, hread⟩ := ih
    have hoth := hupd.unchanged hturn hend
    exact ⟨(hupd.kept id hoth).trans hturn, hread.keep hupd.grows (hupd.keeps id _ hoth hturn)⟩

/-! ## What the records of a turn say -/

/-- The records of a turn are in the states that belong to the state of the turn. -/
structure RecordsMatch (s : State) (turn : ConversationTurn) : Prop where
  run : (s.runs.lookup turn.runId).map Run.state = some (linkedRunState turn.state)
  effect : (turn.effectId.bind fun id => (s.effects.lookup id).map SideEffect.state)
    = linkedEffectState turn.state
  effectStored : ∀ id, turn.effectId = some id → (s.effects.lookup id).isSome = true

/-- The assistant message of a turn is there exactly for a completed turn, and its content is the
text of the turn's events. -/
structure AssistantMatches (s : State) (turn : ConversationTurn) : Prop where
  completed : turn.assistantMessageId.isSome = true ↔ turn.state = .completed
  content : ∀ id, turn.assistantMessageId = some id → ∃ message events,
    s.messages.lookup id = some message ∧ s.conversationEvents.lookup turn.id = some events ∧
      message.content = appendedText events

lemma TurnRead.recordsMatch (h : TurnRead s snapshot) :
    RecordsMatch s snapshot.turn := by
  obtain ⟨-, -, -, -, -, -, hrun, heff, -⟩ :=
    isCanonicalConversationSnapshot_eq_true.1 h.canonical
  obtain ⟨-, hsta⟩ := canonicalRunForSnapshot_eq_some hrun
  obtain ⟨heffectState, -⟩ := isCanonicalProviderEffect_eq_true heff
  have hlink := h.effect
  refine ⟨by rw [h.run, Option.map_some, hsta], ?_, ?_⟩
  · rw [← heffectState]
    generalize snapshot.turn.effectId = link at hlink
    generalize snapshot.effect = effect at hlink
    cases hlink with
    | absent => rfl
    | present heff => simp [heff]
  · intro id hid
    rw [hid] at hlink
    obtain ⟨effect, heff⟩ := hlink.exists_lookup
    simp [heff]

lemma TurnRead.assistantMatches (h : TurnRead s snapshot) :
    AssistantMatches s snapshot.turn := by
  obtain ⟨-, -, -, -, -, -, -, -, hasst⟩ :=
    isCanonicalConversationSnapshot_eq_true.1 h.canonical
  obtain ⟨hdone, -⟩ := isCanonicalAssistantMessage_eq_true hasst
  obtain ⟨-, -, hlink⟩ := links_of_canonical h.canonical
  obtain ⟨evs, log, hevs, hrest, hval⟩ := h.log
  obtain ⟨-, -, htext, -⟩ := ConversationTurnEventLog.validateSnapshot_eq_ok.1 hval
  refine ⟨?_, fun id hid => ?_⟩
  · rw [hlink, Option.isSome_map]
    exact hdone
  · have hlinked := h.assistantMessage
    cases hmsg : snapshot.assistantMessage with
    | none =>
      rw [hlink, hmsg] at hid
      cases hid
    | some msg =>
      rw [hid, hmsg] at hlinked
      cases hlinked with
      | present hsto =>
        refine ⟨msg, evs, hsto, hevs, ?_⟩
        have hsta : snapshot.turn.state = .completed := hdone.1 (by simp [hmsg])
        rw [hmsg] at htext
        rw [← ConversationTurnEventLog.restore_text hrest]
        exact Option.some.inj (htext hsta).2

/-- In every state that any list of operations reaches from the empty store, each thread has at most
one turn in progress; a turn that has ended, and everything read with it, stays the same whatever
follows; and every stored turn reads back, with its assistant message, run and effect in the states
that belong to its own. -/
theorem conversation_store_invariant (operations : List StoreOperation) :
    (∀ id id' turn turn',
      (empty.run operations).conversationTurns.lookup id = some turn →
      (empty.run operations).conversationTurns.lookup id' = some turn' →
      turn.threadId = turn'.threadId → turn.state.isTerminal = false →
      turn'.state.isTerminal = false → id = id') ∧
    (∀ id turn, (empty.run operations).conversationTurns.lookup id = some turn →
      turn.state.isTerminal = true → ∀ more,
        (empty.run (operations ++ more)).conversationTurns.lookup id = some turn ∧
        conversationSnapshot (empty.run (operations ++ more)) turn
          = conversationSnapshot (empty.run operations) turn) ∧
    ∀ id turn, (empty.run operations).conversationTurns.lookup id = some turn →
      (∃ snapshot, conversationSnapshot (empty.run operations) turn = .ok snapshot) ∧
      AssistantMatches (empty.run operations) turn ∧
      RecordsMatch (empty.run operations) turn := by
  have hs := run_consistent operations
  refine ⟨?_, ?_, ?_⟩
  · intro id id' turn turn' hturn hturn' hthr hlive hlive'
    by_contra hne
    rcases (hs.apart id id' turn turn' hne hturn hturn').thread hthr with hend | hend
    · rw [hlive] at hend
      cases hend
    · rw [hlive'] at hend
      cases hend
  · intro id turn hturn hend more
    obtain ⟨-, snapshot, rfl, hread⟩ := hs.turn id turn hturn
    have hmore : empty.run (operations ++ more)
        = (empty.run operations).run more := List.foldl_append
    have hupd := Writes.updates (run_writes more) hs
    obtain ⟨hturn', hread'⟩ := Updates.ended hupd hturn hread hend
    rw [hmore, hs.conversationSnapshot hread, (hupd.consistent hs).conversationSnapshot hread']
    exact ⟨hturn', rfl⟩
  · intro id turn hturn
    obtain ⟨-, snapshot, rfl, hread⟩ := hs.turn id turn hturn
    exact ⟨⟨snapshot, hs.conversationSnapshot hread⟩, hread.assistantMatches, hread.recordsMatch⟩

end Operations

end GrokDesktop
