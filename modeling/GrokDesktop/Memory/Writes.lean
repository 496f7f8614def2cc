import Mathlib.Data.Set.Basic
import Mathlib.Logic.Relation
import GrokDesktop.Memory.Checks
import GrokDesktop.Memory.Workspace

/-!
# What the store operations write

Every operation makes a sequence of writes, each of one of the kinds of `Write`. An invariant of the
store is shown once per kind of write and then holds after every operation. `Write.turn_cases` says
what a write can do to a stored turn.
-/

namespace GrokDesktop

open Except Table
open Relation (ReflTransGen)

/-- The state with the command and delivery journals of another one. -/
def State.withJournals (s journals : State) : State :=
  { s with
    conversationForkCommands := journals.conversationForkCommands
    conversationForkDeliveries := journals.conversationForkDeliveries
    conversationForkDeliveryAckCommands := journals.conversationForkDeliveryAckCommands
    conversationCancelCommands := journals.conversationCancelCommands
    workspaceCommands := journals.workspaceCommands }

section Writes

variable {ends ends' : Set ConversationTurn} {s s' : State}

@[simp] lemma State.withJournals_conversationTurns (s journals : State) :
    (s.withJournals journals).conversationTurns = s.conversationTurns := rfl

@[simp] lemma State.writeReservation_conversationTurns (s : State) (input : TurnReservationInput)
    (prep : PreparedReservation) :
    (s.writeReservation input prep).conversationTurns
      = s.conversationTurns.insert input.turn.id input.turn := rfl

@[simp] lemma State.writeProviderStart_conversationTurns (s : State)
    (commit : ProviderStartCommit) (turnEvents : List ConversationTurnEvent) :
    (s.writeProviderStart commit turnEvents).conversationTurns
      = s.conversationTurns.insert commit.turn.id commit.turn := rfl

@[simp] lemma State.writeTerminal_conversationTurns (s : State) (commit : TerminalTurnCommit)
    (assistant : Option Message) (turnEvents : List ConversationTurnEvent) :
    (s.writeTerminal commit assistant turnEvents).conversationTurns
      = s.conversationTurns.insert commit.turn.id commit.turn := rfl

@[simp] lemma State.writeTurnText_conversationTurns (s : State) (append : TurnTextAppend)
    (evs : List ConversationTurnEvent) :
    (s.writeTurnText append evs).conversationTurns = s.conversationTurns := rfl

variable {P : State → Prop} {α : Type}

/-- What holds before a command and after its write holds after the command. -/
lemma writeThenRead_induction {checked : Except StoreError State}
    {read : State → Except StoreError α} (hs : P s) (h : ∀ s', checked = .ok s' → P s') :
    P (writeThenRead s checked read).2 := by
  unfold writeThenRead
  split
  · exact hs
  · exact h _ rfl

/-- What holds before a creation under a command key and after its write holds after it. -/
lemma createOnce_induction {kind : IdKind} {scope : String}
    {cmd : MutationCommand} {t : Table (EntityId kind) α}
    {create : Except StoreError (α × State)} (hs : P s) (h : ∀ a s', create = .ok (a, s') → P s') :
    P (createOnce s scope cmd t create).2 := by
  unfold createOnce
  split
  · exact hs
  · exact hs
  · split
    · exact hs
    · exact h _ _ rfl

/-- No turn is made and no message is derived from another. -/
structure NothingDerived (s s' : State) : Prop where
  lineages : s'.conversationLineages = s.conversationLineages
  contexts : s'.conversationContexts = s.conversationContexts
  messages : ∀ id message, s'.messages.lookup id = some message →
    s.messages.lookup id = some message ∨ message.derivation = .original

/-- The tables of turns and messages are as they were. -/
theorem NothingDerived.of_eq (hlin : s'.conversationLineages = s.conversationLineages)
    (hctxs : s'.conversationContexts = s.conversationContexts)
    (hmsgs : s'.messages = s.messages) : NothingDerived s s' :=
  ⟨hlin, hctxs, fun _ _ hid => .inl (hmsgs ▸ hid)⟩

/-- A write to the journals derives nothing. -/
lemma NothingDerived.of_journals (h : s.withJournals s' = s') : NothingDerived s s' := by
  rw [← h]
  exact .of_eq rfl rfl rfl

lemma NothingDerived.refl (s : State) : NothingDerived s s :=
  .of_eq rfl rfl rfl

/-- The tables of fork commands, deliveries and acknowledgements are as they were. -/
structure SameForkJournal (s s' : State) : Prop where
  commands : s'.conversationForkCommands = s.conversationForkCommands
  deliveries : s'.conversationForkDeliveries = s.conversationForkDeliveries
  acks : s'.conversationForkDeliveryAckCommands = s.conversationForkDeliveryAckCommands

lemma SameForkJournal.refl (s : State) : SameForkJournal s s := ⟨rfl, rfl, rfl⟩

variable [UrlLibrary]

/-- One write of a store operation that ends turns only with records in `ends`. -/
inductive Write (ends : Set ConversationTurn) : State → State → Prop
  /-- Only journals change. -/
  | journal (s s' : State) (h : s.withJournals s' = s') : Write ends s s'
  /-- A new project. -/
  | project (s : State) (project : Project) (hnew : s.projects.lookup project.id = none) :
      Write ends s { s with projects := s.projects.insert project.id project }
  /-- A new original thread of a stored project. -/
  | thread (s : State) (thread : Thread) (hproject : s.projects.contains thread.projectId = true)
      (hnew : s.threads.lookup thread.id = none) (hrestore : thread.restore.isOk = true)
      (horigin : thread.lineage.origin = .original) :
      Write ends s { s with threads := s.threads.insert thread.id thread }
  /-- A new message at the end of a stored thread. -/
  | message (s : State) (message : Message) (hnew : s.messages.lookup message.id = none)
      (hthread : s.threads.contains message.threadId = true)
      (horiginal : message.derivation = .original)
      (hsequence : s.nextSequence message.threadId = some message.sequence) :
      Write ends s { s with messages := s.messages.insert message.id message }
  /-- A new reserved turn. -/
  | reserve (s : State) (input : TurnReservationInput) (prepared : PreparedReservation)
      (haccepts : acceptsReservationInput input = true)
      (hkey : s.conversationTurnKeys.lookup input.turn.idempotencyKey = none)
      (hchecked : ReservationChecked s input prepared) :
      Write ends s (s.writeReservation input prepared)
  /-- A new child thread, with the turn it starts. -/
  | fork (s : State) (plan : ConversationForkPlan) (prepared : PreparedConversationFork)
      (source : ConversationTurnSnapshot) (parent : Thread) (kind : ConversationForkKind)
      (sourceMessage : Message)
      (hchecked : ForkChecked s plan prepared source parent kind sourceMessage) :
      Write ends s (s.writeFork plan prepared)
  /-- The provider boundary of a reserved turn. -/
  | start (s : State) (commit : ProviderStartCommit) (current : ConversationTurnSnapshot)
      (turnEvents : List ConversationTurnEvent)
      (hchecked : ProviderStartChecked s commit current turnEvents) :
      Write ends s (s.writeProviderStart commit turnEvents)
  /-- More text of a turn whose provider has started. -/
  | text (s : State) (append : TurnTextAppend) (events : List ConversationTurnEvent)
      (turn : ConversationTurn) (log log' : ConversationTurnEventLog)
      (hchecked : TextChecked s append events turn log log') :
      Write ends s (s.writeTurnText append events)
  /-- The end of a turn. -/
  | terminal (s : State) (commit : TerminalTurnCommit) (current : ConversationTurnSnapshot)
      (assistant : Option Message) (turnEvents : List ConversationTurnEvent)
      (hchecked : TerminalChecked s commit current assistant turnEvents)
      (hends : commit.turn ∈ ends) : Write ends s (s.writeTerminal commit assistant turnEvents)

/-- The writes of one operation. -/
abbrev Writes (ends : Set ConversationTurn) : State → State → Prop := ReflTransGen (Write ends)

/-- A write that ends turns in fewer ways. -/
theorem Write.mono (h : Write ends s s') (hends : ends ⊆ ends') : Write ends' s s' := by
  cases h with
  | journal _ hj => exact .journal _ _ hj
  | project project hnew => exact .project _ _ hnew
  | thread thread hproj hnew hrest hori => exact .thread _ _ hproj hnew hrest hori
  | message msg hnew hthr horig hseq =>
    exact .message _ _ hnew hthr horig hseq
  | reserve input prep hacc hkey hchk => exact .reserve _ _ _ hacc hkey hchk
  | fork plan prep src parent kind srcMsg hchk =>
    exact .fork _ _ _ _ _ _ _ hchk
  | start commit cur turnEvents hchk => exact .start _ _ _ _ hchk
  | text append evs turn log log' hchk => exact .text _ _ _ _ _ _ hchk
  | terminal commit cur assistant turnEvents hchk hmem =>
    exact .terminal _ _ _ _ _ hchk (hends hmem)

/-- Writes that end turns in fewer ways. -/
theorem Writes.mono (h : Writes ends s s') (hends : ends ⊆ ends') : Writes ends' s s' :=
  ReflTransGen.mono (fun _ _ hw => Write.mono hw hends) _ _ h

/-! ## The operations -/

/-- What holds before a cancellation, after the commit that ends the turn, and of a state with the
record of the command when it holds without, holds after the cancellation. -/
lemma commitConversationCancellation_induction {scope : String}
    {commit : CancelConversationTurnCommit} (hs : P s)
    (hterm : ∀ cur terminal, cancellationTerminal cur commit = .ok terminal →
      P (commitTerminal s terminal).2)
    (hrec : ∀ s' outcome, P s' → P (s'.recordCancellation commit outcome)) :
    P (commitConversationCancellation s commit scope).2 := by
  have hout : P (cancellationOutcome s commit).2 := by
    unfold cancellationOutcome
    split
    · exact hs
    · split
      · split <;> exact hs
      · split
        · exact hs
        · exact hterm _ _ ‹_›
  unfold commitConversationCancellation
  split
  · exact hs
  · split
    · exact hs
    · split
      · rename_i heq
        rwa [heq] at hout
      · rename_i heq
        rw [heq] at hout
        exact hrec _ _ hout

/-- What an operation that reserves no turn and touches no fork does. -/
structure Quiet (ends : Set ConversationTurn) (s s' : State) : Prop where
  writes : Writes ends s s'
  derived : NothingDerived s s'
  forks : SameForkJournal s s'

lemma Quiet.refl : Quiet ends s s := ⟨.refl, .refl s, .refl s⟩

/-- Creating a project is quiet. -/
lemma createProject_quiet (project : Project) (cmd : MutationCommand) :
    Quiet ∅ s (createProject s project cmd).2 := by
  refine createOnce_induction (P := Quiet ∅ s) .refl fun a s' h => ?_
  simp only [bind_eq_ok, rejectIf_eq_ok, Bool.not_eq_true, contains_eq_false] at h
  obtain ⟨_, hnew, -, rfl⟩ := h
  exact ⟨.tail (.single (.project s project hnew)) (.journal _ _ rfl), .of_eq rfl rfl rfl,
    ⟨rfl, rfl, rfl⟩⟩

/-- Creating a thread is quiet. -/
lemma createThread_quiet (thread : Thread) (cmd : MutationCommand) :
    Quiet ∅ s (createThread s thread cmd).2 := by
  refine createOnce_induction (P := Quiet ∅ s) .refl fun a s' h => ?_
  simp only [bind_eq_ok, okOr_eq_ok, rejectIf_eq_ok, not_or, not_not, Bool.not_eq_true,
    Bool.not_eq_false', contains_eq_false] at h
  obtain ⟨project, hproj, _, ⟨-, hnew, hrest, hori⟩, -, rfl⟩ := h
  exact ⟨.tail (.single (.thread s thread (contains_iff.2 ⟨_, hproj⟩) hnew hrest hori))
    (.journal _ _ rfl), .of_eq rfl rfl rfl, ⟨rfl, rfl, rfl⟩⟩

/-- Creating a message is quiet. -/
lemma createMessage_quiet (msg : Message) (cmd : MutationCommand) :
    Quiet ∅ s (createMessage s msg cmd).2 := by
  refine createOnce_induction (P := Quiet ∅ s) .refl fun a s' h => ?_
  simp only [bind_eq_ok, okOr_eq_ok, rejectIf_eq_ok, not_or, Bool.not_eq_true, Bool.not_eq_false',
    contains_eq_false] at h
  obtain ⟨thread, hthr, _, -, _, ⟨-, -, hnew, horig, -⟩, seq, hseq, -, rfl⟩ := h
  rw [ConversationMessageDerivation.isOriginal_iff] at horig
  refine ⟨.tail (.single (.message s { msg with sequence := seq } hnew
    (contains_iff.2 ⟨thread, hthr⟩) horig hseq)) (.journal _ _ rfl),
    ⟨rfl, rfl, fun id stored hid => ?_⟩, ⟨rfl, rfl, rfl⟩⟩
  rcases lookup_insert_cases hid with hold | ⟨-, rfl⟩
  · exact .inl hold
  · exact .inr horig

/-- A reservation changes nothing, or it is checked and written. -/
theorem reserveTurn_cases (input : TurnReservationInput) :
    (reserveTurn s input).2 = s ∨ ∃ prepared, acceptsReservationInput input = true ∧
      s.conversationTurnKeys.lookup input.turn.idempotencyKey = none ∧
      ReservationChecked s input prepared ∧
      (reserveTurn s input).2 = s.writeReservation input prepared := by
  unfold reserveTurn
  split
  · exact .inl rfl
  · rename_i hacc
    split
    · exact .inl rfl
    · rename_i hkey
      split
      · exact .inl rfl
      · exact .inr ⟨_, by simpa using hacc, hkey, prepareReservation_eq_ok ‹_›, rfl⟩

/-- What a reservation writes. -/
lemma reserveTurn_writes (input : TurnReservationInput) :
    Writes ends s (reserveTurn s input).2 := by
  rcases reserveTurn_cases input with heq | ⟨prepared, hacc, hkey, hchk, heq⟩
  · rw [heq]
  · rw [heq]
    exact .single (.reserve s input prepared hacc hkey hchk)

lemma commitProviderStart_quiet (commit : ProviderStartCommit) :
    Quiet ∅ s (commitProviderStart s commit).2 := by
  refine writeThenRead_induction (P := Quiet ∅ s) .refl fun s' h => ?_
  obtain ⟨cur, turnEvents, hchk, rfl⟩ := checkedProviderStart_eq_ok h
  exact ⟨.single (.start s commit cur turnEvents hchk), .of_eq rfl rfl rfl, ⟨rfl, rfl, rfl⟩⟩

/-- The end of a turn adds at most its answer, an original message of its thread. -/
theorem TerminalChecked.answer_eq {commit : TerminalTurnCommit}
    {cur : ConversationTurnSnapshot} {assistant : Option Message}
    {turnEvents : List ConversationTurnEvent}
    (h : TerminalChecked s commit cur assistant turnEvents) {answer : Message}
    (hans : assistant = some answer) :
    answer.threadId = commit.turn.threadId ∧ answer.derivation = .original := by
  obtain ⟨-, -, -, -, -, -, -, -, hcan⟩ :=
    isCanonicalConversationSnapshot_eq_true.1 h.canonical
  have hsta : commit.turn.state = .completed :=
    (isCanonicalAssistantMessage_eq_true hcan).1.1 (by simp [hans])
  simp only [isCanonicalAssistantMessage, hsta, hans, Bool.and_eq_true, decide_eq_true_eq] at hcan
  obtain ⟨⟨⟨-, hthr⟩, -⟩, hmsg⟩ := hcan
  exact ⟨hthr, (isCanonicalMessage_eq_true hmsg).2.2⟩

/-- A terminal commit ends its own turn. -/
lemma commitTerminal_quiet (commit : TerminalTurnCommit) :
    Quiet {commit.turn} s (commitTerminal s commit).2 := by
  refine writeThenRead_induction (P := Quiet {commit.turn} s) .refl fun s' h => ?_
  obtain ⟨cur, assistant, turnEvents, hchk, rfl⟩ := checkedTerminal_eq_ok h
  refine ⟨.single (.terminal s commit cur assistant turnEvents hchk rfl),
    ⟨rfl, rfl, fun id msg hid => ?_⟩, ⟨rfl, rfl, rfl⟩⟩
  cases assistant with
  | none => exact .inl hid
  | some answer =>
    rcases lookup_insert_cases hid with hold | ⟨-, rfl⟩
    · exact .inl hold
    · exact .inr (hchk.answer_eq rfl).2

/-- The records with which a cancellation ends a turn. -/
def cancellationEnds : Set ConversationTurn :=
  {turn | turn.state = .cancelled ∨ turn.state = .interruptedNeedsReview}

/-- The writes of a cancellation or of the reconciliation of a dispatch that exited. -/
theorem commitConversationCancellation_quiet (commit : CancelConversationTurnCommit)
    (scope : String) :
    Quiet cancellationEnds s (commitConversationCancellation s commit scope).2 := by
  refine commitConversationCancellation_induction (P := Quiet cancellationEnds s) .refl ?_
    fun _ _ h => ⟨.tail h.writes (.journal _ _ rfl),
      ⟨h.derived.lineages, h.derived.contexts, h.derived.messages⟩,
      ⟨h.forks.commands, h.forks.deliveries, h.forks.acks⟩⟩
  intro cur terminal hterm
  have hquiet := commitTerminal_quiet (s := s) terminal
  refine ⟨hquiet.writes.mono ?_, hquiet.derived, hquiet.forks⟩
  simp only [cancellationTerminal, bind_eq_ok, rejectIf_eq_ok, not_or, return_eq_ok] at hterm
  obtain ⟨_, -, _, -, _, ⟨-, -, hedge⟩, rfl⟩ := hterm
  unfold isExactCancellationEdge at hedge
  split at hedge <;> simp_all [cancellationEnds]

lemma appendTurnText_quiet (append : TurnTextAppend) :
    Quiet ∅ s (appendTurnText s append).2 := by
  unfold appendTurnText
  split
  · exact .refl
  · exact .refl
  · obtain ⟨turn, log, log', hchk⟩ := checkedTextAppend_eq_ok ‹_›
    exact ⟨.single (.text s append _ turn log log' hchk), .of_eq rfl rfl rfl, ⟨rfl, rfl, rfl⟩⟩

/-- A change of the journals alone. -/
theorem writes_of_journals (h : s.withJournals s' = s') : Writes ends s s' :=
  .single (.journal _ _ h)

omit [UrlLibrary] in
lemma acknowledgeConversationForkDelivery_journals (cmd : MutationCommand)
    (childThreadId : ThreadId) (expected : ℕ) {s' : State}
    (h : (acknowledgeConversationForkDelivery s cmd childThreadId expected).2 = s') :
    s.withJournals s' = s' := by
  subst h
  unfold acknowledgeConversationForkDelivery
  split
  · rfl
  · split
    · rfl
    · refine writeThenRead_induction (P := fun s' => s.withJournals s' = s') rfl fun s' h => ?_
      simp only [bind_eq_ok, return_eq_ok] at h
      obtain ⟨_, -, _, -, _, -, _, -, delivery, -, revision, -, rfl⟩ := h
      rfl

/-- The reconciliation of a fork command with a pending delivery. -/
lemma reconcilePendingConversationForkCommand_journals (cmd : MutationCommand) {s' : State}
    (h : (reconcilePendingConversationForkCommand s cmd).2 = s') : s.withJournals s' = s' := by
  subst h
  unfold reconcilePendingConversationForkCommand
  dsimp only
  split
  · rfl
  · split
    · split
      · rfl
      · split
        · rfl
        · split <;> rfl
    · rfl
  · rfl

lemma resolveConversationForkCommand_journals (cmd : MutationCommand) {s' : State}
    (h : (resolveConversationForkCommand s cmd).2 = s') : s.withJournals s' = s' := by
  subst h
  unfold resolveConversationForkCommand
  split
  · rfl
  · split
    · rfl
    · exact reconcilePendingConversationForkCommand_journals cmd rfl

/-- A fork command changes the journals alone, or it makes the fork of its plan. -/
theorem reserveConversationFork_cases (plan : ConversationForkPlan) :
    s.withJournals (reserveConversationFork s plan).2 = (reserveConversationFork s plan).2 ∨
      ∃ prepared src parent kind srcMsg,
        ForkChecked s plan prepared src parent kind srcMsg ∧
        (reserveConversationFork s plan).2 = s.writeFork plan prepared := by
  have hpend {found s'} (h : reconcilePendingConversationForkCommand s plan.command
      = (found, s')) : s.withJournals s' = s' :=
    reconcilePendingConversationForkCommand_journals plan.command (congrArg Prod.snd h)
  unfold reserveConversationFork
  split
  · exact .inl rfl
  · split
    · exact .inl rfl
    · split
      · exact .inl rfl
      · split
        · exact .inl (hpend ‹_›)
        · exact .inl (hpend ‹_›)
        · split
          · exact .inl rfl
          · rename_i heq
            obtain ⟨⟨src, parent, kind, srcMsg, hchk⟩, rfl⟩ := checkedFork_eq_ok heq
            exact .inr ⟨_, src, parent, kind, srcMsg, hchk, rfl⟩

/-- What a fork writes. -/
lemma reserveConversationFork_writes (plan : ConversationForkPlan) :
    Writes ends s (reserveConversationFork s plan).2 := by
  rcases reserveConversationFork_cases (s := s) plan with
    hjournals | ⟨prepared, src, parent, kind, srcMsg, hchk, hwr⟩
  · exact writes_of_journals hjournals
  · rw [hwr]
    exact .single (.fork s plan prepared src parent kind srcMsg hchk)

/-! ## Turns -/

/-- A checked fork writes the turn it starts, if any. -/
theorem ForkChecked.conversationTurns {plan : ConversationForkPlan}
    {prep : PreparedConversationFork} {src : ConversationTurnSnapshot} {parent : Thread}
    {kind : ConversationForkKind} {srcMsg : Message}
    (h : ForkChecked s plan prep src parent kind srcMsg) :
    (s.writeFork plan prep).conversationTurns = match plan.startedTurn with
      | none => s.conversationTurns
      | some turnPlan => s.conversationTurns.insert turnPlan.turn.id turnPlan.turn := by
  cases hplan : plan.startedTurn with
  | none => simp [State.writeFork, State.writeForkThread, hplan]
  | some turnPlan =>
    obtain ⟨ctx, event, _, hctx, hev, -⟩ := h.turn turnPlan hplan
    simp [State.writeFork, State.writeForkThread, State.insertTurn, State.appendEvents, hplan,
      hctx, hev]

/-- What a write does to the turn stored under an identifier: nothing, or it reserves a new turn, or
it moves the stored one to the provider boundary or to one of the given ends. -/
theorem Write.turn_cases (h : Write ends s s') (id : ConversationTurnId) :
    s'.conversationTurns.lookup id = s.conversationTurns.lookup id ∨
    (s.conversationTurns.lookup id = none ∧
      ∃ turn, s'.conversationTurns.lookup id = some turn ∧ turn.id = id ∧ turn.state = .reserved) ∨
    ∃ turn turn', s.conversationTurns.lookup id = some turn ∧
      s'.conversationTurns.lookup id = some turn' ∧ turn'.id = id ∧ TurnMoved turn turn' ∧
      (turn'.state = .providerStarted ∨ turn' ∈ ends) := by
  cases h with
  | journal _ hj => exact .inl (by rw [← hj]; rfl)
  | project project hnew => exact .inl rfl
  | thread thread hproj hnew hrest hori => exact .inl rfl
  | message msg hnew hthr horig hseq => exact .inl rfl
  | text append evs turn log log' hchk => exact .inl rfl
  | reserve input prep hacc hkey hchk =>
    by_cases hid : id = input.turn.id
    · subst hid
      refine .inr (.inl ⟨hchk.newTurn, input.turn, by simp, rfl, ?_⟩)
      simp only [acceptsReservationInput, isCanonicalReservationInput, Bool.and_eq_true,
        decide_eq_true_eq] at hacc
      tauto
    · exact .inl (by simp [hid])
  | fork plan prep src parent kind srcMsg hchk =>
    rw [hchk.conversationTurns]
    cases hplan : plan.startedTurn with
    | none => exact .inl rfl
    | some turnPlan =>
      obtain ⟨_, _, _, -, -, hturn⟩ := hchk.turn turnPlan hplan
      by_cases hid : id = turnPlan.turn.id
      · subst hid
        exact .inr (.inl ⟨hturn.newTurn, turnPlan.turn, by simp, rfl, hturn.reserved⟩)
      · exact .inl (by simp [hid])
  | start commit cur turnEvents hchk =>
    by_cases hid : id = commit.turn.id
    · subst hid
      exact .inr (.inr ⟨_, commit.turn, (loadSnapshot_eq_ok.1 hchk.loaded).1, by simp, rfl,
        hchk.moved, .inl hchk.started⟩)
    · exact .inl (by simp [hid])
  | terminal commit cur assistant turnEvents hchk hends =>
    by_cases hid : id = commit.turn.id
    · subst hid
      exact .inr (.inr ⟨_, commit.turn, (loadSnapshot_eq_ok.1 hchk.loaded).1, by simp, rfl,
        hchk.moved, .inr hends⟩)
    · exact .inl (by simp [hid])

end Writes

end GrokDesktop
