import GrokDesktop.Lib.Rely
import GrokDesktop.Application.AtMostOnce
import GrokDesktop.Application.Endings

/-!
# Consuming a provider stream

`consume_stream` reads the items of a stream, makes their text durable in pieces and ends the turn.
Its program is followed call by call: between two calls other tasks may write anything but the turn
itself, and cancellation may be raised at every point where the program waits. Whenever the program
makes a call, the durable text of the turn is a prefix of the text received so far; and the state
in which the turn ends says what the stream was.
-/

namespace GrokDesktop

open Resumption Service List Program
open Program (bind_eq wp_bind wp_mono)

/-! ## Streams -/

/-- The text that an item brings. -/
def itemText : StreamItem → String
  | .ok (.textDelta delta) => delta
  | _ => ""

/-- The concatenation of the deltas among the items. -/
def deltaText (items : List StreamItem) : String := String.join (items.map itemText)

lemma deltaText_append (items more : List StreamItem) :
    deltaText (items ++ more) = deltaText items ++ deltaText more := by
  simp [deltaText]

lemma deltaText_concat (items : List StreamItem) (item : StreamItem) :
    deltaText (items ++ [item]) = deltaText items ++ itemText item := by
  simp [deltaText]

/-- The events hold no completion. -/
def Uncompleted (events : List ConversationEvent) : Prop :=
  ∀ continuation, ConversationEvent.completed continuation ∉ events

/-- A stream that completes its turn: no error, one completion, at the end, at least one usage
report, and a text that is not empty and fits a message. -/
def CompletesTurn (items : List StreamItem) : Prop :=
  (∃ events continuation, items = (events ++ [.completed continuation]).map .ok ∧
    Uncompleted events ∧ ∃ usage, ConversationEvent.usage usage ∈ events) ∧
  deltaText items ≠ "" ∧ (deltaText items).utf8ByteSize ≤ maxMessageBytes

/-- A stream that fails its turn: its first error comes before any completion, and the provider has
certainly not done the request. -/
def FailsTurn (items : List StreamItem) : Prop :=
  ∃ events error rest, items = events.map .ok ++ .error error :: rest ∧ Uncompleted events ∧
    error.certainty ≠ .outcomeUnknown

/-- What the stream was and which text is durable when the turn ends in the given state. -/
def StreamOutcome (items : List StreamItem) (durable : String) : ConversationTurnState → Prop
  | .completed => CompletesTurn items ∧ durable = deltaText items
  | .failed => FailsTurn items
  | .interruptedNeedsReview => True
  | .reserved | .providerStarted | .cancelled => False

/-- A turn with an outcome has ended. -/
theorem StreamOutcome.isTerminal {items : List StreamItem} {durable : String}
    {state : ConversationTurnState} (h : StreamOutcome items durable state) :
    state.isTerminal = true := by
  cases state <;> first | rfl | exact h.elim

/-- How many items were received after a call and its reply. -/
def itemsReceived (received : ℕ) : (c : ConversationCall) → c.Reply → ℕ
  | .awaitItem, cancelled => if cancelled then received else received + 1
  | _, _ => received

variable {progress : StreamProgress} {events : List ConversationEvent}

/-- The pieces of the pending text make it up. -/
lemma splitPending_append (text : String) :
    (splitPending text).1 ++ (splitPending text).2 = text := by
  rw [splitPending, ← String.ofList_append, Utf8.splitBytes_append, String.ofList_toList]

/-- The text of more items extends the text of fewer. -/
lemma deltaText_take_succ (items : List StreamItem) (n : ℕ) :
    ∃ rest, deltaText (items.take n) ++ rest = deltaText (items.take (n + 1)) := by
  obtain ⟨more, hmore⟩ : items.take n <+: items.take (n + 1) :=
    take_prefix_take_left (Nat.le_succ n)
  exact ⟨deltaText more, by rw [← deltaText_append, hmore]⟩

/-- What the consumer remembers of the events it has seen. -/
structure Remembers (progress : StreamProgress) (events : List ConversationEvent) : Prop where
  usage : progress.usage.isSome = true → ∃ usage, ConversationEvent.usage usage ∈ events
  live : progress.completed = false → Uncompleted events
  completed : progress.completed = true → ∃ before continuation,
    events = before ++ [.completed continuation] ∧ Uncompleted before
  size : progress.output.utf8ByteSize ≤ maxMessageBytes

section

variable (h : Remembers progress events)
include h

/-- An event that changes no more than the text of the consumer. -/
theorem Remembers.concat {progress' : StreamProgress}
    (hlive : progress.completed = false) (event : ConversationEvent)
    (huse : progress'.usage = progress.usage) (hdone : progress'.completed = false)
    (hev : ∀ c, event ≠ .completed c) (hsize : progress'.output.utf8ByteSize ≤ maxMessageBytes) :
    Remembers progress' (events ++ [event]) where
  usage hsome := by
    obtain ⟨usage, hmem⟩ := h.usage (huse ▸ hsome)
    exact ⟨usage, mem_append_left _ hmem⟩
  live _ continuation hmem := by
    rcases mem_append.1 hmem with hmem | hmem
    · exact h.live hlive continuation hmem
    · exact hev continuation (mem_singleton.1 hmem).symm
  completed htrue := by
    rw [hdone] at htrue
    cases htrue
  size := hsize

lemma Remembers.concat_usage (hlive : progress.completed = false) (usage : Usage) :
    Remembers { progress with usage := some usage } (events ++ [.usage usage]) where
  usage _ := ⟨usage, mem_append_right _ (mem_singleton_self _)⟩
  live _ continuation hmem := by
    rcases mem_append.1 hmem with hmem | hmem
    · exact h.live hlive continuation hmem
    · cases mem_singleton.1 hmem
  completed htrue := by
    rw [show progress.completed = true from htrue] at hlive
    cases hlive
  size := h.size

lemma Remembers.concat_completed
    (hlive : progress.completed = false) (continuation responseId : Option String) :
    Remembers { progress with providerResponseId := responseId, completed := true }
      (events ++ [.completed continuation]) where
  usage hsome := by
    obtain ⟨usage, hmem⟩ := h.usage hsome
    exact ⟨usage, mem_append_left _ hmem⟩
  live hfalse := nomatch hfalse
  completed _ := ⟨events, continuation, rfl, h.live hlive⟩
  size := h.size

/-- A stream whose events end with the completion and report usage completes its turn. -/
lemma Remembers.completesTurn {items : List StreamItem} (hits : items = events.map .ok)
    (hdone : progress.completed = true) (huse : progress.usage.isSome = true)
    (hout : progress.output = deltaText items) (hne : progress.output ≠ "") :
    CompletesTurn items := by
  obtain ⟨before, continuation, rfl, hbef⟩ := h.completed hdone
  obtain ⟨usage, hmem⟩ := h.usage huse
  have hmem' : ConversationEvent.usage usage ∈ before := by
    rcases mem_append.1 hmem with hmem | hmem
    · exact hmem
    · cases mem_singleton.1 hmem
  rw [hout] at hne
  exact ⟨⟨before, continuation, hits, hbef, usage, hmem'⟩, hne, hout ▸ h.size⟩

end

/-! ## Following the program -/

section Stream

variable [UrlLibrary]

/-- The store has the given snapshot of the turn that was started, and its durable text is a prefix
of the text received so far. -/
structure Follows (started : ConversationTurnSnapshot) (items : List StreamItem) (σ : State × ℕ)
    (snapshot : ConversationTurnSnapshot) : Prop where
  holds : Holds σ.1 snapshot
  id : snapshot.turn.id = started.turn.id
  command : creatingCommand snapshot = creatingCommand started
  received : ∃ rest, durableText σ.1 started.turn.id ++ rest = deltaText (items.take σ.2)

/-- The turn has ended as the stream says. -/
structure EndedAs (started : ConversationTurnSnapshot) (items : List StreamItem) (σ : State × ℕ)
    (snapshot : ConversationTurnSnapshot) : Prop extends Follows started items σ snapshot where
  outcome : StreamOutcome items (durableText σ.1 started.turn.id) snapshot.turn.state

variable (started : ConversationTurnSnapshot)

/-- The turn is in progress, or it has ended as the stream says. -/
def OnTrack (items : List StreamItem) (σ : State × ℕ) : Prop :=
  Follows started items σ started ∨ ∃ snapshot, EndedAs started items σ snapshot

/-- The contract of the task that consumes the stream of a turn. -/
abbrev trackContract (items : List StreamItem) : Contract conversationInterface (State × ℕ) :=
  relyContract conversationSystem (Elsewhere started.turn.id) itemsReceived (OnTrack started items)

/-- The program returns the snapshot of the turn, which has ended as the stream says. -/
def Settled (items : List StreamItem) (result : Except ApplicationError ConversationTurnSnapshot)
    (σ : State × ℕ) : Prop :=
  ∃ snapshot, result = .ok snapshot ∧ EndedAs started items σ snapshot

variable {started snapshot : ConversationTurnSnapshot} {items : List StreamItem}

/-! ### Other writers -/

variable {n : ℕ} {σ : State × ℕ} {progress : StreamProgress} {events : List ConversationEvent}
  {s s' : State} {durable : String}

/-- Writes to other turns leave a followed turn alone. -/
lemma Follows.elsewhere (h : Follows started items (s, n) snapshot)
    (hoth : Elsewhere started.turn.id s s') :
    Follows started items (s', n) snapshot ∧
      durableText s' started.turn.id = durableText s started.turn.id := by
  obtain ⟨hholds, htext⟩ := h.holds.elsewhere (h.id ▸ hoth)
  rw [h.id] at htext
  refine ⟨⟨hholds, h.id, h.command, ?_⟩, htext⟩
  rw [htext]
  exact h.received

/-- Writes to other turns leave an ended turn alone. -/
lemma EndedAs.elsewhere (h : EndedAs started items (s, n) snapshot)
    (hoth : Elsewhere started.turn.id s s') : EndedAs started items (s', n) snapshot := by
  obtain ⟨hfol, htext⟩ := h.toFollows.elsewhere hoth
  refine ⟨hfol, ?_⟩
  rw [htext]
  exact h.outcome

/-- Other writers leave the turn on track. -/
lemma onTrack_stable : Stable (Elsewhere started.turn.id) (OnTrack started items) := by
  rintro s s' n hoth (hlive | ⟨snapshot, hend⟩)
  · exact .inl (hlive.elsewhere hoth).1
  · exact .inr ⟨snapshot, hend.elsewhere hoth⟩

/-- A call of the surroundings other than waiting for an item: it does not reach the store. -/
def IsSurrounding : ConversationCall → Prop
  | .now | .generateId _ | .cancellationRaised => True
  | _ => False

/-- Stable properties survive the calls of the surroundings. -/
lemma next_surrounding {P : State × ℕ → Prop} (hP : Stable (Elsewhere started.turn.id) P)
    {σ' : State × ℕ} {c : ConversationCall} {r : c.Reply}
    (hnext : (trackContract started items).next σ c r σ') (hc : IsSurrounding c) (hσ : P σ) :
    P σ' ∧ σ'.2 = σ.2 := by
  obtain ⟨s', n'⟩ := σ'
  obtain ⟨s, hoth, hans, hfol⟩ := hnext
  cases c <;> first
    | exact hc.elim
    | (obtain rfl : s' = s := hans
       obtain rfl : n' = σ.2 := hfol
       exact ⟨hP _ _ _ hoth hσ, rfl⟩)

/-! ### Ending the turn -/

/-- An accepted commit ends the turn. -/
lemma Follows.endedAs (h : Follows started items (s, n) started) {commit : TerminalTurnCommit}
    (hchk : checkedTerminal s commit = .ok s') (hid : commit.turn.id = started.turn.id)
    (hout : StreamOutcome items (durableText s started.turn.id) commit.turn.state) :
    ∃ committed, commitTerminal s commit = (.ok committed, s') ∧
      EndedAs started items (s', n) committed := by
  obtain ⟨cur, committed, hcom, hload, hmov, hturn, hlin, hholds, htext⟩ :=
    commitTerminal_of_checked h.holds.consistent hchk
  rw [hid, h.holds.loadSnapshot] at hload
  cases hload
  rw [hid] at htext
  refine ⟨committed, hcom, ⟨hholds, by rw [hturn, hid], ?_, ?_⟩, ?_⟩
  · rw [creatingCommand, creatingCommand, hturn, hlin, hmov.idempotencyKey, hmov.requestFingerprint]
  · rw [htext]
    exact h.received
  · rw [htext, hturn]
    exact hout

section Ending

variable {effect : SideEffect} (hdispatched : Dispatched started effect)

include hdispatched

variable {σ : State × ℕ}

/-- From a turn on track, `interrupt_or_reconcile` ends the turn, or finds it ended. -/
lemma wp_interruptOrReconcile (h : OnTrack started items σ) :
    (interruptOrReconcile started).wp (trackContract started items) (Settled started items) σ := by
  rw [hdispatched.interruptOrReconcile_eq]
  refine ⟨h, fun clock σ₁ hnow => ?_⟩
  obtain ⟨h₁, -⟩ := next_surrounding onTrack_stable hnow trivial h
  refine ⟨h₁, ?_⟩
  rintro res ⟨s₂, n₂⟩ ⟨s, hoth, hans, hn⟩
  obtain rfl : n₂ = σ₁.2 := hn
  have hcom : commitTerminal s _ = (res, s₂) := hans
  rcases onTrack_stable _ _ _ hoth h₁ with hlive | ⟨snapshot, hend⟩
  · obtain ⟨hturn, hrun⟩ := hdispatched.le_terminalTimestamp clock
    obtain ⟨s', hchk⟩ := hlive.holds.checkedTerminal_interrupt hdispatched hturn hrun
    obtain ⟨committed, hcomm, hend⟩ := hlive.endedAs hchk rfl trivial
    rw [hcomm] at hcom
    obtain ⟨rfl, rfl⟩ := Prod.mk.inj hcom
    exact ⟨committed, rfl, hend⟩
  · -- the turn has ended: the commit is rejected and the turn is read again
    obtain ⟨error, hrej⟩ := hend.holds.commitTerminal_ended hend.outcome.isTerminal
      (interruptCommit started effect (terminalTimestamp started clock)) hend.id.symm
    rw [hrej] at hcom
    obtain ⟨rfl, rfl⟩ := Prod.mk.inj hcom
    refine ⟨.inr ⟨snapshot, hend⟩, ?_⟩
    rintro loaded ⟨s₄, n₄⟩ ⟨s₃, hoth, hans, hn⟩
    obtain rfl : n₄ = σ₁.2 := hn
    have hend := hend.elsewhere hoth
    obtain ⟨hload, rfl⟩ := Prod.mk.inj hans
    rw [← hend.command, hend.holds.loadTurnByCommand] at hload
    subst hload
    have hterm := hend.outcome.isTerminal
    show wp _ (if snapshot.turn.state.isTerminal then _ else _) _ _
    rw [if_pos hterm]
    exact ⟨snapshot, rfl, hend⟩

/-- From a turn in progress whose outcome is known, building and committing it ends the turn. -/
lemma wp_commitOrInterrupt {state : ConversationTurnState} {build : Service TerminalTurnCommit}
    (h : Follows started items σ started)
    (hout : StreamOutcome items (durableText σ.1 started.turn.id) state)
    (hbuild : build.Ensures IsSurrounding fun commit =>
      commit.turn.id = started.turn.id ∧ commit.turn.state = state) :
    (commitOrInterrupt started build).wp (trackContract started items) (Settled started items)
      σ := by
  have hrdy : Stable (Elsewhere started.turn.id) fun σ => Follows started items σ started ∧
      StreamOutcome items (durableText σ.1 started.turn.id) state := by
    rintro s s' n hoth ⟨hfol, hout⟩
    obtain ⟨hfol', htext⟩ := hfol.elsewhere hoth
    exact ⟨hfol', by rw [htext]; exact hout⟩
  unfold commitOrInterrupt
  rw [bind_eq, wp_bind, wp_attempt]
  refine wp_mono (hbuild.wp _ (fun _ _ hrdy _ => .inl hrdy.1)
    (fun _ _ _ _ hσ hc hnext => (next_surrounding hrdy hnext hc hσ).1) ⟨h, hout⟩) ?_
  rintro (error | commit) σ₁ ⟨⟨h₁, houtc⟩, hcom⟩
  · exact wp_interruptOrReconcile hdispatched (.inl h₁)
  · obtain ⟨hid, hsta⟩ := hcom commit rfl
    refine ⟨.inl h₁, ?_⟩
    rintro res ⟨s₂, n₂⟩ ⟨s, hoth, hans, hn⟩
    obtain rfl : n₂ = σ₁.2 := hn
    have hcomm : commitTerminal s commit = (res, s₂) := hans
    obtain ⟨hlive, houtcome₂⟩ := hrdy _ _ _ hoth ⟨h₁, houtc⟩
    rcases commitTerminal_cases s commit with ⟨error, hrej⟩ | ⟨s', hchk⟩
    · rw [hrej] at hcomm
      obtain ⟨rfl, rfl⟩ := Prod.mk.inj hcomm
      exact wp_interruptOrReconcile hdispatched (.inl hlive)
    · obtain ⟨committed, hacc, hend⟩ := hlive.endedAs hchk hid (hsta ▸ houtcome₂)
      rw [hacc] at hcomm
      obtain ⟨rfl, rfl⟩ := Prod.mk.inj hcomm
      exact ⟨committed, rfl, hend⟩

/-- A provider error fails the turn or ends it in review. -/
lemma wp_finishProviderError {events : List ConversationEvent} {error : ModelError}
    {rest : List StreamItem} (h : Follows started items σ started)
    (hits : items = events.map .ok ++ .error error :: rest) (hevs : Uncompleted events) :
    (finishProviderError started error).wp (trackContract started items) (Settled started items)
      σ := by
  unfold finishProviderError
  split
  · exact wp_interruptOrReconcile hdispatched (.inl h)
  · rename_i hcert
    have hout : StreamOutcome items (durableText σ.1 started.turn.id) .failed :=
      ⟨events, error, rest, hits, hevs, hcert⟩
    exact wp_commitOrInterrupt hdispatched h hout (buildFailedCommit_ensures trivial _ _)

end Ending

/-! ### Racing cancellation -/

/-- The outcomes of a program raced against cancellation: its own, or none, with the turn on
track. -/
def Raced (started : ConversationTurnSnapshot) (items : List StreamItem) {α : Type}
    (Q : Except ApplicationError α → State × ℕ → Prop)
    (result : Except ApplicationError (Option (Except ApplicationError α))) (σ : State × ℕ) :
    Prop :=
  ∃ outcome, result = .ok outcome ∧ OnTrack started items σ ∧ ∀ r, outcome = some r → Q r σ

section Race

variable {α : Type} {p : Service α} {Q : Except ApplicationError α → State × ℕ → Prop}
  {σ : State × ℕ} (hQ : ∀ r, Stable (Elsewhere started.turn.id) (Q r))
  (htrack : ∀ r σ, Q r σ → OnTrack started items σ)

include hQ in
/-- A poll of the signal keeps a precondition. -/
lemma wp_poll {raised : Bool} {σ' : State × ℕ} (hp : p.wp (trackContract started items) Q σ)
    (hnext : (trackContract started items).next σ .cancellationRaised raised σ') :
    p.wp (trackContract started items) Q σ' := by
  obtain ⟨s', n'⟩ := σ'
  obtain ⟨s, hoth, hans, hn⟩ := hnext
  obtain rfl : s' = s := hans
  obtain rfl : n' = σ.2 := hn
  exact wp_stable (fun _ _ _ => .trans) onTrack_stable hQ hp hoth

include htrack in
lemma onTrack_of_wp (hp : p.wp (trackContract started items) Q σ) : OnTrack started items σ :=
  wp_invariant hp (fun _ _ h => h) htrack

include hQ htrack

/-- A race with the cancellation keeps the track. -/
lemma wp_untilCancelled (hp : p.wp (trackContract started items) Q σ) :
    (untilCancelled p).wp (trackContract started items) (Raced started items Q) σ := by
  induction p generalizing σ with
  | done a | fail e => exact ⟨_, rfl, htrack _ _ hp, fun r hr => Option.some.inj hr ▸ hp⟩
  | call c k ih =>
    refine ⟨hp.1, fun r σ₁ hnext => ?_⟩
    have hrest := hp.2 r σ₁ hnext
    refine ⟨onTrack_of_wp htrack hrest, fun raised σ₂ hpoll => ?_⟩
    have hrest' := wp_poll hQ hrest hpoll
    cases raised with
    | false => exact ih r hrest'
    | true => exact ⟨none, rfl, onTrack_of_wp htrack hrest', nofun⟩

/-- A program that is raced against cancellation ends as it does alone, or is given up with the
turn on track. -/
lemma wp_raceCancellationFirst (hp : p.wp (trackContract started items) Q σ) :
    (raceCancellationFirst p).wp (trackContract started items) (Raced started items Q) σ := by
  refine ⟨onTrack_of_wp htrack hp, fun raised σ₁ hpoll => ?_⟩
  have hp' := wp_poll hQ hp hpoll
  cases raised with
  | false => exact wp_untilCancelled hQ htrack hp'
  | true => exact ⟨none, rfl, onTrack_of_wp htrack hp', nofun⟩

end Race

/-! ### Text -/

/-- The turn is in progress with the given durable text, after the given number of items. -/
structure InProgress (started : ConversationTurnSnapshot) (items : List StreamItem)
    (durable : String) (n : ℕ) (σ : State × ℕ) : Prop where
  follows : Follows started items σ started
  text : durableText σ.1 started.turn.id = durable
  count : σ.2 = n

/-- Other writers keep a turn in progress. -/
lemma inProgress_stable :
    Stable (Elsewhere started.turn.id) (InProgress started items durable n) := by
  intro s s' m hoth h
  obtain ⟨hfol, htext⟩ := h.follows.elsewhere hoth
  exact ⟨hfol, htext.trans h.text, h.count⟩

section Text

variable {durable rest text : String} {n : ℕ} {σ : State × ℕ}

/-- An append either fails, with the turn still in progress, or makes the text durable. -/
lemma wp_appendNormalizedText (h : InProgress started items durable n σ)
    (hrest : durable ++ text ++ rest = deltaText (items.take n)) :
    (appendNormalizedText started durable.utf8ByteSize text).wp (trackContract started items)
      (fun r σ' => OnTrack started items σ' ∧ σ'.2 = n ∧
        (r = .ok () → InProgress started items (durable ++ text) n σ')) σ := by
  refine ⟨.inl h.follows, ?_⟩
  rintro res ⟨s₁, n₁⟩ ⟨s, hoth, hans, hn⟩
  obtain rfl : n₁ = σ.2 := hn
  have h' := inProgress_stable _ _ _ hoth h
  have hans : appendTurnText s _ = (res, s₁) := hans
  have htext : durableText s started.turn.id = durable := h'.text
  rcases h'.follows.holds.appendTurnText_cases {
    turnId := started.turn.id
    expectedTurnRevision := started.turn.revision
    startUtf8Offset := durable.utf8ByteSize
    text := text } rfl (by rw [htext]) with
    ⟨error, hrej⟩ | ⟨events, s', hacc, hholds, hdur⟩
  · rw [hrej] at hans
    obtain ⟨rfl, rfl⟩ := Prod.mk.inj hans
    exact ⟨.inl h'.follows, h.count, nofun⟩
  · rw [hacc] at hans
    obtain ⟨rfl, rfl⟩ := Prod.mk.inj hans
    rw [htext] at hdur
    have hprog : InProgress started items (durable ++ text) n (s', σ.2) :=
      ⟨⟨hholds, rfl, rfl, rest, by rw [hdur, h.count]; exact hrest⟩, hdur, h.count⟩
    have hchk : ∀ x : Except ApplicationError Unit, (check id x).wp
        (trackContract started items) (fun r σ' => OnTrack started items σ' ∧ σ'.2 = n ∧
          (r = .ok () → InProgress started items (durable ++ text) n σ')) (s', σ.2) := by
      intro x
      rw [check, wp_liftExcept]
      exact ⟨.inl hprog.follows, h.count, fun _ => hprog⟩
    exact hchk _

/-- An append that is not given up makes the text durable. -/
lemma wp_appendNormalizedTextOrCancel (h : InProgress started items durable n σ)
    (hrest : durable ++ text ++ rest = deltaText (items.take n)) :
    (appendNormalizedTextOrCancel started durable.utf8ByteSize text).wp
      (trackContract started items) (fun r σ' => ∃ done, r = .ok done ∧ OnTrack started items σ' ∧
        (done = true → InProgress started items (durable ++ text) n σ')) σ := by
  have happ := wp_raceCancellationFirst ?_ ?_ (wp_appendNormalizedText h hrest)
  · unfold appendNormalizedTextOrCancel
    rw [bind_eq, wp_bind]
    refine wp_mono happ ?_
    rintro _ σ' ⟨outcome, rfl, htrack, hdone⟩
    match outcome with
    | none | some (.error error) => exact ⟨false, rfl, htrack, nofun⟩
    | some (.ok ()) => exact ⟨true, rfl, htrack, fun _ => (hdone _ rfl).2.2 rfl⟩
  · rintro r s s' m hoth ⟨htrack, hcnt, hdone⟩
    exact ⟨onTrack_stable _ _ _ hoth htrack, hcnt,
      fun hr => inProgress_stable _ _ _ hoth (hdone hr)⟩
  · rintro r σ' ⟨htrack, -⟩
    exact htrack

end Text

/-- The received text is durable up to the offset of the consumer, and the rest of it is pending. -/
def Buffered (started : ConversationTurnSnapshot) (items : List StreamItem)
    (progress : StreamProgress) (n : ℕ) (σ : State × ℕ) : Prop :=
  ∃ durable, InProgress started items durable n σ ∧
    progress.durableTextOffset = durable.utf8ByteSize ∧
    durable ++ progress.pendingText = progress.output ∧
    progress.output = deltaText (items.take n)

lemma Buffered.follows (h : Buffered started items progress n σ) :
    Follows started items σ started := by
  obtain ⟨durable, hprog, -⟩ := h
  exact hprog.follows

/-- The consumer goes on with a progress that satisfies `P`, or must end the turn in review. -/
def Continues (started : ConversationTurnSnapshot) (items : List StreamItem)
    (P : StreamProgress → State × ℕ → Prop)
    (result : Except ApplicationError (Option StreamProgress)) (σ : State × ℕ) : Prop :=
  ∃ next, result = .ok next ∧ OnTrack started items σ ∧ ∀ progress, next = some progress →
    P progress σ

variable {P : StreamProgress → State × ℕ → Prop}

lemma Continues.some (h : Follows started items σ started) (hP : P progress σ) :
    Continues started items P (.ok (.some progress)) σ :=
  ⟨_, rfl, .inl h, fun _ hnext => Option.some.inj hnext ▸ hP⟩

lemma Continues.none (h : OnTrack started items σ) :
    Continues started items P (.ok .none) σ :=
  ⟨_, rfl, h, fun _ hnext => by cases hnext⟩

/-- Flushing full pieces moves text from the pending to the durable part. -/
lemma wp_flushPending (rounds : ℕ) (h : Buffered started items progress n σ) :
    (flushPending started rounds progress).wp (trackContract started items)
      (Continues started items fun progress' σ' => Buffered started items progress' n σ' ∧
        ∃ pendingText durableTextOffset, progress' = { progress with
          pendingText := pendingText
          durableTextOffset := durableTextOffset }) σ := by
  induction rounds generalizing progress σ with
  | zero => exact .some h.follows ⟨h, _, _, rfl⟩
  | succ rounds ih =>
    unfold flushPending
    split
    · exact .some h.follows ⟨h, _, _, rfl⟩
    · obtain ⟨durable, hprog, hoff, htext, hout⟩ := h
      have happ := splitPending_append progress.pendingText
      generalize splitPending progress.pendingText = pieces at happ ⊢
      obtain ⟨chunk, rest⟩ := pieces
      have hsplit : durable ++ chunk ++ rest = deltaText (items.take n) := by
        rw [String.append_assoc, happ, htext, hout]
      dsimp only
      rw [bind_eq, wp_bind, hoff]
      refine wp_mono (wp_appendNormalizedTextOrCancel hprog hsplit) ?_
      rintro _ σ₁ ⟨appended, rfl, htrack, happended⟩
      dsimp only
      split
      · rename_i nextOffset hnext
        have hnextOffset : nextOffset = (durable ++ chunk).utf8ByteSize := by
          rw [String.utf8ByteSize_append]
          simp only [checkedAdd, Option.ite_none_right_eq_some, Option.some.injEq] at hnext
          exact hnext.2.symm
        have hbuff : Buffered started items { progress with
            pendingText := rest
            durableTextOffset := nextOffset } n σ₁ :=
          ⟨_, happended rfl, hnextOffset, by rw [hsplit, hout], hout⟩
        refine wp_mono (ih hbuff) ?_
        rintro _ σ₂ ⟨next, rfl, htrack', hnext'⟩
        refine ⟨next, rfl, htrack', fun progress' hprog' => ?_⟩
        obtain ⟨hbuff', pendingText, offset, rfl⟩ := hnext' progress' hprog'
        exact ⟨hbuff', pendingText, offset, rfl⟩
      · exact .none htrack

/-! ### Items -/

/-- One event leaves the turn on track, and the text received so far durable or pending. -/
lemma wp_consumeEvent {event : ConversationEvent} (h : InProgress started items durable n σ)
    (hoff : progress.durableTextOffset = durable.utf8ByteSize)
    (htext : durable ++ progress.pendingText = progress.output)
    (hout : progress.output ++ itemText (.ok event) = deltaText (items.take n))
    (hrem : Remembers progress events) (hlive : progress.completed = false) :
    (consumeEvent started progress event).wp (trackContract started items)
      (Continues started items fun progress' σ' => Buffered started items progress' n σ' ∧
        Remembers progress' (events ++ [event])) σ := by
  -- an event without text leaves the buffer as it is
  have hquiet : ∀ {progress' : StreamProgress}, itemText (.ok event) = "" →
      progress'.durableTextOffset = progress.durableTextOffset →
      progress'.pendingText = progress.pendingText → progress'.output = progress.output →
      Remembers progress' (events ++ [event]) → Continues started items (fun progress' σ' =>
        Buffered started items progress' n σ' ∧ Remembers progress' (events ++ [event]))
        (.ok (some progress')) σ := by
    intro progress' hnone hoff' hpend' hout' hrem'
    refine .some h.follows ⟨?_, hrem'⟩
    rw [hnone, String.append_empty] at hout
    exact ⟨durable, h, by rw [hoff', hoff], by rw [hpend', hout', htext],
      by rw [hout', hout]⟩
  cases event with
  | started continuation =>
    exact hquiet rfl rfl rfl rfl (hrem.concat hlive _ rfl hlive (by simp) hrem.size)
  | textDelta delta =>
    rw [consumeEvent]
    split
    · exact .none (.inl h.follows)
    · rename_i hfits
      have hbuff : Buffered started items { progress with
          output := progress.output ++ delta
          pendingText := progress.pendingText ++ delta } n σ :=
        ⟨durable, h, hoff, by dsimp only; rw [← String.append_assoc, htext], hout⟩
      refine wp_mono (wp_flushPending _ hbuff) ?_
      rintro _ σ' ⟨next, rfl, htrack, hnext⟩
      refine ⟨next, rfl, htrack, fun progress' hprog' => ?_⟩
      obtain ⟨hbuff', pendingText, offset, rfl⟩ := hnext progress' hprog'
      refine ⟨hbuff', hrem.concat hlive _ rfl hlive (by simp) ?_⟩
      rw [String.utf8ByteSize_append]
      exact not_lt.1 hfits
  | citation citation =>
    rw [consumeEvent]
    split
    · exact hquiet rfl rfl rfl rfl (hrem.concat hlive _ rfl hlive (by simp) hrem.size)
    · split
      · exact .none (.inl h.follows)
      · exact hquiet rfl rfl rfl rfl (hrem.concat hlive _ rfl hlive (by simp) hrem.size)
  | usage usage => exact hquiet rfl rfl rfl rfl (hrem.concat_usage hlive usage)
  | retentionObserved value =>
    exact hquiet rfl rfl rfl rfl (hrem.concat hlive _ rfl hlive (by simp) hrem.size)
  | completed continuation =>
    exact hquiet rfl rfl rfl rfl (hrem.concat_completed hlive continuation _)

/-- Waiting for an item leaves the turn in progress. -/
lemma InProgress.next_awaitItem {σ' : State × ℕ} {cancelled : Bool}
    (h : InProgress started items durable n σ)
    (hnext : (trackContract started items).next σ .awaitItem cancelled σ') :
    InProgress started items durable (if cancelled then n else n + 1) σ' := by
  obtain ⟨s', n'⟩ := σ'
  obtain ⟨s, hoth, hans, hn⟩ := hnext
  obtain rfl : s' = s := hans
  obtain rfl : n' = if cancelled then σ.2 else σ.2 + 1 := hn
  obtain ⟨hfol, htext, hcnt⟩ := inProgress_stable _ _ _ hoth h
  obtain rfl : σ.2 = n := hcnt
  cases cancelled with
  | true => exact ⟨hfol, htext, rfl⟩
  | false =>
    obtain ⟨rest, hrest⟩ := hfol.received
    obtain ⟨more, hmore⟩ := deltaText_take_succ items σ.2
    exact ⟨⟨hfol.holds, rfl, rfl, rest ++ more, by rw [← String.append_assoc, hrest]; exact hmore⟩,
      htext, rfl⟩

section Consume

variable {effect : SideEffect} (hdispatched : Dispatched started effect)

variable {progress : StreamProgress} {σ : State × ℕ} {events : List ConversationEvent} {n : ℕ}

/-- Other writers keep a settled turn. -/
lemma settled_stable (r : Except ApplicationError ConversationTurnSnapshot) :
    Stable (Elsewhere started.turn.id) (Settled started items r) := by
  rintro s s' n hoth ⟨snapshot, hr, hend⟩
  exact ⟨snapshot, hr, hend.elsewhere hoth⟩

include hdispatched

/-- Committing a complete response ends the turn. -/
lemma wp_completeOrCancel (h : InProgress started items (deltaText items) n σ)
    (hcompletes : CompletesTurn items) (outcome : ProviderOutcome) :
    (completeOrCancel started outcome).wp (trackContract started items) (Settled started items)
      σ := by
  have hout : StreamOutcome items (durableText σ.1 started.turn.id) .completed :=
    ⟨hcompletes, h.text⟩
  have hcomp := wp_raceCancellationFirst settled_stable
    (fun r σ' ⟨snapshot, _, hend⟩ => .inr ⟨snapshot, hend⟩)
    (wp_commitOrInterrupt hdispatched h.follows hout
      (buildCompletedCommit_ensures trivial (fun _ => trivial) started outcome))
  unfold completeOrCancel
  rw [bind_eq, wp_bind]
  refine wp_mono hcomp ?_
  rintro _ σ' ⟨raced, rfl, htrack, hset⟩
  match raced with
  | none => exact wp_interruptOrReconcile hdispatched htrack
  | some (.ok snapshot) => exact hset _ rfl
  | some (.error error) =>
    obtain ⟨snapshot, hr, -⟩ := hset _ rfl
    cases hr

omit hdispatched in
/-- The last flush makes the whole text durable. -/
lemma wp_flushLast (h : Buffered started items progress n σ) :
    (flushLast started progress).wp (trackContract started items) (fun r σ' =>
      ∃ flushed, r = .ok flushed ∧ OnTrack started items σ' ∧
        (flushed = true → InProgress started items progress.output n σ')) σ := by
  obtain ⟨durable, hprog, hoff, htext, hout⟩ := h
  unfold flushLast
  split
  · rename_i hemp
    have hpend : progress.pendingText = "" := String.isEmpty_iff.1 hemp
    rw [hpend, String.append_empty] at htext
    exact ⟨true, rfl, .inl hprog.follows, fun _ => htext ▸ hprog⟩
  · have hrest : durable ++ progress.pendingText ++ "" = deltaText (items.take n) := by
      rw [String.append_empty, htext, hout]
    rw [hoff, ← htext]
    exact wp_appendNormalizedTextOrCancel hprog hrest

/-- The end of the stream ends the turn. -/
lemma wp_finishStream (h : Buffered started items progress n σ)
    (hrem : Remembers progress events) (hits : items = events.map .ok)
    (hall : items.take n = items) :
    (finishStream started progress).wp (trackContract started items) (Settled started items) σ := by
  have hout : progress.output = deltaText items := by
    obtain ⟨_, -, -, -, hout⟩ := h
    rw [hout, hall]
  unfold finishStream
  split
  · exact wp_interruptOrReconcile hdispatched (.inl h.follows)
  · rename_i usage huse
    split
    · exact wp_interruptOrReconcile hdispatched (.inl h.follows)
    · rename_i hcomp
      simp only [Bool.not_eq_true', not_or, Bool.not_eq_false, String.isEmpty_iff] at hcomp
      obtain ⟨hdone, hne⟩ := hcomp
      rw [bind_eq, wp_bind]
      refine wp_mono (wp_flushLast h) ?_
      rintro _ σ' ⟨flushed, rfl, htrack, hflus⟩
      cases flushed with
      | false => exact wp_interruptOrReconcile hdispatched htrack
      | true =>
        have hcompletes := hrem.completesTurn hits hdone (by simp [huse]) hout
          hne
        exact wp_completeOrCancel hdispatched (hout ▸ hflus rfl) hcompletes _

/-- From any point of the stream, the consumer ends the turn. -/
lemma wp_consumeItems {rest : List StreamItem} (hits : items = events.map .ok ++ rest)
    (h : Buffered started items progress events.length σ) (hrem : Remembers progress events) :
    (consumeItems started progress rest).wp (trackContract started items) (Settled started items)
      σ := by
  -- the events read so far grow by one item with each step
  induction rest generalizing events progress σ with
  | nil =>
    rw [append_nil] at hits
    obtain ⟨durable, hprog, hoff, htext, hout⟩ := h
    refine ⟨.inl hprog.follows, fun cancelled σ' hnext => ?_⟩
    have hprog' := hprog.next_awaitItem hnext
    cases cancelled with
    | true => exact wp_interruptOrReconcile hdispatched (.inl hprog'.follows)
    | false =>
      have hseen : items.take events.length = items :=
        take_of_length_le (by rw [hits, length_map])
      have hall : items.take (events.length + 1) = items :=
        take_of_length_le (by rw [hits, length_map]; exact Nat.le_succ _)
      rw [hseen, ← hall] at hout
      exact wp_finishStream hdispatched ⟨durable, hprog', hoff, htext, hout⟩ hrem
        hits hall
  | cons item rest ih =>
    obtain ⟨durable, hprog, hoff, htext, hout⟩ := h
    refine ⟨.inl hprog.follows, fun cancelled σ' hnext => ?_⟩
    have hprog' := hprog.next_awaitItem hnext
    cases cancelled with
    | true => exact wp_interruptOrReconcile hdispatched (.inl hprog'.follows)
    | false =>
      show wp _ (if false = true ∨ progress.completed = true then _ else _) _ _
      split
      · exact wp_interruptOrReconcile hdispatched (.inl hprog'.follows)
      · rename_i hlive
        have hlive : progress.completed = false := by simpa using hlive
        cases item with
        | error error =>
          exact wp_finishProviderError hdispatched hprog'.follows hits (hrem.live hlive)
        | ok event =>
          have htake : items.take (events.length + 1)
              = items.take events.length ++ [.ok event] := by
            rw [hits]
            simp [take_append]
          have hout' : progress.output ++ itemText (.ok event)
              = deltaText (items.take (events.length + 1)) := by
            rw [htake, deltaText_concat, hout]
          dsimp only
          rw [bind_eq, wp_bind]
          refine wp_mono
            (wp_consumeEvent hprog' hoff htext hout' hrem hlive) ?_
          rintro _ σ₁ ⟨next, rfl, htrack, hcont⟩
          cases next with
          | none => exact wp_interruptOrReconcile hdispatched htrack
          | some progress' =>
            obtain ⟨hbuff, hrem'⟩ := hcont progress' rfl
            refine ih ?_ ?_ hrem'
            · rw [hits, map_append, append_assoc]
              rfl
            · rw [length_append]
              exact hbuff

end Consume

/-! ## The whole stream -/

/-- The contract of the task that consumes the stream of a turn, for a reader: whenever it makes a
call, the durable text of the turn is a prefix of the deltas received so far. Before each answer
other tasks may write anything but the turn itself. -/
def streamContract (turnId : ConversationTurnId) (items : List StreamItem) :
    Contract conversationInterface (State × ℕ) :=
  relyContract conversationSystem (Elsewhere turnId) itemsReceived fun σ =>
    ∃ rest, durableText σ.1 turnId ++ rest = deltaText (items.take σ.2)

/-- The content of the assistant message of a completed turn is its durable text. -/
theorem EndedAs.assistantMessage (h : EndedAs started items σ snapshot)
    (hsta : snapshot.turn.state = .completed) :
    snapshot.assistantMessage.map Message.content = some (deltaText items) := by
  obtain ⟨events, log, hevs, hrest, hval⟩ := h.holds.read.log
  obtain ⟨-, -, hdone, -⟩ := ConversationTurnEventLog.validateSnapshot_eq_ok.1 hval
  have hout := h.outcome
  rw [hsta] at hout
  obtain ⟨-, hasst⟩ := hdone hsta
  rw [hasst, ConversationTurnEventLog.restore_text hrest, ← hout.2, durableText,
    ← h.id, hevs, Option.getD_some]

/-- In a store that any operations have reached, take a turn whose provider has just started and any
stream of items. However the task that consumes the stream is interleaved with other tasks that
leave the turn alone, and wherever cancellation is raised: whenever the task makes a call, and at
its end, the durable text of the turn is a prefix of the deltas received so far; and the task
returns the stored snapshot of the turn, which has ended. It is completed only by a stream without
error whose one completion is its last item, with usage and with a text that is not empty and fits a
message, and then the assistant message and the durable text are the whole text; it is failed only
by an error before any completion whose outcome is known; otherwise it is in review. -/
theorem consume_stream_exact {s : State} {operations : List StoreOperation}
    (hreached : s = State.empty.run operations)
    (hloaded : loadSnapshot s started.turn.id = .ok started)
    (hstate : started.turn.state = .providerStarted)
    (hfresh : durableText s started.turn.id = "") (items : List StreamItem) :
    (consumeStream started items).wp (streamContract started.turn.id items) (fun result σ =>
      (∃ rest, durableText σ.1 started.turn.id ++ rest = deltaText (items.take σ.2)) ∧
      ∃ snapshot, result = .ok snapshot ∧
        loadSnapshot σ.1 started.turn.id = .ok snapshot ∧
        StreamOutcome items (durableText σ.1 started.turn.id) snapshot.turn.state ∧
        (snapshot.turn.state = .completed →
          snapshot.assistantMessage.map Message.content = some (deltaText items))) (s, 0) := by
  obtain ⟨hsto, hread⟩ := loadSnapshot_read hloaded
  have hholds : Holds s started := ⟨hreached ▸ run_consistent operations, hsto, hread⟩
  obtain ⟨effect, hdispatched⟩ := exists_dispatched hread.canonical hstate
  have hprog : InProgress started items "" 0 (s, 0) :=
    ⟨⟨hholds, rfl, rfl, "", by dsimp only; rw [hfresh]; rfl⟩, hfresh, rfl⟩
  have hbuffered : Buffered started items {} ([] : List ConversationEvent).length (s, 0) :=
    ⟨"", hprog, rfl, rfl, rfl⟩
  have hrem : Remembers {} [] := ⟨nofun, fun _ _ => not_mem_nil, nofun, by decide⟩
  have hconsumed : (consumeStream started items).wp (trackContract started items)
      (Settled started items) (s, 0) := by
    refine wp_consumeItems hdispatched ?_ hbuffered hrem
    rfl
  have hprefix : ∀ {σ : State × ℕ}, OnTrack started items σ →
      ∃ rest, durableText σ.1 started.turn.id ++ rest = deltaText (items.take σ.2) := by
    rintro σ (hlive | ⟨snapshot, hend⟩)
    · exact hlive.received
    · exact hend.received
  refine wp_mono (wp_contract_mono hconsumed (fun _ _ htrack => hprefix htrack)
    fun _ _ _ _ hnext => hnext) ?_
  rintro _ σ ⟨snapshot, rfl, hend⟩
  exact ⟨hend.received, snapshot, rfl, hend.id ▸ hend.holds.loadSnapshot, hend.outcome,
    hend.assistantMessage⟩

end Stream

/-! ## A stream -/

namespace SampleStream

open SampleRun (url project thread turnId)

attribute [local instance] url

def turn : ConversationTurn where
  id := turnId
  idempotencyKey := "start-key"
  requestFingerprint := 0
  providerRequestFingerprint := none
  projectId := project.id
  threadId := thread.id
  userMessageId := ⟨"streamed-message", by decide⟩
  runId := ⟨"streamed-run", by decide⟩
  modelId := "grok"
  searchEnabled := false
  state := .reserved
  effectId := none
  assistantMessageId := none
  failure := none
  providerResponseId := none
  citations := []
  usage := .default
  zeroDataRetention := none
  revision := 0
  createdAt := 0
  updatedAt := 0

def run : Run := .queued turn.runId turn.projectId turn.threadId 0

/-- The effect of the provider request. -/
def effect : SideEffect :=
  { SideEffect.prepare ⟨"effect", by decide⟩ turn.runId .externalMutation
      (providerEffectTarget turn.modelId) .nonIdempotent 0 with
    state := .executing
    revision := 1 }

def reservation : TurnReservationInput where
  turn := turn
  lineage := ⟨.original, some "credential", .xaiApiKey, 0⟩
  source := .currentThread
  userMessage := {
    id := turn.userMessageId
    threadId := turn.threadId
    role := .user
    content := "Hello"
    derivation := .original
    state := .active
    sequence := 0
    revision := 0
    createdAt := 0
    updatedAt := 0 }
  run := run
  event := ⟨0, .created⟩
  turnEvent := .created

/-- The commit of the provider boundary. -/
def boundary : ProviderStartCommit where
  turn := { turn with
    providerRequestFingerprint := some 0
    state := .providerStarted
    effectId := some effect.id
    revision := 1 }
  expectedTurnRevision := 0
  run := { run with state := .running, revision := 2 }
  expectedRunRevision := 0
  effect := effect
  events := providerStartEvents 0 effect.id
  turnEvent := .stateChanged .reserved .providerStarted

/-- The operations that start the provider of one turn. -/
def operations : List StoreOperation :=
  [.createProject project ⟨"create_project", "project-key", 0⟩,
    .createThread thread ⟨"create_thread", "thread-key", 0⟩, .reserveTurn reservation]

/-- A stream with two deltas. -/
def items : List StreamItem :=
  [.ok (.textDelta "Hel"), .ok (.textDelta "lo"), .ok (.usage ⟨1, 1, 0⟩), .ok (.completed none)]

/-- The provider boundary is accepted. -/
lemma boundary_committed : ∃ started,
    (commitProviderStart (State.empty.run operations) boundary).1 = .ok started := by
  have hcomm : (commitProviderStart (State.empty.run operations) boundary).1.isOk = true := by
    decide +kernel
  exact Except.isOk_iff.1 hcomm

/-- The sample turn is consumed as the theorem says. -/
theorem sample_stream_exact : ∃ started,
    loadSnapshot (State.empty.run (operations ++ [.commitProviderStart boundary])) started.turn.id
      = .ok started ∧
    (consumeStream started items).wp (streamContract started.turn.id items) (fun result σ =>
      (∃ rest, durableText σ.1 started.turn.id ++ rest = deltaText (items.take σ.2)) ∧
      ∃ snapshot, result = .ok snapshot ∧
        loadSnapshot σ.1 started.turn.id = .ok snapshot ∧
        StreamOutcome items (durableText σ.1 started.turn.id) snapshot.turn.state ∧
        (snapshot.turn.state = .completed →
          snapshot.assistantMessage.map Message.content = some (deltaText items)))
      (State.empty.run (operations ++ [.commitProviderStart boundary]), 0) := by
  obtain ⟨started, hstd⟩ := boundary_committed
  have hrun : State.empty.run (operations ++ [.commitProviderStart boundary])
      = (commitProviderStart (State.empty.run operations) boundary).2 := by
    rfl
  have hcommitted : commitProviderStart (State.empty.run operations) boundary
      = (.ok started, State.empty.run (operations ++ [.commitProviderStart boundary])) :=
    Prod.ext hstd hrun.symm
  obtain ⟨hholds, hsta, hfresh⟩ :=
    commitProviderStart_fresh (run_consistent operations) hcommitted
  exact ⟨started, hholds.loadSnapshot,
    consume_stream_exact rfl hholds.loadSnapshot hsta hfresh items⟩

end SampleStream

end GrokDesktop
