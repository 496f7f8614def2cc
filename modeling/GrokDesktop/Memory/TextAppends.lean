import GrokDesktop.Memory.Family
import GrokDesktop.Memory.Outcomes

/-!
# Appended text

An append at the end of the durable text stores it in chunks. An append at an earlier offset changes
nothing: it is answered with the stored events from that offset on if whole events of them spell its
text, so a call that was accepted once is answered with its events ever after.
-/

namespace GrokDesktop

open Except Table ConversationTurnEventLog

/-- Text events that follow each other from a byte offset on and spell a text in chunks. -/
inductive Spells : ℕ → List ConversationTurnEvent → String → Prop
  | nil {off : ℕ} : Spells off [] ""
  | cons {off : ℕ} {e : ConversationTurnEvent} {chunk text : String}
      {rest : List ConversationTurnEvent} (hkind : e.kind = .textAppended off chunk)
      (hne : chunk ≠ "") (hle : chunk.utf8ByteSize ≤ maxConversationTextChunkBytes)
      (hrest : Spells (off + chunk.utf8ByteSize) rest text) :
      Spells off (e :: rest) (chunk ++ text)

section TextAppends

variable {turnId : ConversationTurnId} {log log' : ConversationTurnEventLog}
  {e : ConversationTurnEvent} {evs pre post replay : List ConversationTurnEvent}
  {off start : ℕ} {text acc : String} {s s' : State} {found : Bool}

lemma utf8ByteSize_pos (h : text ≠ "") : 0 < text.utf8ByteSize :=
  Nat.pos_of_ne_zero fun hz => h (String.utf8ByteSize_eq_zero_iff.1 hz)

/-- A text event that a log accepts continues its text by a chunk. -/
lemma chunk_of_appendEvent (h : log.appendEvent e = .ok log')
    (hkind : e.kind = .textAppended off text) :
    off = log.text.utf8ByteSize ∧ text ≠ "" ∧
      text.utf8ByteSize ≤ maxConversationTextChunkBytes := by
  refine ⟨(appendEvent_next h).2.2 _ _ hkind, ?_⟩
  simp only [appendEvent, ConversationTurnEvent.restore, hkind, validateTurnEventKind, bind_eq_ok,
    rejectIf_eq_ok, not_or, not_lt] at h
  obtain ⟨_, ⟨_, -, _, ⟨_, ⟨hne, hle, -⟩, -⟩, -⟩, -⟩ := h
  exact ⟨fun hemp => hne (by rw [hemp]; rfl), hle⟩

/-- The stored text events of a log have their offsets within its text. -/
lemma chunk_of_appended (h : Appended turnId evs log) (hmem : e ∈ evs)
    (hkind : e.kind = .textAppended off text) :
    off < log.text.utf8ByteSize ∧ text ≠ "" ∧
      text.utf8ByteSize ≤ maxConversationTextChunkBytes := by
  induction h with
  | new => cases hmem
  | @append evs log next kind last _ happ ih =>
    obtain ⟨-, -, happ⟩ := appendKind_eq_ok.1 happ
    obtain ⟨-, htext, -⟩ := appendEvent_eq_ok happ
    rw [htext, String.utf8ByteSize_append]
    rcases List.mem_append.1 hmem with hold | hlast
    · obtain ⟨hlt, hchunk⟩ := ih hold
      exact ⟨Nat.lt_add_right _ hlt, hchunk⟩
    · rw [List.mem_singleton.1 hlast] at hkind
      obtain ⟨rfl, hchunk⟩ := chunk_of_appendEvent happ hkind
      rw [hkind]
      exact ⟨Nat.lt_add_of_pos_right (utf8ByteSize_pos hchunk.1), hchunk⟩

/-- The chunks of a text are stored one after the other. -/
lemma spells_of_appendChunks {chunks : List String}
    (h : appendChunks log chunks = .ok (evs, log')) :
    ∃ text, Spells log.text.utf8ByteSize evs text ∧ log'.text = log.text ++ text := by
  induction chunks generalizing log evs with
  | nil =>
    cases h
    exact ⟨"", .nil, by simp⟩
  | cons chunk rest ih =>
    simp only [appendChunks, bind_eq_ok, Prod.exists] at h
    obtain ⟨e, next, happ, evs', _, hrest, rfl, rfl⟩ := h
    obtain ⟨-, hev, happ⟩ := appendKind_eq_ok.1 happ
    have hkind : e.kind = .textAppended log.text.utf8ByteSize chunk := by rw [hev]
    obtain ⟨-, htext, -⟩ := appendEvent_eq_ok happ
    obtain ⟨-, hne, hle⟩ := chunk_of_appendEvent happ hkind
    obtain ⟨text, hspel, heq⟩ := ih hrest
    rw [hkind] at htext
    rw [htext] at hspel heq
    rw [String.utf8ByteSize_append] at hspel
    exact ⟨chunk ++ text, .cons hkind hne hle hspel, by rw [heq, String.append_assoc]; rfl⟩

lemma Spells.eq_nil (h : Spells off evs text) (htext : text = "") : evs = [] := by
  cases h with
  | nil => rfl
  | cons _ hne => simp_all

lemma Spells.head (h : Spells off evs text) (htext : text ≠ "") :
    ∃ e ∈ evs, ∃ chunk, e.kind = .textAppended off chunk := by
  cases h with
  | nil => exact absurd rfl htext
  | cons hkind => exact ⟨_, List.mem_cons_self, _, hkind⟩

/-! ## Replays -/

/-- The events before the start are passed over. -/
lemma replayTextFrom_skip (h : ∀ e ∈ pre, ∀ text, e.kind ≠ .textAppended start text) :
    replayTextFrom start text false acc off replay (pre ++ evs)
      = replayTextFrom start text false acc off replay evs := by
  induction pre with
  | nil => rfl
  | cons e pre ih =>
    have hrest := ih fun e he => h e (List.mem_cons_of_mem _ he)
    have hev := h e List.mem_cons_self
    rw [List.cons_append, replayTextFrom]
    split
    · rename_i at_ chunk hkind
      have hne : at_ ≠ start := fun heq => hev chunk (heq ▸ hkind)
      rw [if_pos (by simp [hne]), hrest]
    · rw [if_neg (by simp), hrest]

/-- The events that spell the rest of the expected text are collected. -/
lemma replayTextFrom_spelled (acc : String) (replay : List ConversationTurnEvent) {rest : String}
    (h : Spells off evs rest) (hne : rest ≠ "") (hfnd : found = true ∨ off = start) :
    replayTextFrom start (acc ++ rest) found acc off replay (evs ++ post)
      = some (replay ++ evs) := by
  induction h generalizing found acc replay with
  | nil => exact absurd rfl hne
  | @cons off e chunk rest more hkind hchunk _ hspel ih =>
    have hpos := utf8ByteSize_pos hchunk
    have hskip : ¬ (!found ∧ off ≠ start) := by
      rcases hfnd with rfl | rfl <;> simp
    rw [List.cons_append, replayTextFrom, hkind]
    simp only [hskip, if_false, String.utf8ByteSize_append]
    rw [if_neg (by omega)]
    by_cases hlast : rest = ""
    · rw [hspel.eq_nil hlast, hlast]
      simp
    · have hmore := utf8ByteSize_pos hlast
      rw [if_neg (by omega), ← String.append_assoc, ih _ _ hlast (.inl rfl), List.append_assoc]
      rfl

/-- What a replay collects: whole events that spell the rest of the expected text. The first of
them is the next event once the start is found. -/
def Collected (found : Bool) (off : ℕ) (acc expected : String)
    (replay evs result : List ConversationTurnEvent) : Prop :=
  ∃ pre more post text, evs = pre ++ more ++ post ∧ result = replay ++ more ∧
    Spells off more text ∧ acc ++ text = expected ∧ (found = true → pre = [])

lemma collected_of_replayTextFrom {expected : String} {result : List ConversationTurnEvent}
    (hchunks : ∀ e ∈ evs, ∀ off text, e.kind = .textAppended off text →
      text ≠ "" ∧ text.utf8ByteSize ≤ maxConversationTextChunkBytes)
    (h : replayTextFrom start expected found acc off replay evs = some result) :
    Collected found off acc expected replay evs result := by
  induction evs generalizing found acc off replay with
  | nil =>
    rw [replayTextFrom, Option.ite_none_right_eq_some] at h
    obtain ⟨⟨-, heq⟩, ⟨⟩⟩ := h
    exact ⟨[], [], [], "", rfl, by simp, .nil, by simp [heq], fun _ => rfl⟩
  | cons e rest ih =>
    have hmore := fun x hx => hchunks x (List.mem_cons_of_mem _ hx)
    have hskip : Collected false off acc expected replay rest result →
        Collected false off acc expected replay (e :: rest) result := by
      rintro ⟨pre, more, post, text, rfl, hres, hspells, heq, -⟩
      exact ⟨e :: pre, more, post, text, rfl, hres, hspells, heq, nofun⟩
    rw [replayTextFrom] at h
    split at h
    · rename_i at_ chunk hkind
      split at h
      · rename_i hbef
        obtain rfl : found = false := by simpa using hbef.1
        exact hskip (ih hmore h)
      split at h
      · cases h
      rename_i hnext
      obtain rfl : at_ = off := not_not.1 (not_or.1 hnext).1
      obtain ⟨hne, hle⟩ := hchunks e List.mem_cons_self _ _ hkind
      dsimp only at h
      split at h
      · rw [Option.ite_none_right_eq_some] at h
        obtain ⟨heq, ⟨⟩⟩ := h
        exact ⟨[], [e], rest, chunk ++ "", rfl, rfl, .cons hkind hne hle .nil,
          by simp [heq], fun _ => rfl⟩
      · obtain ⟨pre, more, post, text, rfl, rfl, hspells, heq, hpre⟩ := ih hmore h
        obtain rfl := hpre rfl
        exact ⟨[], e :: more, post, chunk ++ text, rfl, by simp, .cons hkind hne hle hspells,
          by rw [← String.append_assoc, heq], fun _ => rfl⟩
    · split at h
      · rw [Option.ite_none_right_eq_some] at h
        obtain ⟨heq, ⟨⟩⟩ := h
        exact ⟨[], [], e :: rest, "", rfl, by simp, .nil, by simp [heq], fun _ => rfl⟩
      · obtain rfl : found = false := by simp_all
        exact hskip (ih hmore h)

/-! ## Appends -/

/-- The store after some calls. -/
def State.appendAll (s : State) (calls : List TurnTextAppend) : State :=
  calls.foldl (fun s call => (appendTurnText s call).2) s

/-- A turn whose log goes on from some events. -/
def GoesOn (s : State) (turn : ConversationTurn) (old : List ConversationTurnEvent) : Prop :=
  s.conversationTurns.lookup turn.id = some turn ∧ ∃ more,
    s.conversationEvents.lookup turn.id = some (old ++ more) ∧ Logs (old ++ more) turn none

variable {turn : ConversationTurn} {old : List ConversationTurnEvent} {call : TurnTextAppend}

/-- A log goes on after every append. -/
theorem GoesOn.step (h : GoesOn s turn old) (call : TurnTextAppend) :
    GoesOn (appendTurnText s call).2 turn old := by
  unfold appendTurnText
  split
  · exact h
  · exact h
  · rename_i evs hchk
    obtain ⟨turn', log, log', hchk⟩ := checkedTextAppend_eq_ok hchk
    obtain ⟨hturn, more, hsto, hlogs⟩ := h
    refine ⟨hturn, ?_⟩
    by_cases hid : turn.id = call.turnId
    · rw [hid] at hturn hsto
      obtain rfl := Option.some.inj (hturn.symm.trans hchk.stored)
      have hlogs' := hchk.logs hid
      rw [hsto, Option.getD_some, List.append_assoc] at hlogs'
      refine ⟨more ++ evs, ?_, hlogs'⟩
      rw [hid]
      simp [State.writeTurnText, hsto]
    · exact ⟨more, by simp [State.writeTurnText, hid, hsto], hlogs⟩

lemma GoesOn.appends (h : GoesOn s turn old) (later : List TurnTextAppend) :
    GoesOn (s.appendAll later) turn old := by
  induction later generalizing s with
  | nil => exact h
  | cons call later ih => exact ih (h.step call)

/-- The stored events of an append at the end are its chunks. -/
lemma TextChecked.spells (h : TextChecked s call evs turn log log') :
    Spells log.text.utf8ByteSize evs call.text ∧ log'.text = log.text ++ call.text := by
  obtain ⟨text, hspel, heq⟩ := spells_of_appendChunks h.appended
  obtain ⟨-, -, -, htext⟩ := appendChunks_eq_ok h.appended
  rw [foldl_splitConversationText] at htext
  obtain rfl : text = call.text := by
    rw [heq] at htext
    simpa using htext
  exact ⟨hspel, htext⟩

/-- A repeated append is answered with its events. -/
theorem GoesOn.replays (h : GoesOn s turn (old ++ evs)) (hid : turn.id = call.turnId)
    (hne : call.text.isEmpty = false) (hrev : turn.revision = call.expectedTurnRevision)
    (hsta : turn.state = .providerStarted) (hrest : restore call.turnId old = .ok log)
    (hoff : call.startUtf8Offset = log.text.utf8ByteSize)
    (hspells : Spells call.startUtf8Offset evs call.text) :
    appendTurnText s call = (.ok evs, s) := by
  obtain ⟨hturn, more, hsto, last, hlast, hval⟩ := h
  rw [hid] at hturn hsto hlast
  have hlog : conversationEventLog s call.turnId = .ok last :=
    conversationEventLog_eq_ok.2 ⟨_, hsto, hlast⟩
  have htext : call.text ≠ "" := fun heq => by simp [heq] at hne
  have hlt : call.startUtf8Offset < last.text.utf8ByteSize := by
    obtain ⟨e, hmem, chunk, hkind⟩ := hspells.head htext
    exact (chunk_of_appended (restore_iff_appended.1 hlast).2 (by simp [hmem]) hkind).1
  have hrepl : replayedTextAppend (old ++ (evs ++ more)) call.startUtf8Offset call.text
      = some evs := by
    rw [replayedTextAppend, replayTextFrom_skip]
    · simpa using replayTextFrom_spelled "" [] hspells htext (.inr rfl)
    · intro e hmem text hkind
      exact absurd (chunk_of_appended (restore_iff_appended.1 hrest).2 hmem hkind).1 (by omega)
  have hchk : checkedTextAppend s call = .ok (evs, false) := by
    simp [checkedTextAppend, hne, hturn, hrev, hsta, hlog, hval, hlt, hsto, hrepl, rejectIf]
  rw [appendTurnText, hchk]

/-- An append at the end of the durable text is exact, and every later repetition of it returns its
events and changes nothing. A call at another offset changes nothing, and it succeeds only with
whole stored events that spell its text from that offset on. -/
theorem append_exact_and_replayed :
    (∀ s call evs s', appendTurnText s call = (.ok evs, s') →
      call.startUtf8Offset = (durableText s call.turnId).utf8ByteSize →
      durableText s' call.turnId = durableText s call.turnId ++ call.text ∧
      Spells call.startUtf8Offset evs call.text ∧
      ∀ later, appendTurnText (s'.appendAll later) call = (.ok evs, s'.appendAll later)) ∧
    ∀ s call, call.startUtf8Offset ≠ (durableText s call.turnId).utf8ByteSize →
      (appendTurnText s call).2 = s ∧ ∀ evs, (appendTurnText s call).1 = .ok evs →
        ∃ pre post, s.conversationEvents.lookup call.turnId = some (pre ++ evs ++ post) ∧
          Spells call.startUtf8Offset evs call.text := by
  refine ⟨fun s call evs s' h hoff => ?_, fun s call hoff => ?_⟩
  · unfold appendTurnText at h
    cases hchk : checkedTextAppend s call with
    | error e => simp [hchk] at h
    | ok result =>
      obtain ⟨_, new⟩ := result
      obtain ⟨turn, old, log, hne, hturn, hrev, hsto, hrest, hcase⟩ :=
        checkedTextAppend_cases hchk
      rw [durableText_eq hsto hrest] at hoff ⊢
      rw [if_neg (by omega)] at hcase
      obtain ⟨rfl, -, log', happ⟩ := hcase
      rw [hchk] at h
      obtain ⟨⟨⟩, rfl⟩ := Prod.mk.inj h
      obtain ⟨hspells, htext⟩ := happ.spells
      have hid : turn.id = call.turnId := by
        rw [← (validateSnapshot_eq_ok.1 happ.valid).1, (restore_iff_appended.1 hrest).2.log_eq.1]
      have hsto' : (s.writeTurnText call evs).conversationEvents.lookup call.turnId
          = some (old ++ evs) := by
        simp [State.writeTurnText, hsto]
      have hlogs := happ.logs hid
      rw [hsto, Option.getD_some] at hlogs
      rw [← hoff] at hspells
      refine ⟨?_, hspells, ?_⟩
      · rw [← htext]
        exact durableText_eq hsto' (restore_append hrest (appendChunks_eq_ok happ.appended).1)
      · intro later
        have hgoes : GoesOn (s.writeTurnText call evs) turn (old ++ evs) := by
          rw [← List.append_nil (old ++ evs)] at hsto' hlogs
          exact ⟨hid ▸ hturn, [], hid ▸ hsto', hlogs⟩
        exact (hgoes.appends later).replays hid hne hrev happ.started hrest hoff hspells
  · unfold appendTurnText
    cases hchk : checkedTextAppend s call with
    | error e => exact ⟨rfl, fun _ heq => by cases heq⟩
    | ok result =>
      obtain ⟨_, new⟩ := result
      obtain ⟨turn, old, log, -, -, -, hsto, hrest, hcase⟩ := checkedTextAppend_cases hchk
      rw [durableText_eq hsto hrest] at hoff
      split at hcase
      · obtain ⟨rfl, hreplay⟩ := hcase
        refine ⟨rfl, fun evs heq => ?_⟩
        cases heq
        obtain ⟨pre, more, post, text, rfl, rfl, hspells, heq, -⟩ := collected_of_replayTextFrom
          (fun e hmem off text hkind =>
            (chunk_of_appended (restore_iff_appended.1 hrest).2 hmem hkind).2) hreplay
        exact ⟨pre, post, hsto, heq ▸ hspells⟩
      · exact absurd hcase.2.1 hoff

end TextAppends

namespace MovedRail

attribute [local instance] url

/-- The source turn, once its provider has started. -/
def startedStore : Option State := do
  let effectId : EffectId := ⟨"effect", rfl⟩
  let started ← (turn.startProvider effectId 0 0).toOption
  let running ← (dispatchedRun queued 0).toOption
  let effect ← (startedProviderEffect effectId queued.id turn.modelId 0).toOption
  return .run .empty (operations.take 3 ++ [.commitProviderStart {
    turn := started
    expectedTurnRevision := 0
    run := running
    expectedRunRevision := 0
    effect := effect
    events := providerStartEvents 0 effectId
    turnEvent := .stateChanged .reserved .providerStarted }])

def textCall (off : ℕ) (text : String) : TurnTextAppend := ⟨turn.id, 1, off, text⟩

/-- The texts of two calls are accepted together as those of a third one. -/
theorem merged_append_accepted :
    ¬ ∀ (s : State) (calls : List TurnTextAppend) (call : TurnTextAppend),
      durableText s call.turnId = "" → call ∉ calls →
      call.startUtf8Offset ≠ (durableText (s.appendAll calls) call.turnId).utf8ByteSize →
      (appendTurnText (s.appendAll calls) call).1.isOk = false := by
  intro h
  have hrejected := h (startedStore.getD .empty) [textCall 0 "ab", textCall 2 "cd"]
    (textCall 0 "abcd") (by decide +kernel) (by decide +kernel) (by decide +kernel)
  exact absurd hrejected (by decide +kernel)

end MovedRail

end GrokDesktop
