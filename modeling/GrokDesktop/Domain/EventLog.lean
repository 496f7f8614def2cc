import GrokDesktop.Domain.Conversation
import Mathlib.Data.List.Induction

/-!
# Event logs

What the projection of a turn's event stream keeps: it belongs to one turn, its state follows the
lifecycle, and its text is the concatenation of the texts of the events.
-/

namespace GrokDesktop

open Except

/-- The text that an event appends. -/
def ConversationTurnEventKind.text : ConversationTurnEventKind → String
  | .textAppended _ text => text
  | .created | .stateChanged _ _ => ""

/-- The concatenation of the texts of an event stream. -/
def appendedText (events : List ConversationTurnEvent) : String :=
  events.foldl (fun text event => text ++ event.kind.text) ""

/-- A lifecycle event appends no text. -/
theorem appendedText_concat (events : List ConversationTurnEvent) (event : ConversationTurnEvent) :
    appendedText (events ++ [event]) = appendedText events ++ event.kind.text := by
  simp [appendedText]

namespace ConversationTurnEventLog

variable {log log' : ConversationTurnEventLog} {event : ConversationTurnEvent}

/-- What a log does with the events of each kind. -/
theorem appendEvent_cases (h : log.appendEvent event = .ok log') :
    (event.kind = .created ∧ log.state = none ∧ log.lastSequence = 0 ∧
      log' = { log with state := some .reserved, lastSequence := log.lastSequence + 1 }) ∨
    (∃ src target, event.kind = .stateChanged src target ∧ log.state = some src ∧
      src.permits target = true ∧
      log' = { log with state := some target, lastSequence := log.lastSequence + 1 }) ∨
    ∃ offset text, event.kind = .textAppended offset text ∧ log.state = some .providerStarted ∧
      log.textEvents < maxConversationTextEvents ∧ log' = { log with
        text := log.text ++ text
        textEvents := log.textEvents + 1
        lastSequence := log.lastSequence + 1 } := by
  simp only [appendEvent, ConversationTurnEvent.restore, bind_eq_ok, return_eq_ok, okOr_eq_ok,
    rejectIf_eq_ok, not_not, checkedAdd_eq_some] at h
  obtain ⟨_, ⟨_, -, _, -, rfl⟩, _, -, _, ⟨-, rfl⟩, _, hseq, _, -, hproj⟩ := h
  rw [hseq] at hproj
  cases hkind : event.kind with
  | created =>
    simp only [project, hkind, bind_eq_ok, rejectIf_eq_ok, exists_const, not_or, not_not,
      Option.not_isSome_iff_eq_none, return_eq_ok] at hproj
    obtain ⟨⟨hnone, hone⟩, rfl⟩ := hproj
    exact .inl ⟨rfl, hnone, Nat.succ.inj hone, rfl⟩
  | stateChanged src target =>
    simp only [project, hkind, bind_eq_ok, rejectIf_eq_ok, exists_const, not_not, Bool.not_eq_true,
      Bool.not_eq_false', return_eq_ok] at hproj
    obtain ⟨hsrc, hperm, rfl⟩ := hproj
    exact .inr (.inl ⟨src, target, rfl, hsrc, hperm, rfl⟩)
  | textAppended offset text =>
    simp only [project, hkind, bind_eq_ok, rejectIf_eq_ok, exists_const, not_not, not_le,
      return_eq_ok] at hproj
    obtain ⟨hsta, hroom, -, -, rfl⟩ := hproj
    exact .inr (.inr ⟨offset, text, rfl, hsta, hroom, rfl⟩)

/-- What an accepted event adds to a log. -/
lemma appendEvent_eq_ok (h : log.appendEvent event = .ok log') :
    log'.turnId = log.turnId ∧ log'.text = log.text ++ event.kind.text ∧
      ∀ offset text, event.kind = .textAppended offset text → log'.state = log.state := by
  obtain ⟨hkind, -, -, rfl⟩ | ⟨_, _, hkind, -, -, rfl⟩ | ⟨_, _, hkind, -, -, rfl⟩ :=
    appendEvent_cases h
  all_goals simp [hkind, ConversationTurnEventKind.text]

variable {turnId : ConversationTurnId} {events : List ConversationTurnEvent}

variable {kind : ConversationTurnEventKind}

/-- The next event of a log continues it. -/
theorem appendKind_eq_ok :
    log.appendKind kind = .ok (event, log') ↔
      log.lastSequence + 1 ≤ u64Max ∧ event = ⟨log.lastSequence + 1, log.turnId, kind⟩ ∧
        log.appendEvent event = .ok log' := by
  simp only [appendKind, bind_eq_ok, okOr_eq_ok, checkedAdd, pair_eq_ok,
    Option.ite_none_right_eq_some, Option.some.injEq]
  constructor
  · rintro ⟨_, ⟨hle, rfl⟩, _, happ, rfl, rfl⟩
    exact ⟨hle, rfl, happ⟩
  · rintro ⟨hle, rfl, happ⟩
    exact ⟨_, ⟨hle, rfl⟩, _, happ, rfl, rfl⟩

/-- The event that a log accepts is the next one, and its log has not ended. -/
theorem appendEvent_next (h : log.appendEvent event = .ok log') :
    log.appendKind event.kind = .ok (event, log') ∧
      log.state.any ConversationTurnState.isTerminal = false ∧
      ∀ offset text, event.kind = .textAppended offset text → offset = log.text.utf8ByteSize := by
  have happ := h
  simp only [appendEvent, ConversationTurnEvent.restore, bind_eq_ok, return_eq_ok, okOr_eq_ok,
    rejectIf_eq_ok, not_not, checkedAdd_eq_some, Bool.not_eq_true] at h
  obtain ⟨_, ⟨_, -, _, -, rfl⟩, _, hturn, _, ⟨hroom, rfl⟩, _, hseq, _, hlive, hproj⟩ := h
  refine ⟨appendKind_eq_ok.2 ⟨hroom, ?_, happ⟩, hlive, ?_⟩
  · rw [← hseq, ← hturn]
  · intro offset text hkind
    simp only [project, hkind, bind_eq_ok, rejectIf_eq_ok, not_not] at hproj
    obtain ⟨_, -, _, -, _, hoff, -⟩ := hproj
    exact hoff

lemma appendEvent_progress (h : log.appendEvent event = .ok log') :
    log'.lastSequence = log.lastSequence + 1 ∧ log'.state ≠ none := by
  obtain ⟨-, -, -, rfl⟩ | ⟨_, _, -, -, -, rfl⟩ | ⟨_, _, -, hsta, -, rfl⟩ := appendEvent_cases h
  · simp
  · simp
  · simp [hsta]

/-! ## Appended events -/

/-- The events that some appends to an empty log return, and the log that they leave. -/
inductive Appended (turnId : ConversationTurnId) :
    List ConversationTurnEvent → ConversationTurnEventLog → Prop where
  | new : Appended turnId [] (new turnId)
  | append {events : List ConversationTurnEvent} {log log' : ConversationTurnEventLog}
      {kind : ConversationTurnEventKind} {event : ConversationTurnEvent}
      (h : Appended turnId events log) (happend : log.appendKind kind = .ok (event, log')) :
      Appended turnId (events ++ [event]) log'

/-- The appended events are those that the log can be read from. -/
theorem appended_iff :
    Appended turnId events log ↔ events.foldlM appendEvent (new turnId) = .ok log := by
  constructor
  · intro h
    induction h with
    | new => rfl
    | append _ happ ih =>
      rw [List.foldlM_append, ih, ok_bind, List.foldlM_cons, (appendKind_eq_ok.1 happ).2.2]
      rfl
  · intro h
    induction events using List.reverseRecOn generalizing log with
    | nil =>
      cases h
      exact .new
    | append_singleton events event ih =>
      rw [List.foldlM_append, bind_eq_ok] at h
      obtain ⟨before, hbef, h⟩ := h
      rw [List.foldlM_cons, bind_eq_ok] at h
      obtain ⟨next, happ, ⟨⟩⟩ := h
      exact (ih hbef).append (appendEvent_next happ).1

/-- What a log is after its events. -/
lemma Appended.log_eq (h : Appended turnId events log) :
    log.turnId = turnId ∧ log.lastSequence = events.length ∧ log.text = appendedText events ∧
      (log.state = none ↔ events = []) := by
  induction h with
  | new => simp [ConversationTurnEventLog.new, appendedText]
  | append _ happ ih =>
    obtain ⟨-, -, happ⟩ := appendKind_eq_ok.1 happ
    obtain ⟨hturn, hlast, htext, -⟩ := ih
    obtain ⟨hturn', htext', -⟩ := appendEvent_eq_ok happ
    obtain ⟨hlast', hsome⟩ := appendEvent_progress happ
    simp [hturn', hturn, hlast', hlast, htext', htext, appendedText_concat, hsome]

/-- Restoring accepts the appended events. -/
lemma restore_iff_appended :
    restore turnId events = .ok log ↔ events ≠ [] ∧ Appended turnId events log := by
  simp only [restore, bind_eq_ok, return_eq_ok, rejectIf_eq_ok, ← appended_iff]
  constructor
  · rintro ⟨_, happ, _, hsome, rfl⟩
    refine ⟨fun hnil => hsome ?_, happ⟩
    rw [happ.log_eq.2.2.2.2 hnil]
    rfl
  · rintro ⟨hne, happ⟩
    refine ⟨log, happ, (), fun hnone => hne ?_, rfl⟩
    exact happ.log_eq.2.2.2.1 (Option.isNone_iff_eq_none.1 hnone)

/-- What holds of the empty log and is kept by every event holds of every restored log. -/
lemma restore_invariant {J : ConversationTurnEventLog → Prop} (hnew : J (new turnId))
    (hstep : ∀ log event log', J log → log.appendEvent event = .ok log' → J log')
    (h : restore turnId events = .ok log) : J log := by
  obtain ⟨-, happended⟩ := restore_iff_appended.1 h
  clear h
  induction happended with
  | new => exact hnew
  | append _ happ ih => exact hstep _ _ _ ih (appendKind_eq_ok.1 happ).2.2

lemma restore_text (h : restore turnId events = .ok log) : log.text = appendedText events :=
  (restore_iff_appended.1 h).2.log_eq.2.2.1

/-- A log fits a turn when it is in the turn's state and its text is the assistant's text, for a
completed turn. -/
theorem validateSnapshot_eq_ok {turn : ConversationTurn} {assistantText : Option String} :
    log.validateSnapshot turn assistantText = .ok () ↔
      log.turnId = turn.id ∧ log.state = some turn.state ∧
        (turn.state = .completed → log.text ≠ "" ∧ assistantText = some log.text) ∧
        (turn.state ≠ .completed → assistantText = none) := by
  simp only [validateSnapshot, bind_eq_ok]
  cases turn.state <;> simp [and_assoc]

/-- Restoring an extended event stream continues the restored log. -/
theorem restore_append {more : List ConversationTurnEvent}
    (h : restore turnId events = .ok log) (hmore : more.foldlM appendEvent log = .ok log') :
    restore turnId (events ++ more) = .ok log' := by
  obtain ⟨hne, happ⟩ := restore_iff_appended.1 h
  refine restore_iff_appended.2 ⟨List.append_ne_nil_of_left_ne_nil hne _, appended_iff.2 ?_⟩
  rw [List.foldlM_append, appended_iff.1 happ]
  exact hmore

lemma restore_singleton
    (h : (new turnId).appendKind kind = .ok (event, log)) : restore turnId [event] = .ok log :=
  restore_iff_appended.2 ⟨List.cons_ne_nil _ _, Appended.new.append h⟩

/-! ## Text before the provider -/

/-- A turn whose provider has not started has no text. -/
def Silent (log : ConversationTurnEventLog) : Prop :=
  log.state = none ∨ log.state = some .reserved → log.text = ""

lemma Silent.appendEvent (hlog : Silent log) (h : log.appendEvent event = .ok log') :
    Silent log' := by
  obtain ⟨-, hnone, -, rfl⟩ | ⟨src, target, -, -, hperm, rfl⟩ | ⟨_, _, -, hsta, -, rfl⟩ :=
    appendEvent_cases h
  · exact fun _ => hlog (.inl hnone)
  · -- no edge leads back to a reserved turn
    cases src <;> cases target <;> simp_all [ConversationTurnState.permits, Silent]
  · simp [Silent, hsta]

/-- A reserved turn has no text. -/
lemma text_of_reserved (h : restore turnId events = .ok log)
    (hsta : log.state = some .reserved) :
    log.text = "" := by
  have hsil : Silent log :=
    restore_invariant (J := Silent) (fun _ => rfl) (fun _ _ _ hlog => hlog.appendEvent) h
  exact hsil (.inr hsta)

/-! ## Length -/

/-- How many lifecycle events lead to a state at most. -/
def stage : Option ConversationTurnState → ℕ
  | none => 0
  | some .reserved => 1
  | some .providerStarted => 2
  | some _ => 3

/-- The sequence of a log counts its lifecycle and text events, and the text events are bounded. -/
def Bounded (log : ConversationTurnEventLog) : Prop :=
  log.lastSequence ≤ stage log.state + log.textEvents ∧ log.textEvents ≤ maxConversationTextEvents

/-- Each event adds one to the sequence and to the stage or the text events. -/
theorem Bounded.appendEvent (hlog : Bounded log) (h : log.appendEvent event = .ok log') :
    Bounded log' := by
  obtain ⟨hlast, htext⟩ := hlog
  obtain ⟨-, -, hzero, rfl⟩ | ⟨src, target, -, hsrc, hperm, rfl⟩ |
    ⟨_, _, -, -, hroom, rfl⟩ := appendEvent_cases h
  · exact ⟨by simp [stage, hzero], htext⟩
  · refine ⟨?_, htext⟩
    cases src <;> cases target <;> simp_all [stage, ConversationTurnState.permits] <;> omega
  · refine ⟨?_, hroom⟩
    dsimp only
    omega

/-- A restored log keeps the bounds. -/
lemma bounded_of_restore (h : restore turnId events = .ok log) : Bounded log :=
  restore_invariant ⟨by simp [new], by simp [new]⟩ (fun _ _ _ hlog => hlog.appendEvent) h

/-- A log in progress accepts the event of any move of its turn. -/
theorem appendKind_stateChanged {src target : ConversationTurnState} (hlog : Bounded log)
    (hsta : log.state = some src) (hperm : src.permits target = true) :
    ∃ event log', log.appendKind (.stateChanged src target) = .ok (event, log') ∧
      event.kind = .stateChanged src target ∧ log'.turnId = log.turnId ∧
      log'.state = some target ∧ log'.text = log.text := by
  have hroom : log.lastSequence + 1 ≤ u64Max := by
    obtain ⟨hlast, htext⟩ := hlog
    have hstage : stage log.state ≤ 3 := by
      rw [hsta]
      cases src <;> decide
    have hmax : 3 + maxConversationTextEvents + 1 ≤ u64Max := by decide
    omega
  have hlive : src.isTerminal = false := by
    cases hend : src.isTerminal with
    | false => rfl
    | true =>
      rw [ConversationTurnState.permits_of_isTerminal hend] at hperm
      cases hperm
  refine ⟨⟨log.lastSequence + 1, log.turnId, .stateChanged src target⟩,
    { log with state := some target, lastSequence := log.lastSequence + 1 }, ?_, rfl, rfl, rfl,
    rfl⟩
  refine appendKind_eq_ok.2 ⟨hroom, rfl, ?_⟩
  simp [appendEvent, ConversationTurnEvent.restore, validateTurnEventKind, project, hsta,
    hperm, hlive, checkedAdd, hroom, bind_eq_ok]

end ConversationTurnEventLog

end GrokDesktop
