import GrokDesktop.Domain.EventLog

/-!
# Histories

A stored event log is restored exactly when it can be appended event by event, and a stored turn
exactly when the calls of its lifecycle lead to it.
-/

namespace GrokDesktop

open Except

namespace ConversationTurnEventLog

/-! ## Appending in place -/

section InPlace

open MonadExcept (ofExcept)

/-- `append_event` as the source has it: the fields of the log are assigned one after the other. -/
def appendEventInPlace (event : ConversationTurnEvent) :
    ExceptT ConversationTurnEventError (StateM ConversationTurnEventLog) Unit := do
  let event ← ofExcept event.restore
  let log ← get
  ofExcept (rejectIf (event.turnId ≠ log.turnId) .wrongTurn)
  let expectedSequence ← ofExcept (okOr (checkedAdd log.lastSequence 1) .invalidSequence)
  ofExcept (rejectIf (event.sequence ≠ expectedSequence) .invalidSequence)
  ofExcept (rejectIf (log.state.any ConversationTurnState.isTerminal) .invalidOrder)
  match event.kind with
  | .created => do
      ofExcept (rejectIf (log.state.isSome ∨ event.sequence ≠ 1) .invalidOrder)
      modify fun log => { log with state := some .reserved }
  | .stateChanged source target => do
      ofExcept (rejectIf (log.state ≠ some source) .invalidOrder)
      ofExcept (rejectIf (!source.permits target) (.invalidTransition source target))
      modify fun log => { log with state := some target }
  | .textAppended startUtf8Offset text => do
      ofExcept (rejectIf (log.state ≠ some .providerStarted) .invalidOrder)
      ofExcept (rejectIf (maxConversationTextEvents ≤ log.textEvents) .eventLimitExceeded)
      ofExcept (rejectIf (startUtf8Offset ≠ log.text.utf8ByteSize) .invalidTextOffset)
      ofExcept (rejectIf (maxMessageBytes < log.text.utf8ByteSize + text.utf8ByteSize)
        .textLimitExceeded)
      modify fun log => { log with text := log.text ++ text }
      modify fun log => { log with textEvents := log.textEvents + 1 }
  modify fun log => { log with lastSequence := event.sequence }

/-- `append_kind` as the source has it. -/
def appendKindInPlace (kind : ConversationTurnEventKind) :
    ExceptT ConversationTurnEventError (StateM ConversationTurnEventLog) ConversationTurnEvent := do
  let log ← get
  let sequence ← ofExcept (okOr (checkedAdd log.lastSequence 1) .invalidSequence)
  let event : ConversationTurnEvent := { sequence := sequence, turnId := log.turnId, kind := kind }
  appendEventInPlace event
  return event

/-- Appending in place is the pure append. -/
lemma performs_appendEventInPlace (log : ConversationTurnEventLog)
    (event : ConversationTurnEvent) :
    Performs (appendEventInPlace event) log (log.appendEvent event) := by
  refine .check fun event => ?_
  refine .check (x := rejectIf _ _) fun _ => .check fun expected => .check fun _ =>
    .check fun _ => ?_
  cases hkind : event.kind with
  | created => exact .check fun _ => rfl
  | stateChanged src target => exact .check fun _ => .check fun _ => rfl
  | textAppended offset text =>
    exact .check fun _ => .check fun _ => .check fun _ => .check fun _ => rfl

lemma appendKindInPlace_run (log : ConversationTurnEventLog) (kind : ConversationTurnEventKind) :
    (appendKindInPlace kind).run.run log = settle log (log.appendKind kind) := by
  have hstart : (appendKindInPlace kind).run.run log =
      (ofExcept (okOr (checkedAdd log.lastSequence 1) .invalidSequence) >>= fun seq =>
        appendEventInPlace ⟨seq, log.turnId, kind⟩ >>= fun _ =>
          pure ⟨seq, log.turnId, kind⟩ :
        ExceptT _ (StateM _) ConversationTurnEvent).run.run log := rfl
  rw [hstart, appendKind]
  cases okOr (checkedAdd log.lastSequence 1) ConversationTurnEventError.invalidSequence with
  | error e => rfl
  | ok seq =>
    have happ := performs_appendEventInPlace log ⟨seq, log.turnId, kind⟩
    change StateT.run (ExceptT.run (appendEventInPlace _ >>= fun _ => pure _)) log
      = settle log (log.appendEvent _ >>= fun next => pure (_, next))
    rw [ExceptT.run_bind, StateT.run_bind, happ]
    cases log.appendEvent ⟨seq, log.turnId, kind⟩ <;> rfl

end InPlace

/-! ## The events of a log -/

variable {turnId : ConversationTurnId} {before after : List ConversationTurnEvent}
  {log : ConversationTurnEventLog} {event : ConversationTurnEvent}

/-- The log around one of its events. -/
theorem Appended.split (h : Appended turnId (before ++ event :: after) log) :
    ∃ middle next, Appended turnId before middle ∧ middle.appendEvent event = .ok next ∧
      after.foldlM appendEvent next = .ok log := by
  rw [appended_iff, List.foldlM_append, bind_eq_ok] at h
  obtain ⟨middle, hbef, h⟩ := h
  rw [List.foldlM_cons, bind_eq_ok] at h
  obtain ⟨next, happ, hafter⟩ := h
  exact ⟨middle, next, appended_iff.2 hbef, happ, hafter⟩

/-- What is known of each event of a log, from those before it. -/
structure Continues (before : List ConversationTurnEvent) (event : ConversationTurnEvent)
    (after : List ConversationTurnEvent) : Prop where
  sequence : event.sequence = before.length + 1
  offset : ∀ offset text, event.kind = .textAppended offset text →
    offset = (appendedText before).utf8ByteSize
  terminal : ∀ source target, event.kind = .stateChanged source target →
    target.isTerminal = true → after = []

/-- Each event continues those before it. -/
lemma Appended.continues (h : Appended turnId (before ++ event :: after) log) :
    Continues before event after := by
  obtain ⟨middle, next, hmidd, happ, hafter⟩ := h.split
  obtain ⟨-, hlast, htext, -⟩ := hmidd.log_eq
  obtain ⟨hkind, -, hoff⟩ := appendEvent_next happ
  obtain ⟨-, hev, -⟩ := appendKind_eq_ok.1 hkind
  refine ⟨?_, fun offset text htextual => ?_, fun src target hchan hterm => ?_⟩
  · rw [hev, hlast]
  · rw [hoff _ _ htextual, htext]
  · -- the log has ended, so it accepts no other event
    cases after with
    | nil => rfl
    | cons later after =>
      rw [List.foldlM_cons, bind_eq_ok] at hafter
      obtain ⟨_, hlat, -⟩ := hafter
      have hlive := (appendEvent_next hlat).2.1
      obtain ⟨hoth, -⟩ | ⟨_, _, hoth, -, -, rfl⟩ | ⟨_, _, hoth, -⟩ :=
        appendEvent_cases happ
      · rw [hchan] at hoth
        cases hoth
      · rw [hchan] at hoth
        cases hoth
        rw [Option.any_some, hterm] at hlive
        cases hlive
      · rw [hchan] at hoth
        cases hoth

/-- A log is restored exactly from the events that appends produce. -/
theorem restore_exactly_appended (turnId : ConversationTurnId) :
    (∀ events log, restore turnId events = .ok log ↔ events ≠ [] ∧ Appended turnId events log) ∧
    (∀ events log, Appended turnId events log → log.text = appendedText events ∧
      (∀ before event after, events = before ++ event :: after → Continues before event after) ∧
      ∀ kind event log', log.appendKind kind = .ok (event, log') →
        event = ⟨events.length + 1, turnId, kind⟩ ∧ Appended turnId (events ++ [event]) log') ∧
    ∀ (log : ConversationTurnEventLog) kind,
      (appendKindInPlace kind).run.run log = match log.appendKind kind with
        | .ok (event, log') => (.ok event, log')
        | .error e => (.error e, log) := by
  refine ⟨fun events log => restore_iff_appended, fun events log h => ⟨h.log_eq.2.2.1, ?_, ?_⟩, ?_⟩
  · rintro before event after rfl
    exact h.continues
  · intro kind event log' happ
    obtain ⟨-, hev, -⟩ := appendKind_eq_ok.1 happ
    rw [h.log_eq.1, h.log_eq.2.1] at hev
    exact ⟨hev, h.append happ⟩
  · intro log kind
    rw [appendKindInPlace_run]
    cases log.appendKind kind <;> rfl

/-- No append has been made to the empty log, which is not restored. -/
theorem empty_log_not_restored : ¬ ∀ turnId events, (restore turnId events).isOk = true ↔
    ∃ log, Appended turnId events log := by
  intro h
  have hrsd := (h ⟨"turn", by decide⟩ []).2 ⟨_, .new⟩
  cases hrsd

end ConversationTurnEventLog

namespace ConversationTurn

/-! ## Calls on a turn -/

/-- A call that moves a reserved turn on. -/
inductive Call where
  | startProvider (effectId : EffectId) (providerRequestFingerprint : Digest) (now : UnixMillis)
  | complete (assistantMessageId : MessageId) (providerResponseId : Option String)
      (citations : List ConversationCitation) (usage : ConversationUsage)
      (zeroDataRetention : Option Bool) (now : UnixMillis)
  | fail (failure : ConversationFailure) (now : UnixMillis)
  | cancel (now : UnixMillis)
  | interrupt (now : UnixMillis)

def Call.now : Call → UnixMillis
  | .startProvider _ _ now | .complete _ _ _ _ _ now | .fail _ now | .cancel now
  | .interrupt now => now

variable [UrlLibrary] {turn turn' : ConversationTurn} {now : UnixMillis}

def Call.apply (turn : ConversationTurn) : Call → Except ConversationTurnError ConversationTurn
  | .startProvider effectId fingerprint now => turn.startProvider effectId fingerprint now
  | .complete assistantMessageId providerResponseId citations usage zeroDataRetention now =>
      turn.complete assistantMessageId providerResponseId citations usage zeroDataRetention now
  | .fail failure now => turn.fail failure now
  | .cancel now => turn.cancel now
  | .interrupt now => turn.interrupt now

/-- The turn after a call; one that fails leaves it as it was. -/
def perform (turn : ConversationTurn) (call : Call) : ConversationTurn :=
  match call.apply turn with
  | .ok next => next
  | .error _ => turn

/-- A reservation and calls with times that do not decrease lead to the turn. -/
def Produced (turn : ConversationTurn) : Prop :=
  ∃ id key fingerprint projectId threadId userMessageId runId modelId searchEnabled now reserved,
    reserve id key fingerprint projectId threadId userMessageId runId modelId searchEnabled now
      = .ok reserved ∧
    ∃ calls : List Call, (now :: calls.map Call.now).Pairwise (· ≤ ·) ∧
      calls.foldl perform reserved = turn

/-- A reserved turn can be restored. -/
lemma restore_reserve {id key fingerprint projectId threadId userMessageId runId modelId
    searchEnabled}
    (h : reserve id key fingerprint projectId threadId userMessageId runId modelId searchEnabled now
      = .ok turn) : turn.restore.isOk = true := by
  simp only [reserve, bind_eq_ok, return_eq_ok] at h
  obtain ⟨_, hkey, _, hmodel, rfl⟩ := h
  exact restore_isOk.2 ⟨hkey, hmodel, rfl, rfl, rfl, by simp, by
    simp [isReachable, dispatchAbsent, outcomeAbsent, responseAbsent]⟩

omit [UrlLibrary] in
/-- What a turn that a call moves on has recorded. -/
lemma recorded_of_permits {target : ConversationTurnState} (h : turn.isReachable = true)
    (hperm : turn.state.permits target = true) (hnow : turn.updatedAt ≤ now) :
    turn.createdAt ≤ now ∧ turn.outcomeAbsent = true ∧
      match target with
      | .providerStarted | .cancelled => turn.revision = 0 ∧ turn.dispatchAbsent = true
      | _ => turn.revision = 1 ∧ turn.dispatchPresent = true := by
  rw [isReachable, Bool.and_eq_true, decide_eq_true_eq] at h
  refine ⟨h.1.trans hnow, ?_⟩
  -- an edge of the lifecycle is known by where it leads
  cases target <;> dsimp only <;> cases hsrc : turn.state <;>
    simp_all [ConversationTurnState.permits]

/-- A call keeps a turn such that it can be restored. -/
lemma restore_apply {call : Call} (h : turn.restore.isOk = true)
    (hcall : call.apply turn = .ok turn') : turn'.restore.isOk = true := by
  obtain ⟨hkey, hmodel, hresp, hcit, huse, hfail, hreach⟩ := restore_isOk.1 h
  refine restore_isOk.2 ?_
  cases call with
  | startProvider effectId fingerprint now =>
    obtain ⟨_, hmov, rfl⟩ := startProvider_eq_ok.1 hcall
    obtain ⟨hperm, hnow, -, rfl⟩ := moveTo_eq_ok.1 hmov
    obtain ⟨hcre, hout, hrev, -⟩ := recorded_of_permits hreach hperm hnow
    refine ⟨hkey, hmodel, hresp, hcit, huse, hfail, ?_⟩
    have houtc' : turn.outcomeAbsent = outcomeAbsent { turn with
      state := .providerStarted, revision := 1, updatedAt := now,
      effectId := some effectId, providerRequestFingerprint := some fingerprint } := rfl
    simp [isReachable, dispatchPresent, hrev, hcre, ← houtc', hout]
  | cancel now =>
    obtain ⟨hperm, hnow, -, rfl⟩ := moveTo_eq_ok.1 hcall
    obtain ⟨hcre, hout, hrev, habs⟩ := recorded_of_permits hreach hperm hnow
    refine ⟨hkey, hmodel, hresp, hcit, huse, hfail, ?_⟩
    simpa [isReachable, hrev, hcre] using ⟨habs, hout⟩
  | interrupt now =>
    obtain ⟨hperm, hnow, -, rfl⟩ := moveTo_eq_ok.1 hcall
    obtain ⟨hcre, hout, hrev, hpres⟩ := recorded_of_permits hreach hperm hnow
    refine ⟨hkey, hmodel, hresp, hcit, huse, hfail, ?_⟩
    simpa [isReachable, hrev, hcre] using ⟨hpres, hout⟩
  | complete assistantMessageId providerResponseId citations usage zeroDataRetention now =>
    obtain ⟨hresp', hcit', huse', _, hmov, rfl⟩ := complete_eq_ok.1 hcall
    obtain ⟨hperm, hnow, -, rfl⟩ := moveTo_eq_ok.1 hmov
    obtain ⟨hcre, hout, hrev, hpres⟩ := recorded_of_permits hreach hperm hnow
    refine ⟨hkey, hmodel, hresp', hcit', huse', hfail, ?_⟩
    simp_all [isReachable, dispatchPresent, outcomeAbsent]
  | fail failure now =>
    obtain ⟨hfail', _, hmov, rfl⟩ := fail_eq_ok.1 hcall
    obtain ⟨hperm, hnow, -, rfl⟩ := moveTo_eq_ok.1 hmov
    obtain ⟨hcre, hout, hrev, hpres⟩ := recorded_of_permits hreach hperm hnow
    refine ⟨hkey, hmodel, hresp, hcit, huse, ?_, ?_⟩
    · rintro _ ⟨⟩
      exact hfail'
    · simp_all [isReachable, dispatchPresent, outcomeAbsent, responseAbsent]

lemma foldl_perform_cons {call : Call} {calls : List Call} (h : call.apply turn = .ok turn') :
    (call :: calls).foldl perform turn = calls.foldl perform turn' := by
  rw [List.foldl_cons, perform, h]

lemma foldl_perform_startProvider {effectId : EffectId} {fingerprint : Digest}
    {calls : List Call} (hsta : turn.state = .reserved) (hrev : turn.revision = 0)
    (hnow : turn.updatedAt ≤ now) :
    (.startProvider effectId fingerprint now :: calls).foldl perform turn =
      calls.foldl perform { turn with
        state := .providerStarted, revision := 1, updatedAt := now
        effectId := some effectId, providerRequestFingerprint := some fingerprint } := by
  refine foldl_perform_cons (startProvider_eq_ok.2 ⟨_, moveTo_eq_ok.2 ⟨?_, hnow, ?_, rfl⟩, ?_⟩)
  · rw [hsta]
    rfl
  · rw [hrev]
    decide
  · rw [hrev]

/-- The calls that lead to a turn: its provider starts at once, and it ends when it was updated. -/
lemma exists_calls (h : turn.restore.isOk = true) :
    ∃ calls : List Call, (turn.createdAt :: calls.map Call.now).Pairwise (· ≤ ·) ∧
      calls.foldl perform { turn with
        providerRequestFingerprint := none, state := .reserved, effectId := none
        assistantMessageId := none, failure := none, providerResponseId := none, citations := []
        usage := .default, zeroDataRetention := none, revision := 0
        updatedAt := turn.createdAt } = turn := by
  obtain ⟨-, -, hresp, hcit, huse, hfail, hreach⟩ := restore_isOk.1 h
  obtain ⟨id, key, fingerprint, provider, projectId, threadId, userMessageId, runId, modelId,
    searchEnabled, state, effectId, assistantMessageId, failure, providerResponseId, citations,
    usage, zeroDataRetention, revision, createdAt, updatedAt⟩ := turn
  have hone : 0 + 1 ≤ u64Max := by decide
  have htwo : 1 + 1 ≤ u64Max := by decide
  cases state
  all_goals simp only [isReachable, dispatchAbsent, dispatchPresent, outcomeAbsent, responseAbsent,
    Bool.and_eq_true, decide_eq_true_eq, Option.isNone_iff_eq_none, Option.isSome_iff_exists,
    List.isEmpty_iff] at hreach
  case reserved =>
    obtain ⟨-, ⟨⟨rfl, rfl⟩, rfl, rfl⟩, ⟨rfl, rfl⟩, ⟨⟨rfl, rfl⟩, rfl⟩, rfl⟩ := hreach
    exact ⟨[], by simp, rfl⟩
  case cancelled =>
    obtain ⟨hle, ⟨rfl, rfl, rfl⟩, ⟨rfl, rfl⟩, ⟨⟨rfl, rfl⟩, rfl⟩, rfl⟩ := hreach
    refine ⟨[.cancel updatedAt], by simpa [Call.now] using hle, ?_⟩
    exact foldl_perform_cons (moveTo_eq_ok.2 ⟨rfl, hle, hone, rfl⟩)
  case providerStarted =>
    obtain ⟨hle, ⟨rfl, ⟨provider, rfl⟩, effectId, rfl⟩, ⟨rfl, rfl⟩, ⟨⟨rfl, rfl⟩, rfl⟩, rfl⟩ :=
      hreach
    refine ⟨[.startProvider effectId provider updatedAt], by simpa [Call.now] using hle, ?_⟩
    exact foldl_perform_startProvider rfl rfl hle
  case interruptedNeedsReview =>
    obtain ⟨hle, ⟨rfl, ⟨provider, rfl⟩, effectId, rfl⟩, ⟨rfl, rfl⟩, ⟨⟨rfl, rfl⟩, rfl⟩, rfl⟩ :=
      hreach
    refine ⟨[.startProvider effectId provider createdAt, .interrupt updatedAt],
      by simpa [Call.now] using hle, ?_⟩
    rw [foldl_perform_startProvider rfl rfl le_rfl]
    exact foldl_perform_cons (moveTo_eq_ok.2 ⟨rfl, hle, htwo, rfl⟩)
  case completed =>
    obtain ⟨hle, ⟨⟨rfl, ⟨provider, rfl⟩, effectId, rfl⟩, assistantMessageId, rfl⟩, rfl⟩ :=
      hreach
    refine ⟨[.startProvider effectId provider createdAt, .complete assistantMessageId
      providerResponseId citations usage zeroDataRetention updatedAt],
      by simpa [Call.now] using hle, ?_⟩
    rw [foldl_perform_startProvider rfl rfl le_rfl]
    exact foldl_perform_cons (complete_eq_ok.2
      ⟨hresp, hcit, huse, _, moveTo_eq_ok.2 ⟨rfl, hle, htwo, rfl⟩, rfl⟩)
  case failed =>
    obtain ⟨hle, ⟨⟨⟨rfl, ⟨provider, rfl⟩, effectId, rfl⟩, rfl⟩, failure, rfl⟩, ⟨⟨rfl, rfl⟩, rfl⟩,
      rfl⟩ := hreach
    refine ⟨[.startProvider effectId provider createdAt, .fail failure updatedAt],
      by simpa [Call.now] using hle, ?_⟩
    rw [foldl_perform_startProvider rfl rfl le_rfl]
    exact foldl_perform_cons (fail_eq_ok.2
      ⟨hfail _ rfl, _, moveTo_eq_ok.2 ⟨rfl, hle, htwo, rfl⟩, rfl⟩)

/-- A turn can be restored exactly when a history of calls produces it. -/
theorem restore_iff_produced (turn : ConversationTurn) :
    turn.restore.isOk = true ↔ Produced turn := by
  constructor
  · intro h
    obtain ⟨hkey, hmodel, -⟩ := restore_isOk.1 h
    obtain ⟨calls, htimes, hcalls⟩ := exists_calls h
    exact ⟨turn.id, turn.idempotencyKey, turn.requestFingerprint, turn.projectId, turn.threadId,
      turn.userMessageId, turn.runId, turn.modelId, turn.searchEnabled, turn.createdAt, _,
      bind_eq_ok.2 ⟨_, hkey, bind_eq_ok.2 ⟨_, hmodel, rfl⟩⟩, calls, htimes, hcalls⟩
  · rintro ⟨_, _, _, _, _, _, _, _, _, _, reserved, hreserved, calls, -, rfl⟩
    have hrsd := restore_reserve hreserved
    clear hreserved
    -- each call keeps what can be restored
    induction calls generalizing reserved with
    | nil => exact hrsd
    | cons call calls ih =>
      refine ih _ ?_
      unfold perform
      split
      · exact restore_apply hrsd ‹_›
      · exact hrsd

end ConversationTurn

end GrokDesktop
