import GrokDesktop.Memory.Operations

/-!
# What the operations on one turn return

For the task that works on one turn: what the store returns for its text appends and terminal
commits, while other writers work on other turns. A store `Holds` the snapshot of a turn when it is
consistent and the turn reads back as that snapshot; writes `Elsewhere` keep this, together with
the durable text of the turn.
-/

namespace GrokDesktop

open Except Table Option
open ConversationTurnEventLog (validateSnapshot_eq_ok restore_text appendKind_eq_ok
  appendEvent_eq_ok appendKind_stateChanged bounded_of_restore text_of_reserved
  restore restore_append)

def durableText (s : State) (turnId : ConversationTurnId) : String :=
  appendedText ((s.conversationEvents.lookup turnId).getD [])

/-- The durable text of a turn is the text of its log. -/
theorem durableText_eq {s : State} {turnId : ConversationTurnId}
    {old : List ConversationTurnEvent} {log : ConversationTurnEventLog}
    (hsto : s.conversationEvents.lookup turnId = some old)
    (hrest : restore turnId old = .ok log) : durableText s turnId = log.text := by
  rw [durableText, hsto, getD_some, restore_text hrest]

/-- A call that is accepted, at the end of the text or before it. -/
theorem checkedTextAppend_cases {s : State} {call : TurnTextAppend}
    {evs : List ConversationTurnEvent} {new : Bool}
    (h : checkedTextAppend s call = .ok (evs, new)) :
    ∃ turn old log, call.text.isEmpty = false ∧
      s.conversationTurns.lookup call.turnId = some turn ∧
      turn.revision = call.expectedTurnRevision ∧
      s.conversationEvents.lookup call.turnId = some old ∧
      restore call.turnId old = .ok log ∧
      if call.startUtf8Offset < log.text.utf8ByteSize then new = false ∧
        replayedTextAppend old call.startUtf8Offset call.text = some evs
      else new = true ∧ call.startUtf8Offset = log.text.utf8ByteSize ∧
        ∃ log', TextChecked s call evs turn log log' := by
  simp only [checkedTextAppend, bind_eq_ok, okOr_eq_ok, rejectIf_eq_ok, not_or, not_not,
    mapError_eq_ok, conversationEventLog_eq_ok] at h
  obtain ⟨_, hne, turn, hturn, _, ⟨hrev, hsta⟩, log, ⟨old, hsto, hrest⟩, _, hval, h⟩ := h
  refine ⟨turn, old, log, by simpa using hne, hturn, hrev, hsto, hrest, ?_⟩
  split at h
  · rename_i hlt
    simp only [bind_eq_ok, okOr_eq_ok] at h
    obtain ⟨_, hsto', _, hrepl, rfl, rfl⟩ := h
    rw [if_pos hlt, some.inj (hsto.symm.trans hsto')]
    exact ⟨rfl, hrepl⟩
  · rename_i hlt
    simp only [bind_eq_ok, rejectIf_eq_ok, mapError_eq_ok, not_not] at h
    obtain ⟨_, hoff, ⟨_, log'⟩, happ, _, hevs, rfl, rfl⟩ := h
    rw [if_neg hlt]
    exact ⟨rfl, hoff, log', hturn, hsta, conversationEventLog_eq_ok.2 ⟨old, hsto, hrest⟩, hval,
      happ, by simpa using hevs⟩

section Outcomes

variable [UrlLibrary] {s s' : State} {snapshot : ConversationTurnSnapshot}

/-- A consistent store with the given snapshot of a turn. -/
structure Holds (s : State) (snapshot : ConversationTurnSnapshot) : Prop where
  consistent : Consistent s
  stored : s.conversationTurns.lookup snapshot.turn.id = some snapshot.turn
  read : TurnRead s snapshot

/-- The turn of a held snapshot is loaded as that snapshot. -/
theorem Holds.loadSnapshot (h : Holds s snapshot) :
    loadSnapshot s snapshot.turn.id = .ok snapshot :=
  loadSnapshot_eq_ok.2 ⟨h.stored, h.consistent.conversationSnapshot h.read⟩

/-- The durable text of a held turn is the text of its log. -/
theorem Holds.log (h : Holds s snapshot) : ∃ events log,
    s.conversationEvents.lookup snapshot.turn.id = some events ∧
    ConversationTurnEventLog.restore snapshot.turn.id events = .ok log ∧
    log.turnId = snapshot.turn.id ∧ log.state = some snapshot.turn.state ∧
    log.text = durableText s snapshot.turn.id ∧ durableText s snapshot.turn.id
      = appendedText events := by
  obtain ⟨events, log, hevs, hrest, hval⟩ := h.read.log
  obtain ⟨hid, hsta, -⟩ := validateSnapshot_eq_ok.1 hval
  have htext : durableText s snapshot.turn.id = appendedText events := by
    rw [durableText, hevs, getD_some]
  refine ⟨events, log, hevs, hrest, hid, hsta, ?_, htext⟩
  rw [htext, restore_text hrest]

lemma Touch.holds (h : Touch s s' snapshot) (hs : Consistent s) : Holds s' snapshot :=
  ⟨(h.update hs).consistent hs, h.turns.1, h.read⟩

/-! ## Other writers -/

/-- Writes that leave the record and the events of a turn alone. -/
abbrev Elsewhere (turnId : ConversationTurnId) : State → State → Prop :=
  Relation.ReflTransGen fun s s' => Write Set.univ s s' ∧ ¬ TurnChanged s s' turnId

/-- Updates of other turns keep a held snapshot. -/
theorem Holds.updates (h : Holds s snapshot)
    (hupdates : Updates (fun changed => changed ≠ some snapshot.turn.id) s s') :
    Holds s' snapshot := by
  induction hupdates with
  | refl => exact h
  | tail _ hupd ih =>
    obtain ⟨changed, hoth, hupd⟩ := hupd
    exact ⟨hupd.consistent ih.consistent, (hupd.kept _ hoth).trans ih.stored,
      ih.read.keep hupd.grows (hupd.keeps _ _ hoth ih.stored)⟩

/-- Writes elsewhere keep a held snapshot and the durable text of its turn. -/
theorem Holds.elsewhere (h : Holds s snapshot) (hoth : Elsewhere snapshot.turn.id s s') :
    Holds s' snapshot ∧ durableText s' snapshot.turn.id = durableText s snapshot.turn.id := by
  induction hoth with
  | refl => exact ⟨h, rfl⟩
  | @tail s₁ s₂ _ hstep ih =>
    obtain ⟨hwr, hsame⟩ := hstep
    obtain ⟨hholds, htext⟩ := ih
    refine ⟨hholds.updates (hwr.updates hholds.consistent (by simp) fun id hchan heq => ?_), ?_⟩
    · exact hsame (some.inj heq ▸ hchan)
    · have hevs : s₂.conversationEvents.lookup snapshot.turn.id
          = s₁.conversationEvents.lookup snapshot.turn.id := by
        by_contra hne
        exact hsame (.inr hne)
      rw [durableText, hevs]
      exact htext

/-! ## Terminal commits -/

/-- The event of a move appends no text. -/
lemma Holds.appendedText_extended (h : Holds s snapshot) {turn : ConversationTurn}
    {kind : ConversationTurnEventKind} {text : Option String} {events : List ConversationTurnEvent}
    (hid : turn.id = snapshot.turn.id) (hsta : snapshot.turn.state ≠ turn.state)
    (hext : extendedEventLog s turn kind text = .ok events) :
    appendedText events = durableText s snapshot.turn.id := by
  obtain ⟨stored, log, hsto, hrest, -, hlogS, -, htext⟩ := h.log
  simp only [extendedEventLog, bind_eq_ok, mapError_eq_ok, okOr_eq_ok, return_eq_ok,
    Except.ok.injEq, Prod.exists,
    conversationEventLog_eq_ok, hid, hsto, some.injEq, exists_eq_left', hrest]
    at hext
  obtain ⟨event, log', happ, _, hval, stored', hsto', rfl⟩ := hext
  obtain rfl : stored = stored' := mem_unique hsto (hid ▸ hsto')
  obtain ⟨-, hsta', -⟩ := validateSnapshot_eq_ok.1 hval
  obtain ⟨-, -, happ⟩ := appendKind_eq_ok.1 happ
  obtain ⟨-, -, hkeeps⟩ := appendEvent_eq_ok happ
  rw [appendedText_concat, htext]
  cases hkind : event.kind with
  | created | stateChanged source target => simp [ConversationTurnEventKind.text]
  | textAppended offset chunk =>
    -- a text event would leave the log in the old state
    have hsame := hkeeps offset chunk hkind
    rw [hsta', hlogS] at hsame
    exact absurd (some.inj hsame).symm hsta

/-- The log of a turn accepts the event of a move to a state without an assistant message. -/
theorem Holds.extendedEventLog_moved (h : Holds s snapshot) (turn : ConversationTurn)
    (hid : turn.id = snapshot.turn.id) (hperm : snapshot.turn.state.permits turn.state = true)
    (hsta : turn.state ≠ .completed) :
    ∃ events, extendedEventLog s turn (.stateChanged snapshot.turn.state turn.state) none
      = .ok events := by
  obtain ⟨stored, log, hsto, hrest, hlogId, hlogS, -⟩ := h.log
  obtain ⟨event, log', happ, -, hid', hsta', -⟩ :=
    appendKind_stateChanged
      (bounded_of_restore hrest) hlogS hperm
  have hval : log'.validateSnapshot turn none = .ok () :=
    validateSnapshot_eq_ok.2
      ⟨hid'.trans (hlogId.trans hid.symm), hsta', fun hdone => absurd hdone hsta,
        fun _ => rfl⟩
  refine ⟨stored ++ [event], ?_⟩
  simp only [extendedEventLog, bind_eq_ok, mapError_eq_ok, okOr_eq_ok, conversationEventLog_eq_ok]
  rw [hid]
  exact ⟨log, ⟨stored, hsto, hrest⟩, (event, log'), happ, (), hval, stored, hsto, rfl⟩

/-- A commit whose checks pass moves the turn and keeps its durable text. -/
theorem commitTerminal_of_checked (hs : Consistent s) {commit : TerminalTurnCommit}
    (hchk : checkedTerminal s commit = .ok s') :
    ∃ current committed, commitTerminal s commit = (.ok committed, s') ∧
      loadSnapshot s commit.turn.id = .ok current ∧ TurnMoved current.turn commit.turn ∧
      committed.turn = commit.turn ∧ committed.lineage = current.lineage ∧ Holds s' committed ∧
      durableText s' commit.turn.id = durableText s commit.turn.id := by
  obtain ⟨current, assistant, turnEvents, h, rfl⟩ := checkedTerminal_eq_ok hchk
  have hholds := (h.touch hs).holds hs
  refine ⟨current, { current with
    turn := commit.turn
    assistantMessage := assistant
    run := commit.run
    effect := commit.effect }, ?_, h.loaded, h.moved, rfl, rfl, hholds, ?_⟩
  · unfold commitTerminal writeThenRead
    rw [hchk]
    exact congrArg (·, _) hholds.loadSnapshot
  · obtain ⟨hsto, hread⟩ := loadSnapshot_read h.loaded
    have hcur : Holds s current := ⟨hs, by rw [← h.moved.id]; exact hsto, hread⟩
    have hevs : (s.writeTerminal commit assistant turnEvents).conversationEvents.lookup
        commit.turn.id = some turnEvents := lookup_insert_self _ _ _
    rw [durableText, hevs, getD_some,
      hcur.appendedText_extended h.moved.id h.moved.state_ne h.extended, h.moved.id]

/-- A commit that is rejected leaves the state as it was; one that is accepted passed its checks. -/
theorem commitTerminal_cases (s : State) (commit : TerminalTurnCommit) :
    (∃ error, commitTerminal s commit = (.error error, s)) ∨
      ∃ s', checkedTerminal s commit = .ok s' := by
  cases hchk : checkedTerminal s commit with
  | error error => exact .inl ⟨error, by simp [commitTerminal, writeThenRead, hchk]⟩
  | ok s' => exact .inr ⟨s', rfl⟩

/-- A turn that has ended accepts no commit. -/
theorem Holds.commitTerminal_ended (h : Holds s snapshot)
    (hend : snapshot.turn.state.isTerminal = true) (commit : TerminalTurnCommit)
    (hid : commit.turn.id = snapshot.turn.id) :
    ∃ error, commitTerminal s commit = (.error error, s) := by
  rcases commitTerminal_cases s commit with herr | ⟨s', hchk⟩
  · exact herr
  · obtain ⟨current, _, -, hload, hmov, -⟩ := commitTerminal_of_checked h.consistent hchk
    rw [hid, h.loadSnapshot] at hload
    cases hload
    rw [hmov.not_isTerminal] at hend
    cases hend

/-! ## The provider boundary -/

/-- A turn whose provider was just started reads back as the result says and has no text yet. -/
theorem commitProviderStart_fresh (hs : Consistent s) {commit : ProviderStartCommit}
    (h : commitProviderStart s commit = (.ok snapshot, s')) :
    Holds s' snapshot ∧ snapshot.turn.state = .providerStarted ∧
      durableText s' snapshot.turn.id = "" := by
  unfold commitProviderStart writeThenRead at h
  cases hchk : checkedProviderStart s commit with
  | error error =>
    rw [hchk] at h
    cases h
  | ok written =>
    rw [hchk] at h
    obtain ⟨current, turnEvents, hcom, rfl⟩ := checkedProviderStart_eq_ok hchk
    have hholds := (hcom.touch hs).holds hs
    obtain ⟨hload, rfl⟩ := Prod.mk.inj h
    obtain rfl := Except.ok.inj (hholds.loadSnapshot.symm.trans hload)
    refine ⟨hholds, hcom.started, ?_⟩
    obtain ⟨hsto, hread⟩ := loadSnapshot_read hcom.loaded
    have hcur : Holds s current := ⟨hs, by rw [← hcom.moved.id]; exact hsto, hread⟩
    obtain ⟨events, log, -, hrest, -, hsta, htext, -⟩ := hcur.log
    have hevs : (s.writeProviderStart commit turnEvents).conversationEvents.lookup
        commit.turn.id = some turnEvents := lookup_insert_self _ _ _
    rw [durableText, hevs, getD_some, hcur.appendedText_extended hcom.moved.id
      hcom.moved.state_ne hcom.extended, ← htext]
    exact text_of_reserved hrest (hcom.reserved ▸ hsta)

/-! ## Text -/

omit [UrlLibrary] in
/-- The chunks of a text make up the text. -/
theorem foldl_splitConversationText (start text : String) :
    (splitConversationText text).foldl (· ++ ·) start = start ++ text := by
  have hfold : ∀ (chunks : List (List Char)) (start : String),
      (chunks.map String.ofList).foldl (· ++ ·) start = start ++ String.ofList chunks.flatten := by
    intro chunks
    induction chunks with
    | nil => simp
    | cons chunk rest ih =>
      intro start
      rw [List.map_cons, List.foldl_cons, ih, List.flatten_cons, String.ofList_append,
        String.append_assoc]
  rw [splitConversationText, hfold, Utf8.chunks_flatten (by decide), String.ofList_toList]

/-- An append at the end of the durable text either changes nothing or makes the text durable. -/
theorem Holds.appendTurnText_cases (h : Holds s snapshot) (append : TurnTextAppend)
    (hid : append.turnId = snapshot.turn.id)
    (hoff : append.startUtf8Offset = (durableText s snapshot.turn.id).utf8ByteSize) :
    (∃ error, appendTurnText s append = (.error error, s)) ∨
      ∃ events s', appendTurnText s append = (.ok events, s') ∧ Holds s' snapshot ∧
        durableText s' snapshot.turn.id = durableText s snapshot.turn.id ++ append.text := by
  unfold appendTurnText
  cases hchk : checkedTextAppend s append with
  | error error => exact .inl ⟨error, rfl⟩
  | ok result =>
    obtain ⟨events, new⟩ := result
    obtain ⟨turn, old, log, -, hturn, -, hsto, hrest, hcase⟩ := checkedTextAppend_cases hchk
    rw [hid] at hturn
    obtain rfl := mem_unique h.stored hturn
    rw [← hid, durableText_eq hsto hrest] at hoff ⊢
    -- a replay needs an offset inside the durable text
    rw [if_neg (by rw [hoff]; exact lt_irrefl _)] at hcase
    obtain ⟨rfl, -, log', hnew⟩ := hcase
    have htouch := hnew.touch h.consistent h.read
    refine .inr ⟨events, _, rfl, htouch.holds h.consistent, ?_⟩
    obtain ⟨hfold, -, -, hlog⟩ := appendChunks_eq_ok hnew.appended
    have hevs : (s.writeTurnText append events).conversationEvents.lookup append.turnId
        = some (old ++ events) := by
      rw [State.writeTurnText, hsto]
      exact lookup_insert_self _ _ _
    rw [durableText_eq hevs (restore_append hrest hfold), hlog, foldl_splitConversationText]

end Outcomes

end GrokDesktop
