import GrokDesktop.Memory.Writes

/-!
# The invariant of the conversation store

`Consistent` is the invariant: every stored turn reads back with its linked records, every stored
thread is a root or the fork of a stored finished turn, and two turns share neither a run nor an
effect nor, while both are in progress, a thread.

A write touches the records of at most one turn, which has not ended, and otherwise only adds
records. `Update` says this, `Update.consistent` that such a change keeps the invariant, and
`Write.update` that every write is one.
-/

namespace GrokDesktop

open Except Option
open ConversationTurnEventLog (validateSnapshot_eq_ok restore_singleton appendKind_eq_ok
  restore_append appendEvent_eq_ok)
open Table

section Invariant

variable {s s' : State} {turn turn' : ConversationTurn} {snapshot : ConversationTurnSnapshot}
  {events : List ConversationTurnEvent} {log log' : ConversationTurnEventLog}

/-! ## Event logs -/

/-- A stream of events restores to a log that fits the turn. -/
def Logs (events : List ConversationTurnEvent) (turn : ConversationTurn)
    (assistantText : Option String) : Prop :=
  ∃ log, ConversationTurnEventLog.restore turn.id events = .ok log ∧
    log.validateSnapshot turn assistantText = .ok ()

variable {kind : ConversationTurnEventKind} {event : ConversationTurnEvent}

lemma createdEventLog_logs (h : createdEventLog turn kind = .ok event) :
    Logs [event] turn none := by
  simp only [createdEventLog, bind_eq_ok, mapError_eq_ok, return_eq_ok, Prod.exists] at h
  obtain ⟨event, log, happ, _, hval, rfl⟩ := h
  exact ⟨log, restore_singleton happ, hval⟩

/-- The stored events of a turn with the next one. -/
lemma extendedEventLog_logs {text : Option String}
    (h : extendedEventLog s turn kind text = .ok events) : Logs events turn text := by
  simp only [extendedEventLog, bind_eq_ok, mapError_eq_ok, okOr_eq_ok, return_eq_ok, Prod.exists,
    conversationEventLog_eq_ok] at h
  obtain ⟨log, ⟨stored, hsto, hlog⟩, event, log', happ, _, hval, stored', hsto', rfl⟩ := h
  obtain rfl : stored = stored' := mem_unique hsto hsto'
  obtain ⟨-, -, happ⟩ := appendKind_eq_ok.1 happ
  refine ⟨log', restore_append hlog ?_, hval⟩
  rw [List.foldlM_cons, happ]
  rfl

/-- Text events continue a log, keep its state and extend its text by the chunks. -/
theorem appendChunks_eq_ok {chunks : List String}
    (h : appendChunks log chunks = .ok (events, log')) :
    events.foldlM ConversationTurnEventLog.appendEvent log = .ok log' ∧
      log'.turnId = log.turnId ∧ log'.state = log.state ∧
      log'.text = chunks.foldl (· ++ ·) log.text := by
  induction chunks generalizing log events with
  | nil =>
    cases h
    exact ⟨rfl, rfl, rfl, rfl⟩
  | cons chunk rest ih =>
    simp only [appendChunks, bind_eq_ok, Prod.exists] at h
    obtain ⟨event, next, happ, events', log'', hrest, rfl, rfl⟩ := h
    obtain ⟨-, hev, happ⟩ := appendKind_eq_ok.1 happ
    obtain ⟨hid, htext, hsta⟩ := appendEvent_eq_ok happ
    obtain ⟨hfold, hid', hsta', htext'⟩ := ih hrest
    rw [hev] at htext
    refine ⟨?_, hid'.trans hid, hsta'.trans (hsta _ _ (by rw [hev])), ?_⟩
    · rw [List.foldlM_cons, happ]
      exact hfold
    · rw [htext', htext]
      rfl

variable {append : TurnTextAppend}

/-- The stored events of a turn with more text. -/
theorem TextChecked.logs (h : TextChecked s append events turn log log')
    (hid : turn.id = append.turnId) :
    Logs ((s.conversationEvents.lookup append.turnId).getD [] ++ events) turn none := by
  obtain ⟨stored, hsto, hlog⟩ := conversationEventLog_eq_ok.1 h.read
  obtain ⟨hfold, hlogId, hlogS, -⟩ := appendChunks_eq_ok h.appended
  obtain ⟨hturn, hsta, hdone, hoth⟩ :=
    validateSnapshot_eq_ok.1 h.valid
  have hsta' : log'.state = some turn.state := hlogS.trans hsta
  refine ⟨log', ?_, ?_⟩
  · rw [hsto, hid]
    exact restore_append hlog hfold
  · refine validateSnapshot_eq_ok.2
      ⟨hlogId.trans hturn, hsta', ?_, hoth⟩
    intro hsta
    rw [h.started] at hsta
    cases hsta

/-! ## Turns that do not share -/

/-- Two turns share neither a run nor an effect, and do not both occupy one thread. -/
structure Apart (turn turn' : ConversationTurn) : Prop where
  run : turn.runId ≠ turn'.runId
  effect : ∀ id, turn.effectId = some id → turn'.effectId ≠ some id
  thread : turn.threadId = turn'.threadId →
    turn.state.isTerminal = true ∨ turn'.state.isTerminal = true

lemma Apart.symm (h : Apart turn turn') : Apart turn' turn where
  run := h.run.symm
  effect id hid hid' := h.effect id hid' hid
  thread heq := (h.thread heq.symm).symm

/-- A turn that moves has not ended. -/
theorem TurnMoved.not_isTerminal (h : TurnMoved turn turn') :
    turn.state.isTerminal = false := by
  cases hend : turn.state.isTerminal with
  | false => rfl
  | true =>
    have hperm := h.permits
    rw [ConversationTurnState.permits_of_isTerminal hend] at hperm
    cases hperm

/-- A turn that moves changes its state. -/
theorem TurnMoved.state_ne (h : TurnMoved turn turn') :
    turn.state ≠ turn'.state := by
  intro heq
  have hperm := h.permits
  rw [← heq] at hperm
  cases hsta : turn.state <;> simp [hsta, ConversationTurnState.permits] at hperm

/-- A turn stays apart from others when it moves without taking their effects. -/
theorem Apart.moved {other : ConversationTurn} (h : Apart other turn)
    (hmov : TurnMoved turn turn')
    (heff : ∀ id, other.effectId = some id → turn'.effectId ≠ some id) :
    Apart other turn' where
  run := hmov.runId ▸ h.run
  effect := heff
  thread heq := by
    rw [hmov.threadId] at heq
    rcases h.thread heq with hoth | hturn
    · exact .inl hoth
    · rw [hmov.not_isTerminal] at hturn
      cases hturn

/-- A fork starts from a turn that has ended. -/
theorem forkSourceEligible_isTerminal {kind : ConversationForkKind}
    {state : ConversationTurnState} (h : forkSourceEligible kind state = true) :
    state.isTerminal = true := by
  cases kind <;> cases state <;> simp_all [forkSourceEligible, ConversationTurnState.isTerminal]

/-- Inserting an optional record stores it. -/
lemma lookup_insertOptional {κ α : Type} [DecidableEq κ] {t : Table κ α} {key : α → κ}
    {record : Option α} {v : α} (h : record = some v) :
    (insertOptional t key record).lookup (key v) = some v := by
  subst h
  exact lookup_insert_self _ _ _

/-- Inserting an optional record changes no other entry. -/
lemma lookup_insertOptional_of_ne {κ α : Type} [DecidableEq κ] {t : Table κ α} {key : α → κ}
    {record : Option α} {k : κ} (h : record.map key ≠ some k) :
    (insertOptional t key record).lookup k = t.lookup k := by
  cases record with
  | none => rfl
  | some v => exact lookup_insert_of_ne _ _ fun heq => h (by simp [heq])

variable [UrlLibrary]

/-! ## The invariant -/

/-- A thread that was forked from a finished turn of its parent. -/
structure ForkOf (s : State) (thread parent : Thread) (source : ConversationTurnSnapshot)
    (sourceMessage : Message) (kind : ConversationForkKind) : Prop where
  origin : thread.lineage.origin = .fork parent.id source.turn.id sourceMessage.id kind
  parentStored : s.threads.lookup parent.id = some parent
  sourceStored : s.conversationTurns.lookup source.turn.id = some source.turn
  read : TurnRead s source
  eligible : forkSourceEligible kind source.turn.state = true
  message : forkSourceMessage kind source = some sourceMessage
  role : kind.sourceMessageRole = sourceMessage.role
  threadId : source.turn.threadId = parent.id
  project : parent.projectId = thread.projectId
  root : parent.lineage.rootThreadId = thread.lineage.rootThreadId
  depth : parent.lineage.forkDepth + 1 = thread.lineage.forkDepth
  binding : ∃ binding, s.conversationThreadBindings.lookup thread.id = some binding ∧
    s.conversationThreadBindings.lookup parent.id = some binding

/-- A thread is a root, or a fork. -/
inductive Rooted (s : State) (thread : Thread) : Prop
  | original (horigin : thread.lineage.origin = .original)
      (hroot : thread.lineage.rootThreadId = thread.id) (hdepth : thread.lineage.forkDepth = 0)
  | fork (parent : Thread) (source : ConversationTurnSnapshot) (sourceMessage : Message)
      (kind : ConversationForkKind) (h : ForkOf s thread parent source sourceMessage kind)

/-- A well-formed thread under its identifier, with its ancestry stored. -/
structure StoredThread (s : State) (id : ThreadId) (thread : Thread) : Prop where
  id : thread.id = id
  restored : thread.restore.isOk = true
  rooted : Rooted s thread

/-- The invariant of the store. -/
structure Consistent (s : State) : Prop where
  /-- Every turn is stored under its identifier and reads back. -/
  turn : ∀ id turn, s.conversationTurns.lookup id = some turn →
    turn.id = id ∧ ∃ snapshot, snapshot.turn = turn ∧ TurnRead s snapshot
  /-- Every turn is found by the key of the command that created it. -/
  key : ∀ id turn, s.conversationTurns.lookup id = some turn →
    s.conversationTurnKeys.lookup turn.idempotencyKey = some id
  /-- Every thread has its ancestry stored. -/
  thread : ∀ id thread, s.threads.lookup id = some thread → StoredThread s id thread
  /-- Turns are apart. -/
  apart : ∀ id id' turn turn', id ≠ id' → s.conversationTurns.lookup id = some turn →
    s.conversationTurns.lookup id' = some turn' → Apart turn turn'

lemma Consistent.empty : Consistent State.empty where
  turn id turn h := by simp [State.empty] at h
  key id turn h := by simp [State.empty] at h
  thread id thread h := by simp [State.empty] at h
  apart id id' turn turn' _ h := by simp [State.empty] at h

/-! ## Frames -/

/-- The tables that only gain entries. -/
structure Grows (s s' : State) : Prop where
  projects : s.projects.Extends s'.projects
  threads : s.threads.Extends s'.threads
  messages : s.messages.Extends s'.messages
  bindings : s.conversationThreadBindings.Extends s'.conversationThreadBindings
  keys : s.conversationTurnKeys.Extends s'.conversationTurnKeys

/-- The records that belong to one turn alone are the same. -/
structure Keeps (s s' : State) (turn : ConversationTurn) : Prop where
  run : s'.runs.lookup turn.runId = s.runs.lookup turn.runId
  effect : ∀ id, turn.effectId = some id → s'.effects.lookup id = s.effects.lookup id
  lineage : s'.conversationLineages.lookup turn.id = s.conversationLineages.lookup turn.id
  events : s'.conversationEvents.lookup turn.id = s.conversationEvents.lookup turn.id

/-- A turn reads the same when its own records are kept. -/
theorem TurnRead.keep (h : TurnRead s snapshot) (hgrow : Grows s s')
    (hkeeps : Keeps s s' snapshot.turn) : TurnRead s' snapshot where
  userMessage := hgrow.messages _ _ h.userMessage
  assistantMessage := h.assistantMessage.mono fun id msg _ hid => hgrow.messages id msg hid
  run := hkeeps.run.trans h.run
  effect := h.effect.mono fun id effect hlink hid => (hkeeps.effect id hlink).trans hid
  lineage := hkeeps.lineage.trans h.lineage
  thread := by
    obtain ⟨thread, hthr, hrest⟩ := h.thread
    exact ⟨thread, hgrow.threads _ _ hthr, hrest⟩
  project := hgrow.projects.contains h.project
  canonical := h.canonical
  log := by
    obtain ⟨events, log, hevs, hrest⟩ := h.log
    exact ⟨events, log, hkeeps.events.trans hevs, hrest⟩

/-- A change that touches the records of at most one turn, which has not ended. -/
structure Update (s s' : State) (changed : Option ConversationTurnId) : Prop where
  grows : Grows s s'
  /-- A thread that is new has its ancestry stored. -/
  newThread : ∀ id thread, s'.threads.lookup id = some thread →
    s.threads.lookup id = some thread ∨ StoredThread s' id thread
  /-- The other turns are kept with their records. -/
  kept : ∀ id, changed ≠ some id →
    s'.conversationTurns.lookup id = s.conversationTurns.lookup id
  keeps : ∀ id turn, changed ≠ some id → s.conversationTurns.lookup id = some turn →
    Keeps s s' turn
  /-- The changed turn had not ended. -/
  live : ∀ id turn, changed = some id → s.conversationTurns.lookup id = some turn →
    turn.state.isTerminal = false
  /-- The changed turn reads back and stays apart from the others. -/
  written : ∀ id turn, changed = some id → s'.conversationTurns.lookup id = some turn →
    turn.id = id ∧ (∃ snapshot, snapshot.turn = turn ∧ TurnRead s' snapshot) ∧
      s'.conversationTurnKeys.lookup turn.idempotencyKey = some id ∧
      ∀ id' turn', id' ≠ id → s.conversationTurns.lookup id' = some turn' → Apart turn' turn

variable {changed : Option ConversationTurnId}

variable {id : ConversationTurnId}

/-- A turn that has ended is not the one that changes. -/
theorem Update.unchanged (h : Update s s' changed)
    (hturn : s.conversationTurns.lookup id = some turn) (hend : turn.state.isTerminal = true) :
    changed ≠ some id := by
  intro hid
  have hlive := h.live id turn hid hturn
  simp [hend] at hlive

/-- The ancestry of a thread stays stored. -/
theorem Rooted.keep {thread : Thread} (h : Rooted s thread) (hupd : Update s s' changed) :
    Rooted s' thread := by
  cases h with
  | original hori hroot hdepth => exact .original hori hroot hdepth
  | fork parent source sourceMessage kind hfork =>
    have hoth := hupd.unchanged hfork.sourceStored
      (forkSourceEligible_isTerminal hfork.eligible)
    have hkeeps := hupd.keeps _ _ hoth hfork.sourceStored
    obtain ⟨binding, hthr, hpar⟩ := hfork.binding
    refine .fork parent source sourceMessage kind { hfork with
      parentStored := hupd.grows.threads _ _ hfork.parentStored
      sourceStored := (hupd.kept _ hoth).trans hfork.sourceStored
      read := hfork.read.keep hupd.grows hkeeps
      binding := ⟨binding, hupd.grows.bindings _ _ hthr, hupd.grows.bindings _ _ hpar⟩ }

/-- Every update keeps the invariant. -/
theorem Update.consistent (h : Update s s' changed) (hs : Consistent s) : Consistent s' where
  turn := by
    intro id turn hturn
    by_cases hid : changed = some id
    · obtain ⟨heq, hread, -⟩ := h.written id turn hid hturn
      exact ⟨heq, hread⟩
    · rw [h.kept id hid] at hturn
      obtain ⟨heq, snapshot, rfl, hread⟩ := hs.turn id turn hturn
      exact ⟨heq, snapshot, rfl, hread.keep h.grows (h.keeps id _ hid hturn)⟩
  key := by
    intro id turn hturn
    by_cases hid : changed = some id
    · exact (h.written id turn hid hturn).2.2.1
    · rw [h.kept id hid] at hturn
      exact h.grows.keys _ _ (hs.key id turn hturn)
  thread := by
    intro id thread hthr
    rcases h.newThread id thread hthr with hold | hnew
    · obtain ⟨heq, hrsd, hroot⟩ := hs.thread id thread hold
      exact ⟨heq, hrsd, hroot.keep h⟩
    · exact hnew
  apart := by
    intro id id' turn turn' hne hturn hturn'
    by_cases hid : changed = some id
    · have hid' : changed ≠ some id' := by
        rw [hid]
        exact fun heq => hne (some.inj heq)
      rw [h.kept id' hid'] at hturn'
      exact ((h.written id turn hid hturn).2.2.2 id' turn' hne.symm hturn').symm
    · rw [h.kept id hid] at hturn
      by_cases hid' : changed = some id'
      · exact (h.written id' turn' hid' hturn').2.2.2 id turn hne hturn
      · rw [h.kept id' hid'] at hturn'
        exact hs.apart id id' turn turn' hne hturn hturn'

/-! ## Kinds of updates -/

/-- The tables of turns and of the records they own are the same. -/
structure SameTurns (s s' : State) : Prop where
  turns : s'.conversationTurns = s.conversationTurns
  runs : s'.runs = s.runs
  effects : s'.effects = s.effects
  lineages : s'.conversationLineages = s.conversationLineages
  events : s'.conversationEvents = s.conversationEvents

/-- A change that leaves all turns alone is an update. -/
theorem SameTurns.update (h : SameTurns s s') (hgrow : Grows s s')
    (hthr : ∀ id thread, s'.threads.lookup id = some thread →
      s.threads.lookup id = some thread ∨ StoredThread s' id thread) :
    Update s s' none where
  grows := hgrow
  newThread := hthr
  kept id _ := by rw [h.turns]
  keeps id turn _ _ :=
    ⟨by rw [h.runs], fun _ _ => by rw [h.effects], by rw [h.lineages], by rw [h.events]⟩
  live id turn hid := by cases hid
  written id turn hid := by cases hid

/-- A change to the records of one turn, which read back as the snapshot. -/
structure Touch (s s' : State) (snapshot : ConversationTurnSnapshot) : Prop where
  grows : Grows s s'
  threads : s'.threads = s.threads
  turns : s'.conversationTurns.lookup snapshot.turn.id = some snapshot.turn ∧
    ∀ id, id ≠ snapshot.turn.id →
      s'.conversationTurns.lookup id = s.conversationTurns.lookup id
  runs : ∀ id, id ≠ snapshot.turn.runId → s'.runs.lookup id = s.runs.lookup id
  effects : ∀ id, snapshot.turn.effectId ≠ some id → s'.effects.lookup id = s.effects.lookup id
  lineages : ∀ id, id ≠ snapshot.turn.id →
    s'.conversationLineages.lookup id = s.conversationLineages.lookup id
  events : ∀ id, id ≠ snapshot.turn.id →
    s'.conversationEvents.lookup id = s.conversationEvents.lookup id
  key : s'.conversationTurnKeys.lookup snapshot.turn.idempotencyKey = some snapshot.turn.id
  read : TurnRead s' snapshot
  live : ∀ turn, s.conversationTurns.lookup snapshot.turn.id = some turn →
    turn.state.isTerminal = false
  apart : ∀ id turn, id ≠ snapshot.turn.id → s.conversationTurns.lookup id = some turn →
    Apart turn snapshot.turn

/-- A change to the records of one turn is an update. -/
theorem Touch.update (h : Touch s s' snapshot) (hs : Consistent s) :
    Update s s' (some snapshot.turn.id) where
  grows := h.grows
  newThread id thread hthread := .inl (h.threads ▸ hthread)
  kept id hid := h.turns.2 id fun heq => hid (congrArg some heq.symm)
  keeps id turn hid hturn := by
    have hne : id ≠ snapshot.turn.id := fun heq => hid (congrArg some heq.symm)
    have hapart := h.apart id turn hne hturn
    obtain ⟨rfl, -⟩ := hs.turn id turn hturn
    exact ⟨h.runs _ hapart.run, fun id' heff => h.effects _ (hapart.effect id' heff),
      h.lineages _ hne, h.events _ hne⟩
  live id turn hid hturn := by
    obtain rfl := some.inj hid
    exact h.live turn hturn
  written id turn hid hturn := by
    obtain rfl := some.inj hid
    obtain rfl : snapshot.turn = turn := mem_unique h.turns.1 hturn
    exact ⟨rfl, ⟨snapshot, rfl, h.read⟩, h.key, h.apart⟩

/-- Records that a canonical snapshot links read back as that snapshot. -/
lemma TurnRead.of_canonical (hcan : isCanonicalConversationSnapshot snapshot = true)
    (huser : s.messages.lookup snapshot.turn.userMessageId = some snapshot.userMessage)
    (hasst : ∀ msg, snapshot.assistantMessage = some msg →
      s.messages.lookup msg.id = some msg)
    (hrun : s.runs.lookup snapshot.run.id = some snapshot.run)
    (heff : ∀ effect, snapshot.effect = some effect →
      s.effects.lookup effect.id = some effect)
    (hlin : s.conversationLineages.lookup snapshot.turn.id = some snapshot.lineage)
    (hthr : ∃ thread, s.threads.lookup snapshot.turn.threadId = some thread ∧
      thread.projectId = snapshot.turn.projectId ∧ thread.restore.isOk = true)
    (hproj : s.projects.contains snapshot.turn.projectId = true)
    (hevs : s.conversationEvents.lookup snapshot.turn.id = some events)
    (hlogs : Logs events snapshot.turn (snapshot.assistantMessage.map Message.content)) :
    TurnRead s snapshot := by
  obtain ⟨hrid, heffectId, hass⟩ := links_of_canonical hcan
  obtain ⟨log, hrest, hval⟩ := hlogs
  refine ⟨huser, ?_, ?_, ?_, hlin, hthr, hproj, hcan, events, log, hevs, hrest, hval⟩
  · rw [hass]
    exact .of_map hasst
  · rw [hrid]
    exact hrun
  · rw [heffectId]
    exact .of_map heff

/-! ## The moves of a turn -/

/-- What loading a turn says about its stored records. -/
theorem loadSnapshot_read {turnId : ConversationTurnId} (h : loadSnapshot s turnId = .ok snapshot) :
    s.conversationTurns.lookup turnId = some snapshot.turn ∧ TurnRead s snapshot := by
  obtain ⟨hsto, hsnap⟩ := loadSnapshot_eq_ok.1 h
  obtain ⟨-, hread, -⟩ := conversationSnapshotWith_eq_ok.1 hsnap
  exact ⟨hsto, hread⟩

/-- An effect that is not stored is not linked by a stored turn. -/
lemma Consistent.effectId_ne (hs : Consistent s)
    (hturn : s.conversationTurns.lookup id = some turn) {effectId : EffectId}
    (hnew : s.effects.lookup effectId = none) :
    turn.effectId ≠ some effectId := by
  intro heq
  obtain ⟨-, snapshot, rfl, hread⟩ := hs.turn id turn hturn
  have hlink := hread.effect
  rw [heq] at hlink
  obtain ⟨effect, heff⟩ := hlink.exists_lookup
  rw [hnew] at heff
  cases heff

variable {turnEvents : List ConversationTurnEvent} {cur : ConversationTurnSnapshot}

/-- A stored turn that moves, written with its records, touches only itself. -/
lemma touch_writeTerminal (commit : TerminalTurnCommit) {assistant : Option Message}
    (hs : Consistent s) (hload : loadSnapshot s commit.turn.id = .ok cur)
    (hmov : TurnMoved cur.turn commit.turn)
    (hnew : ∀ msg, assistant = some msg → s.messages.lookup msg.id = none)
    (hsnap : snapshot = { cur with
      turn := commit.turn
      assistantMessage := assistant
      run := commit.run
      effect := commit.effect })
    (hcan : isCanonicalConversationSnapshot snapshot = true)
    (hlogs : Logs turnEvents commit.turn (assistant.map Message.content))
    (heff : ∀ id turn, id ≠ commit.turn.id → s.conversationTurns.lookup id = some turn →
      ∀ effectId, turn.effectId = some effectId → commit.turn.effectId ≠ some effectId) :
    Touch s (s.writeTerminal commit assistant turnEvents) snapshot := by
  subst hsnap
  obtain ⟨hsto, hread⟩ := loadSnapshot_read hload
  obtain ⟨hrid, heffectId, -⟩ := links_of_canonical hcan
  have hkey : s.conversationTurnKeys.lookup commit.turn.idempotencyKey = some commit.turn.id := by
    rw [hmov.idempotencyKey]
    exact hs.key _ _ hsto
  have hmsgs : s.messages.Extends (insertOptional s.messages Message.id assistant) := by
    cases hasst : assistant with
    | none => exact .refl _
    | some msg => exact .insert _ (hnew msg hasst)
  refine ⟨⟨.refl _, .refl _, hmsgs, .refl _, .refl _⟩, rfl,
    ⟨by simp, fun id hid => by simp [hid]⟩, ?_, ?_,
    fun _ _ => rfl, fun id hid => lookup_insert_of_ne _ _ hid, hkey, ?_, ?_, ?_⟩
  · intro id hid
    exact lookup_insert_of_ne _ _ fun heq => hid (heq.trans hrid.symm)
  · intro id hid
    exact lookup_insertOptional_of_ne (heffectId ▸ hid)
  · refine .of_canonical hcan ?_ (fun _ => lookup_insertOptional)
      (lookup_insert_self _ _ _) (fun _ => lookup_insertOptional) ?_ ?_ ?_
      (lookup_insert_self _ _ _) hlogs
    · rw [hmov.userMessageId]
      exact hmsgs _ _ hread.userMessage
    · rw [hmov.id]
      exact hread.lineage
    · rw [hmov.threadId, hmov.projectId]
      exact hread.thread
    · rw [hmov.projectId]
      exact hread.project
  · intro turn hturn
    obtain rfl : cur.turn = turn := mem_unique hsto hturn
    exact hmov.not_isTerminal
  · intro id turn hid hturn
    exact (hs.apart _ _ _ _ hid hturn hsto).moved hmov (heff id turn hid hturn)

lemma ProviderStartChecked.touch {commit : ProviderStartCommit}
    (h : ProviderStartChecked s commit cur turnEvents) (hs : Consistent s) :
    Touch s (s.writeProviderStart commit turnEvents) { cur with
      turn := commit.turn
      assistantMessage := none
      run := commit.run
      effect := some commit.effect } := by
  refine touch_writeTerminal { commit with
    expectedEffectRevision := none
    assistantMessage := none } hs h.loaded h.moved (by simp) rfl h.canonical
    (extendedEventLog_logs h.extended) ?_
  intro id turn _ hturn effectId heff heq
  have hsame : commit.effect.id = effectId := mem_unique h.effectId heq
  exact hs.effectId_ne hturn h.newEffect (hsame ▸ heff)

lemma TerminalChecked.touch {commit : TerminalTurnCommit} {assistant : Option Message}
    (h : TerminalChecked s commit cur assistant turnEvents) (hs : Consistent s) :
    Touch s (s.writeTerminal commit assistant turnEvents) { cur with
      turn := commit.turn
      assistantMessage := assistant
      run := commit.run
      effect := commit.effect } := by
  refine touch_writeTerminal commit hs h.loaded h.moved h.newAssistant rfl h.canonical
    (extendedEventLog_logs h.extended) ?_
  intro id turn hid hturn
  rw [h.effectId]
  exact (hs.apart _ _ _ _ hid hturn (loadSnapshot_read h.loaded).1).effect

/-- More text touches the turn it belongs to. -/
theorem TextChecked.touch
    (h : TextChecked s append events snapshot.turn log log') (hs : Consistent s)
    (hread : TurnRead s snapshot) : Touch s (s.writeTurnText append events) snapshot := by
  obtain ⟨hid, -⟩ := hs.turn _ _ h.stored
  have hsto := h.stored
  have hlogs := h.logs hid
  rw [← hid] at hsto
  have hasst : snapshot.assistantMessage = none := by
    obtain ⟨-, -, -, -, -, -, -, -, hcan⟩ :=
      isCanonicalConversationSnapshot_eq_true.1 hread.canonical
    obtain ⟨hdone, -⟩ := isCanonicalAssistantMessage_eq_true hcan
    rw [h.started] at hdone
    simpa using hdone
  refine ⟨⟨.refl _, .refl _, .refl _, .refl _, .refl _⟩, rfl, ⟨hsto, fun _ _ => rfl⟩,
    fun _ _ => rfl, fun _ _ => rfl, fun _ _ => rfl, ?_, hs.key _ _ hsto, ?_, ?_, ?_⟩
  · intro id hne
    exact lookup_insert_of_ne _ _ fun heq => hne (heq.trans hid.symm)
  · obtain ⟨log, hrest, hval⟩ := hlogs
    refine { hread with log := ⟨_, log, ?_, hrest, by rw [hasst]; exact hval⟩ }
    rw [hid]
    exact lookup_insert_self _ _ _
  · intro turn hturn
    obtain rfl : snapshot.turn = turn := mem_unique hsto hturn
    rw [h.started]
    rfl
  · intro id turn hne hturn
    exact hs.apart _ _ _ _ hne hturn hsto

/-! ## New turns -/

/-- A reserved turn with its records new touches only itself. -/
lemma touch_insertTurn {lineage : ConversationTurnLineage} {run : Run} {runEvent : NewRunEvent}
    {ctx : List Message} {userMsg : Message}
    (hs : Consistent s) (hnewT : s.conversationTurns.lookup turn.id = none)
    (hnewR : s.runs.lookup run.id = none)
    (hnewK : s.conversationTurnKeys.lookup turn.idempotencyKey = none)
    (hidle : ∀ id turn', s.conversationTurns.lookup id = some turn' →
      turn'.threadId = turn.threadId → turn'.state.isTerminal = true)
    (hcan : isCanonicalConversationSnapshot {
      turn := turn
      userMessage := userMsg
      assistantMessage := none
      run := run
      effect := none
      lineage := lineage } = true)
    (huser : s.messages.lookup turn.userMessageId = some userMsg)
    (hthr : ∃ thread, s.threads.lookup turn.threadId = some thread ∧
      thread.projectId = turn.projectId ∧ thread.restore.isOk = true)
    (hproj : s.projects.contains turn.projectId = true) (hlogs : Logs [event] turn none) :
    Touch s (s.insertTurn turn lineage run runEvent ctx event) {
      turn := turn
      userMessage := userMsg
      assistantMessage := none
      run := run
      effect := none
      lineage := lineage } := by
  obtain ⟨hrid, heff, -⟩ := links_of_canonical hcan
  refine ⟨⟨.refl _, .refl _, .refl _, .refl _, .insert _ hnewK⟩, rfl,
    ⟨lookup_insert_self _ _ _, fun id hid => lookup_insert_of_ne _ _ hid⟩, ?_,
    fun _ _ => rfl, fun id hid => lookup_insert_of_ne _ _ hid,
    fun id hid => lookup_insert_of_ne _ _ hid, lookup_insert_self _ _ _, ?_, ?_, ?_⟩
  · intro id hid
    exact lookup_insert_of_ne _ _ fun heq => hid (heq.trans hrid.symm)
  · exact .of_canonical hcan huser (by simp) (lookup_insert_self _ _ _) (by simp)
      (lookup_insert_self _ _ _) hthr hproj (lookup_insert_self _ _ _) hlogs
  · intro turn' hturn'
    rw [hnewT] at hturn'
    cases hturn'
  · intro id turn' hid hturn'
    obtain ⟨-, snapshot, rfl, hread⟩ := hs.turn id turn' hturn'
    refine ⟨fun heq => ?_, fun effectId _ heq => ?_, fun heq => .inl (hidle id _ hturn' heq)⟩
    · have hsto := hread.run
      rw [heq, hrid, hnewR] at hsto
      cases hsto
    · rw [heff] at heq
      cases heq

/-- Updates one after the other, of turns that the predicate allows. -/
abbrev Updates (P : Option ConversationTurnId → Prop) : State → State → Prop :=
  Relation.ReflTransGen fun s s' => ∃ changed, P changed ∧ Update s s' changed

variable {P : Option ConversationTurnId → Prop}

/-- Updates keep the invariant. -/
theorem Updates.consistent (h : Updates P s s') (hs : Consistent s) : Consistent s' := by
  induction h with
  | refl => exact hs
  | tail _ hupd ih =>
    obtain ⟨changed, -, hupd⟩ := hupd
    exact hupd.consistent ih

lemma ReservationChecked.updates {input : TurnReservationInput} {prep : PreparedReservation}
    (h : ReservationChecked s input prep) (hs : Consistent s)
    (hkey : s.conversationTurnKeys.lookup input.turn.idempotencyKey = none) (hnone : P none)
    (hP : P (some input.turn.id)) : Updates P s (s.writeReservation input prep) := by
  obtain ⟨seq, hseqd⟩ := h.sequenced
  obtain ⟨thread, project, hthr, hproj, hprojectId⟩ := h.owned
  have hmess : prep.userMessage.id = input.userMessage.id := by rw [hseqd]
  -- first the prompt and the bindings of the thread, which belong to no turn
  let base : State := { s with
    conversationThreadBindings :=
      if prep.bindThread then
        s.conversationThreadBindings.insert input.turn.threadId prep.credentialBinding
      else s.conversationThreadBindings
    conversationThreadModels :=
      if prep.bindModel then
        s.conversationThreadModels.insert input.turn.threadId input.turn.modelId
      else s.conversationThreadModels
    messages := s.messages.insert prep.userMessage.id prep.userMessage }
  have hbase : Update s base none := by
    refine SameTurns.update ⟨rfl, rfl, rfl, rfl, rfl⟩ ⟨.refl _, .refl _, .insert _ ?_, ?_, .refl _⟩
      fun id thread hid => .inl hid
    · rw [hmess]
      exact h.newMessage
    · cases hbind : prep.bindThread with
      | false => simp [base, hbind, Table.Extends.refl]
      | true => simpa [base, hbind] using Table.Extends.insert _ (h.bindThread hbind)
  have hcons := hbase.consistent hs
  refine .tail (.single ⟨none, hnone, hbase⟩) ⟨_, hP, (touch_insertTurn hcons h.newTurn h.newRun
    hkey ?_ h.canonical ?_ ⟨thread, hthr, hprojectId, (hs.thread _ _ hthr).restored⟩ ?_
    (createdEventLog_logs h.created)).update hcons⟩
  · intro id turn hturn htid
    refine h.idle turn ?_
    rw [State.threadTurns, List.mem_filter]
    exact ⟨mem_values.2 ⟨id, hturn⟩, decide_eq_true htid⟩
  · rw [← h.userMessageId, ← hmess]
    exact lookup_insert_self _ _ _
  · rw [← hprojectId]
    exact contains_iff.2 ⟨project, hproj⟩

lemma Update.of_journals (h : s.withJournals s' = s') : Update s s' none := by
  rw [← h]
  exact SameTurns.update ⟨rfl, rfl, rfl, rfl, rfl⟩ ⟨.refl _, .refl _, .refl _, .refl _, .refl _⟩
    fun id thread hid => .inl hid

section Fork

variable {plan : ConversationForkPlan} {prep : PreparedConversationFork}
  {source : ConversationTurnSnapshot} {parent : Thread} {kind : ConversationForkKind}
  {sourceMessage : Message}

variable (h : ForkChecked s plan prep source parent kind sourceMessage)
include h

/-- The child thread of a fork with its messages is an update. -/
lemma ForkChecked.update_thread
    (hs : Consistent s) : Update s (s.writeForkThread plan prep) none := by
  obtain ⟨hsto, hread⟩ := loadSnapshot_read h.loaded
  obtain ⟨hsour, -⟩ := hs.turn _ _ hsto
  have hpar : parent.id = source.turn.threadId := (hs.thread _ _ h.parentStored).id
  have hgrow : Grows s (s.writeForkThread plan prep) :=
    ⟨.refl _, .insert _ h.newThread, .insertAll _ h.messages.1, .insert _ h.unbound, .refl _⟩
  have hch : ForkOf (s.writeForkThread plan prep) plan.childThread parent source
      sourceMessage kind := {
    origin := h.origin
    parentStored := hgrow.threads _ _ (hpar ▸ h.parentStored)
    sourceStored := hsour ▸ hsto
    read := hread.keep hgrow ⟨rfl, fun _ _ => rfl, rfl, rfl⟩
    eligible := h.eligible
    message := h.message
    role := h.role
    threadId := hpar.symm
    project := h.parentProject.trans h.childProject.symm
    root := h.root.symm
    depth := h.depth.symm
    binding := ⟨prep.credentialBindingId, lookup_insert_self _ _ _, hgrow.bindings _ _ h.binding⟩ }
  refine SameTurns.update ⟨rfl, rfl, rfl, rfl, rfl⟩ hgrow fun id thread hthr => ?_
  by_cases hid : id = plan.childThread.id
  · subst hid
    obtain rfl : plan.childThread = thread :=
      mem_unique (lookup_insert_self _ _ _) hthr
    exact .inr ⟨rfl, h.restored, .fork _ _ _ _ hch⟩
  · exact .inl ((lookup_insert_of_ne _ _ hid).symm.trans hthr)

/-- The turn that a fork starts touches only itself. -/
lemma ForkChecked.update_turn
    (hs : Consistent s) {turnPlan : ConversationForkTurnPlan} {event : ConversationTurnEvent}
    {userMsg : Message} (hturn : ForkTurnChecked s plan turnPlan event userMsg)
    (ctx : List Message) :
    Update (s.writeForkThread plan prep)
      ((s.writeForkThread plan prep).insertTurn turnPlan.turn turnPlan.lineage turnPlan.run
        turnPlan.runEvent ctx event) (some turnPlan.turn.id) := by
  have hcons := (h.update_thread hs).consistent hs
  refine (touch_insertTurn hcons hturn.newTurn hturn.newRun hturn.newKey ?_ hturn.canonical ?_
    ?_ ?_ (createdEventLog_logs hturn.created)).update hcons
  · -- the child thread is new, so it has no turn
    intro id turn hoth htid
    obtain ⟨-, snapshot, rfl, hread⟩ := hs.turn id turn hoth
    obtain ⟨thread, hthr, -⟩ := hread.thread
    rw [htid, hturn.threadId, h.newThread] at hthr
    cases hthr
  · rw [hturn.userMessageId]
    exact lookup_insertAll_of_mem _ _ hturn.inPlan h.messages.2
  · refine ⟨plan.childThread, ?_, hturn.projectId.symm, h.restored⟩
    rw [hturn.threadId]
    exact lookup_insert_self _ _ _
  · rw [hturn.projectId, h.childProject]
    exact h.project

/-- A fork is a sequence of updates: the child thread, the turn it starts, and the journals. -/
theorem ForkChecked.updates (hs : Consistent s) (hnone : P none)
    (hP : ∀ turnPlan, plan.startedTurn = some turnPlan → P (some turnPlan.turn.id)) :
    Updates P s (s.writeFork plan prep) := by
  have hthr : Updates P s (s.writeForkThread plan prep) :=
    .single ⟨none, hnone, h.update_thread hs⟩
  cases hplan : plan.startedTurn with
  | none =>
    refine hthr.tail ⟨none, hnone, .of_journals ?_⟩
    simp [State.writeFork, hplan, State.withJournals]
  | some turnPlan =>
    obtain ⟨ctx, event, userMsg, hctx, hev, hturn⟩ := h.turn turnPlan hplan
    refine (hthr.tail ⟨_, hP turnPlan hplan, h.update_turn hs hturn ctx⟩).tail
      ⟨none, hnone, .of_journals ?_⟩
    simp [State.writeFork, hplan, hctx, hev, State.withJournals]

end Fork

/-- The record or the events of a turn differ. -/
def TurnChanged (s s' : State) (id : ConversationTurnId) : Prop :=
  s'.conversationTurns.lookup id ≠ s.conversationTurns.lookup id ∨
    s'.conversationEvents.lookup id ≠ s.conversationEvents.lookup id

/-- Every write is a sequence of updates of turns that it changes. -/
theorem Write.updates {ends : Set ConversationTurn} (h : Write ends s s') (hs : Consistent s)
    (hnone : P none) (hP : ∀ id, TurnChanged s s' id → P (some id)) : Updates P s s' := by
  cases h with
  | journal _ hj => exact .single ⟨none, hnone, .of_journals hj⟩
  | project project hnew =>
    exact .single ⟨none, hnone, SameTurns.update ⟨rfl, rfl, rfl, rfl, rfl⟩
      ⟨.insert _ hnew, .refl _, .refl _, .refl _, .refl _⟩ fun id thread hid => .inl hid⟩
  | message msg hnew hthr horig hseq =>
    exact .single ⟨none, hnone, SameTurns.update ⟨rfl, rfl, rfl, rfl, rfl⟩
      ⟨.refl _, .refl _, .insert _ hnew, .refl _, .refl _⟩ fun id thread hid => .inl hid⟩
  | thread thread hproj hnew hrest hori =>
    refine .single ⟨none, hnone, SameTurns.update ⟨rfl, rfl, rfl, rfl, rfl⟩
      ⟨.refl _, .insert _ hnew, .refl _, .refl _, .refl _⟩ fun id thread' hid => ?_⟩
    by_cases hne : id = thread.id
    · subst hne
      obtain rfl : thread = thread' :=
        mem_unique (lookup_insert_self _ _ _) hid
      have hwell := Thread.wellFormed_of_restore hrest
      simp only [ConversationThreadLineage.wellFormed, hori, Bool.and_eq_true,
        decide_eq_true_eq] at hwell
      exact .inr ⟨rfl, hrest, .original hori hwell.1 hwell.2⟩
    · exact .inl ((lookup_insert_of_ne _ _ hne).symm.trans hid)
  | reserve input prep hacc hkey hchk =>
    refine hchk.updates hs hkey hnone (hP _ (.inl ?_))
    simp [hchk.newTurn]
  | fork plan prep source parent kind sourceMessage hchk =>
    refine hchk.updates hs hnone fun turnPlan hplan => hP _ (.inl ?_)
    obtain ⟨_, _, _, -, -, hturn⟩ := hchk.turn turnPlan hplan
    rw [hchk.conversationTurns, hplan]
    simp [hturn.newTurn]
  | start commit cur turnEvents hchk
  | terminal commit cur assistant turnEvents hchk hends =>
    have htouch := hchk.touch hs
    refine .single ⟨_, hP _ (.inl ?_), htouch.update hs⟩
    -- the touch moves the stored turn
    rw [htouch.turns.1, (loadSnapshot_read hchk.loaded).1]
    intro heq
    exact hchk.moved.state_ne (congrArg ConversationTurn.state (some.inj heq)).symm
  | text append events turn log log' hchk =>
    obtain ⟨hid, snapshot, rfl, hread⟩ := hs.turn _ _ hchk.stored
    refine .single ⟨_, hP _ (.inr ?_), (hchk.touch hs hread).update hs⟩
    obtain ⟨stored, hsto, -⟩ := conversationEventLog_eq_ok.1 hchk.read
    rw [hid]
    simp [State.writeTurnText, hsto, hchk.nonempty]

/-! ## Reading from a consistent store -/

/-- In a consistent store the ancestry check of a thread succeeds. -/
theorem Consistent.validateLineageWithin (hs : Consistent s) {fuel : ℕ} {thread : Thread}
    (hthr : s.threads.lookup thread.id = some thread)
    (hdepth : thread.lineage.forkDepth ≤ fuel) :
    validateLineageWithin fuel s thread = .ok () := by
  -- the fork depth falls by one from a child to its parent
  induction fuel generalizing thread with
  | zero =>
    cases (hs.thread _ _ hthr).rooted with
    | original hori hroot hzero =>
      simp [GrokDesktop.validateLineageWithin, hori, hroot, hzero]
    | fork parent source sourceMessage kind hfork =>
      have := hfork.depth
      omega
  | succ fuel ih =>
    cases (hs.thread _ _ hthr).rooted with
    | original hori hroot hzero =>
      simp [GrokDesktop.validateLineageWithin, hori, hroot, hzero]
    | fork parent source sourceMessage kind hfork =>
      have hpar : GrokDesktop.validateLineageWithin fuel s parent = .ok () :=
        ih hfork.parentStored (by have := hfork.depth; omega)
      have hsrc : conversationSnapshotWith
          (fun t => (GrokDesktop.validateLineageWithin fuel s t).isOk) s source.turn
            = .ok source := by
        refine conversationSnapshotWith_eq_ok.2 ⟨rfl, hfork.read, parent, ?_, ?_⟩
        · rw [hfork.threadId]
          exact hfork.parentStored
        · rw [hpar]
          rfl
      obtain ⟨binding, hbind, hparentBinding⟩ := hfork.binding
      rw [GrokDesktop.validateLineageWithin, hfork.origin]
      simp [hfork.parentStored, hfork.sourceStored, hsrc, hfork.eligible, hfork.message, hfork.role,
        hfork.threadId, hfork.project, hfork.root, hfork.depth, hbind, hparentBinding, rejectIf]

/-- In a consistent store every turn reads back. -/
theorem Consistent.conversationSnapshot (hs : Consistent s) (hread : TurnRead s snapshot) :
    conversationSnapshot s snapshot.turn = .ok snapshot := by
  obtain ⟨thread, hthr, -⟩ := hread.thread
  obtain ⟨hid, hrsd, -⟩ := hs.thread _ _ hthr
  have hdepth : thread.lineage.forkDepth ≤ lineageWalkBound :=
    (Thread.forkDepth_le_of_restore hrsd).trans (by decide)
  refine conversationSnapshotWith_eq_ok.2 ⟨rfl, hread, thread, hthr, ?_⟩
  rw [validatePersistedThreadLineage, hs.validateLineageWithin (by rw [hid]; exact hthr) hdepth]
  rfl

end Invariant

end GrokDesktop
