import GrokDesktop.Application.Errors
import GrokDesktop.Memory.State

/-!
# Canonical turn snapshots

A stored turn is read together with the records it links: its messages, run, effect, lineage,
thread and event log. `conversationSnapshot` accepts them only in the one combination that the
lifecycle can produce.

The check of a forked thread reads the snapshot of the turn it was forked from, which checks that
turn's thread, and so on up to the root. Fork depths fall by one at each step and start at most at
64, so a walk of more steps can only fail; the model bounds it by `lineageWalkBound`.
-/

namespace GrokDesktop

open Except ConversationTurn Option

/-! ## Messages, runs and effects of one turn -/

/-- The message equals the one `Message.new` makes, up to the sequence the store assigns. -/
def isCanonicalMessage (message : Message) (role : MessageRole) (createdAt : UnixMillis)
    (sequence : ℕ) : Bool :=
  match Message.new message.id message.threadId role message.content createdAt with
  | .error _ => false
  | .ok canonical => { canonical with sequence := sequence } = message

lemma isCanonicalMessage_eq_true {msg : Message} {role : MessageRole} {createdAt : UnixMillis}
    {seq : ℕ} (h : isCanonicalMessage msg role createdAt seq = true) :
    msg.role = role ∧ msg.state = .active ∧ msg.derivation = .original := by
  unfold isCanonicalMessage at h
  split at h
  · cases h
  · rename_i canonical hnew
    simp only [Message.new, bind_eq_ok, return_eq_ok] at hnew
    obtain ⟨_, -, rfl⟩ := hnew
    rw [← of_decide_eq_true h]
    exact ⟨rfl, rfl, rfl⟩

/-- The message can be the user message of a turn. -/
def isReachableTurnMessage (message : Message) (role : MessageRole) (createdAt : UnixMillis)
    (sequence : ℕ) : Bool :=
  message.role = role && message.createdAt = createdAt && message.sequence = sequence &&
    message.state = .active && message.restore.isOk

/-- The run state that belongs to a terminal turn state. -/
def terminalRunState : ConversationTurnState → Option RunState
  | .completed => some .completed
  | .failed => some .failed
  | .cancelled => some .cancelled
  | .interruptedNeedsReview => some .interruptedNeedsReview
  | .reserved | .providerStarted => none

/-- The target text of the provider effect of a turn. -/
def providerEffectTarget (modelId : String) : String :=
  "official xAI Responses API model " ++ modelId

/-- The run of a turn once dispatch is recorded. -/
def dispatchedRun (run : Run) (at_ : UnixMillis) : Except TransitionError Run := do
  let run ← run.transition .planning at_
  run.transition .running at_

variable (snapshot : ConversationTurnSnapshot)

/-- The run that belongs to the turn of a snapshot. -/
def canonicalRunForSnapshot : Option Run := do
  let turn := snapshot.turn
  let queued := Run.queued turn.runId turn.projectId turn.threadId turn.createdAt
  let expectedRun ← match turn.state with
    | .reserved | .cancelled => some queued
    | .providerStarted | .completed | .failed | .interruptedNeedsReview => do
        let effect ← snapshot.effect
        let expectedRun ← (dispatchedRun queued effect.createdAt).toOption
        if turn.state = .providerStarted ∧ turn.updatedAt ≠ effect.createdAt then none
        else some expectedRun
  match terminalRunState turn.state with
  | some state => (expectedRun.transition state turn.updatedAt).toOption
  | none => some expectedRun

/-- The effect of a turn right after dispatch is recorded. -/
def startedProviderEffect (effectId : EffectId) (runId : RunId) (modelId : String)
    (at_ : UnixMillis) : Except EffectTransitionError SideEffect :=
  (SideEffect.prepare effectId runId .externalMutation (providerEffectTarget modelId)
    .nonIdempotent at_).start at_

/-- The effect belongs to the turn of the snapshot. -/
def isCanonicalProviderEffect : Bool :=
  let turn := snapshot.turn
  match turn.state, snapshot.effect with
  | .reserved, effect | .cancelled, effect => effect.isNone
  | _, none => false
  | state, some effect =>
      match startedProviderEffect effect.id turn.runId turn.modelId effect.createdAt with
      | .error _ => false
      | .ok started =>
          let expected := match state with
            | .completed => started.finish true turn.updatedAt
            | .failed => started.finish false turn.updatedAt
            | .interruptedNeedsReview => started.interrupt turn.updatedAt
            | _ => .ok started
          match expected with
          | .error _ => false
          | .ok expected => expected = effect && turn.effectId = some effect.id

/-- A completed turn, and no other, has its assistant message. -/
def isCanonicalAssistantMessage : Bool :=
  let turn := snapshot.turn
  match turn.state, snapshot.assistantMessage with
  | .completed, some assistant =>
      turn.assistantMessageId = some assistant.id && assistant.threadId = turn.threadId &&
        snapshot.userMessage.sequence < assistant.sequence &&
        isCanonicalMessage assistant .assistant turn.updatedAt assistant.sequence
  | .completed, none => false
  | _, some _ => false
  | _, none => true

/-- The records of the snapshot are the ones the lifecycle of the turn produces. -/
def isCanonicalConversationSnapshot [UrlLibrary] (snapshot : ConversationTurnSnapshot) : Bool :=
  let turn := snapshot.turn
  turn.restore.isOk && (snapshot.lineage.restore turn.id).isOk &&
    turn.userMessageId = snapshot.userMessage.id &&
    turn.threadId = snapshot.userMessage.threadId &&
    snapshot.userMessage.sequence ≠ 0 &&
    isReachableTurnMessage snapshot.userMessage .user turn.createdAt
      snapshot.userMessage.sequence &&
    canonicalRunForSnapshot snapshot = some snapshot.run &&
    isCanonicalProviderEffect snapshot && isCanonicalAssistantMessage snapshot

variable {snapshot : ConversationTurnSnapshot}

/-- The parts of the check of a snapshot. -/
theorem isCanonicalConversationSnapshot_eq_true [UrlLibrary] :
    isCanonicalConversationSnapshot snapshot = true ↔
      snapshot.turn.restore.isOk = true ∧
      (snapshot.lineage.restore snapshot.turn.id).isOk = true ∧
      snapshot.turn.userMessageId = snapshot.userMessage.id ∧
      snapshot.turn.threadId = snapshot.userMessage.threadId ∧
      snapshot.userMessage.sequence ≠ 0 ∧
      isReachableTurnMessage snapshot.userMessage .user snapshot.turn.createdAt
        snapshot.userMessage.sequence = true ∧
      canonicalRunForSnapshot snapshot = some snapshot.run ∧
      isCanonicalProviderEffect snapshot = true ∧ isCanonicalAssistantMessage snapshot = true := by
  simp only [isCanonicalConversationSnapshot, Bool.and_eq_true, decide_eq_true_eq, and_assoc]

/-! ## What a canonical snapshot says -/

def linkedRunState : ConversationTurnState → RunState
  | .reserved => .queued
  | .providerStarted => .running
  | .completed => .completed
  | .failed => .failed
  | .cancelled => .cancelled
  | .interruptedNeedsReview => .interruptedNeedsReview

def linkedEffectState : ConversationTurnState → Option EffectState
  | .reserved | .cancelled => none
  | .providerStarted => some .executing
  | .completed => some .succeeded
  | .failed => some .failed
  | .interruptedNeedsReview => some .needsReview

lemma dispatchedRun_eq_ok {run run' : Run} {at_ : UnixMillis}
    (h : dispatchedRun run at_ = .ok run') : run'.id = run.id ∧ run'.state = .running := by
  simp only [dispatchedRun, bind_eq_ok, Run.transition_eq_ok] at h
  obtain ⟨_, ⟨-, -, rfl⟩, -, -, rfl⟩ := h
  exact ⟨rfl, rfl⟩

/-- The run that belongs to a turn, and its state. -/
theorem canonicalRunForSnapshot_eq_some {run : Run}
    (h : canonicalRunForSnapshot snapshot = some run) :
    run.id = snapshot.turn.runId ∧ run.state = linkedRunState snapshot.turn.state := by
  have hend : ∀ {run₀ run₁ : Run} {state : RunState} {at_ : UnixMillis},
      run₀.transition state at_ = .ok run₁ → run₁.id = run₀.id ∧ run₁.state = state := by
    intro run₀ run₁ state at_ htr
    obtain ⟨-, -, rfl⟩ := Run.transition_eq_ok.1 htr
    exact ⟨rfl, rfl⟩
  unfold canonicalRunForSnapshot at h
  cases hsta : snapshot.turn.state with
  | reserved =>
    simp only [hsta, terminalRunState, bind_eq_bind, bind_some, some.injEq] at h
    subst h
    exact ⟨rfl, rfl⟩
  | cancelled =>
    simp only [hsta, terminalRunState, bind_eq_bind, bind_some, toOption_eq_some] at h
    exact hend h
  | providerStarted =>
    simp only [hsta, terminalRunState, bind_eq_bind, bind_eq_some_iff,
      toOption_eq_some, bind_none, bind_some, ite_none_left_eq_some,
      some.injEq] at h
    obtain ⟨effect, -, _, hdisp, -, rfl⟩ := h
    exact dispatchedRun_eq_ok hdisp
  | completed | failed | interruptedNeedsReview =>
    simp only [hsta, terminalRunState, bind_eq_bind, bind_eq_some_iff,
      toOption_eq_some, bind_none, bind_some,
      ite_none_left_eq_some] at h
    obtain ⟨effect, -, _, hdisp, -, hterm⟩ := h
    obtain ⟨hid, hrun⟩ := hend hterm
    exact ⟨hid.trans (dispatchedRun_eq_ok hdisp).1, hrun⟩

/-- The effect of a turn, and its state. -/
theorem isCanonicalProviderEffect_eq_true (h : isCanonicalProviderEffect snapshot = true) :
    snapshot.effect.map SideEffect.state = linkedEffectState snapshot.turn.state ∧
      ∀ effect, snapshot.effect = some effect → snapshot.turn.effectId = some effect.id := by
  have hmov : ∀ {effect₀ effect₁ : SideEffect} {state : EffectState} {at_ : UnixMillis},
      effect₀.moveTo state at_ = .ok effect₁ → effect₁.state = state := by
    intro effect₀ effect₁ state at_ hmove
    obtain ⟨-, rfl⟩ := SideEffect.moveTo_eq_ok.1 hmove
    rfl
  unfold isCanonicalProviderEffect at h
  cases heff : snapshot.effect with
  | none => cases hsta : snapshot.turn.state <;> simp_all [linkedEffectState]
  | some effect =>
    cases hsta : snapshot.turn.state
    case reserved | cancelled => simp [heff, hsta] at h
    case providerStarted =>
      simp only [heff, hsta] at h
      split at h
      · cases h
      · rename_i started hstd
        simp only [Bool.and_eq_true, decide_eq_true_eq] at h
        obtain ⟨rfl, hid⟩ := h
        unfold startedProviderEffect SideEffect.start at hstd
        exact ⟨congrArg some (hmov hstd), fun e he => some.inj he ▸ hid⟩
    all_goals
      simp only [heff, hsta] at h
      split at h
      · cases h
      · split at h
        · cases h
        · rename_i expected hexp
          simp only [Bool.and_eq_true, decide_eq_true_eq] at h
          obtain ⟨rfl, hid⟩ := h
          exact ⟨congrArg some (hmov hexp), fun e he => some.inj he ▸ hid⟩

/-- A turn has an assistant message exactly when it is completed. -/
theorem isCanonicalAssistantMessage_eq_true (h : isCanonicalAssistantMessage snapshot = true) :
    (snapshot.assistantMessage.isSome = true ↔ snapshot.turn.state = .completed) ∧
      ∀ msg, snapshot.assistantMessage = some msg →
        snapshot.turn.assistantMessageId = some msg.id := by
  unfold isCanonicalAssistantMessage at h
  cases hmsg : snapshot.assistantMessage with
  | none | some msg => cases hsta : snapshot.turn.state <;> simp_all

section Links

variable [UrlLibrary] {snapshot : ConversationTurnSnapshot}

/-- A canonical turn links exactly the records of its snapshot. -/
theorem links_of_canonical (h : isCanonicalConversationSnapshot snapshot = true) :
    snapshot.turn.runId = snapshot.run.id ∧
      snapshot.turn.effectId = snapshot.effect.map SideEffect.id ∧
      snapshot.turn.assistantMessageId = snapshot.assistantMessage.map Message.id := by
  obtain ⟨hrest, -, -, -, -, -, hrun, heff, hasst⟩ :=
    isCanonicalConversationSnapshot_eq_true.1 h
  obtain ⟨hsta, hlink⟩ := isCanonicalProviderEffect_eq_true heff
  obtain ⟨hdone, hmsg⟩ := isCanonicalAssistantMessage_eq_true hasst
  have hreach := isReachable_of_restore hrest
  refine ⟨(canonicalRunForSnapshot_eq_some hrun).1.symm, ?_, ?_⟩
  · cases he : snapshot.effect with
    | some effect => exact hlink effect he
    | none =>
      -- without an effect the turn was never dispatched
      simp only [isReachable] at hreach
      cases hturn : snapshot.turn.state <;> rw [hturn] at hsta hreach <;>
        simp_all [linkedEffectState, dispatchAbsent]
  · cases hm : snapshot.assistantMessage with
    | some msg => exact hmsg msg hm
    | none =>
      simp only [isReachable] at hreach
      cases hturn : snapshot.turn.state <;> rw [hturn] at hdone hreach <;>
        simp_all [outcomeAbsent]

end Links

/-! ## Reading a snapshot -/

def ConversationTurnEventError.display : ConversationTurnEventError → String
  | .invalidSequence => "invalid conversation turn event sequence"
  | .wrongTurn => "conversation turn event owner does not match the stream"
  | .invalidOrder => "invalid conversation turn event order"
  | .invalidTransition source target =>
      "invalid conversation turn event transition from " ++ source.debug ++ " to " ++ target.debug
  | .invalidText => "invalid conversation turn event text"
  | .invalidTextOffset => "invalid conversation turn event UTF-8 offset"
  | .textLimitExceeded => "conversation turn event text exceeds the message limit"
  | .eventLimitExceeded => "conversation turn event stream contains too many text events"
  | .snapshotMismatch => "conversation turn event stream does not match the turn snapshot"

def conversationEventLog (s : State) (turnId : ConversationTurnId) :
    Except StoreError ConversationTurnEventLog := do
  let events ← okOr (s.conversationEvents.lookup turnId)
    (.internal "conversation turn lost its event log")
  (ConversationTurnEventLog.restore turnId events).mapError fun error =>
    .internal ("conversation event log is invalid: " ++ error.display)

/-- The record of an optional link. -/
def linkedRecord {κ α : Type} [DecidableEq κ] (t : Table κ α) (link : Option κ) (lost : String) :
    Except StoreError (Option α) :=
  match link with
  | none => .ok none
  | some key =>
      match t.lookup key with
      | none => .error (.internal lost)
      | some record => .ok (some record)

/-- The records that a turn links, read from their tables. -/
def linkedRecords (s : State) (turn : ConversationTurn) :
    Except StoreError ConversationTurnSnapshot := do
  let userMessage ← okOr (s.messages.lookup turn.userMessageId)
    (.internal "conversation turn lost its user message")
  let assistantMessage ← linkedRecord s.messages turn.assistantMessageId
    "conversation turn lost its assistant message"
  let run ← okOr (s.runs.lookup turn.runId) (.internal "conversation turn lost its run")
  let effect ← linkedRecord s.effects turn.effectId
    "conversation turn lost its provider effect"
  let lineage ← okOr (s.conversationLineages.lookup turn.id)
    (.internal "conversation turn lost its lineage")
  let lineage ← (lineage.restore turn.id).mapError fun _ =>
    .internal "conversation turn lineage is invalid"
  return {
    turn := turn
    userMessage := userMessage
    assistantMessage := assistantMessage
    run := run
    effect := effect
    lineage := lineage }

section Snapshot

variable {s : State} {turnId : ConversationTurnId}

lemma linkedRecord_eq_ok {κ α : Type} [DecidableEq κ] {t : Table κ α} {link : Option κ}
    {lost : String} {record : Option α} :
    linkedRecord t link lost = .ok record ↔ t.Linked link record := by
  unfold linkedRecord
  constructor
  · intro h
    split at h
    · cases h
      exact .absent
    · split at h
      · cases h
      · cases h
        exact .present ‹_›
  · rintro (_ | h)
    · rfl
    · simp [h]

lemma conversationEventLog_eq_ok {log : ConversationTurnEventLog} :
    conversationEventLog s turnId = .ok log ↔ ∃ evs,
      s.conversationEvents.lookup turnId = some evs ∧
        ConversationTurnEventLog.restore turnId evs = .ok log := by
  simp only [conversationEventLog, bind_eq_ok, okOr_eq_ok, mapError_eq_ok]

/-- Rehydrating a lineage does not change it. -/
theorem ConversationTurnLineage.restore_eq_ok {lineage lineage' : ConversationTurnLineage}
    (h : lineage.restore turnId = .ok lineage') :
    lineage' = lineage := by
  unfold restore at h
  split at h
  · simp only [bind_eq_ok, return_eq_ok] at h
    obtain ⟨_, -, _, -, rfl⟩ := h
    rfl
  · simp only [bind_eq_ok, return_eq_ok] at h
    obtain ⟨_, -, rfl⟩ := h
    rfl

variable [UrlLibrary]

/-- Reads a turn with its linked records; `lineageOk` is the check of the thread's ancestry. -/
def conversationSnapshotWith (lineageOk : Thread → Bool) (s : State) (turn : ConversationTurn) :
    Except StoreError ConversationTurnSnapshot := do
  let snapshot ← linkedRecords s turn
  let thread ← okOr (s.threads.lookup turn.threadId)
    (.internal "conversation turn lost its thread")
  rejectIf (thread.projectId ≠ turn.projectId ∨ !s.projects.contains turn.projectId
    ∨ !thread.restore.isOk ∨ !lineageOk thread ∨ !isCanonicalConversationSnapshot snapshot)
    (.internal "conversation snapshot is internally inconsistent")
  let eventLog ← conversationEventLog s turn.id
  (eventLog.validateSnapshot turn (snapshot.assistantMessage.map Message.content)).mapError
    fun error => .internal ("conversation event log is inconsistent: " ++ error.display)
  return snapshot

/-- The stored records of a turn: every link leads to the record of the snapshot, and they belong
together. -/
structure TurnRead (s : State) (snapshot : ConversationTurnSnapshot) : Prop where
  userMessage : s.messages.lookup snapshot.turn.userMessageId = some snapshot.userMessage
  assistantMessage :
    s.messages.Linked snapshot.turn.assistantMessageId snapshot.assistantMessage
  run : s.runs.lookup snapshot.turn.runId = some snapshot.run
  effect : s.effects.Linked snapshot.turn.effectId snapshot.effect
  lineage : s.conversationLineages.lookup snapshot.turn.id = some snapshot.lineage
  thread : ∃ thread, s.threads.lookup snapshot.turn.threadId = some thread ∧
    thread.projectId = snapshot.turn.projectId ∧ thread.restore.isOk = true
  project : s.projects.contains snapshot.turn.projectId = true
  canonical : isCanonicalConversationSnapshot snapshot = true
  log : ∃ events log, s.conversationEvents.lookup snapshot.turn.id = some events ∧
    ConversationTurnEventLog.restore snapshot.turn.id events = .ok log ∧
    log.validateSnapshot snapshot.turn (snapshot.assistantMessage.map Message.content) = .ok ()

/-- Reading a turn succeeds exactly when its records belong together and the check of its thread
does. -/
theorem conversationSnapshotWith_eq_ok {lineageOk : Thread → Bool} {turn : ConversationTurn}
    {snapshot : ConversationTurnSnapshot} :
    conversationSnapshotWith lineageOk s turn = .ok snapshot ↔
      snapshot.turn = turn ∧ TurnRead s snapshot ∧
        ∃ thread, s.threads.lookup turn.threadId = some thread ∧ lineageOk thread = true := by
  simp only [conversationSnapshotWith, linkedRecords, bind_eq_ok, okOr_eq_ok, linkedRecord_eq_ok,
    mapError_eq_ok, return_eq_ok, rejectIf_eq_ok, not_or, not_not, Bool.not_eq_true,
    Bool.not_eq_false', conversationEventLog_eq_ok]
  constructor
  · rintro ⟨_, ⟨userMsg, huser, assistant, hasst, run, hrun, effect, heff, lineage,
      hlin, lineage', hrest, rfl⟩, thread, hthr, _,
      ⟨hproj, hcont, hrsd, hok, hcan⟩, log, ⟨evs, hevs, hlog⟩, _, hval,
      rfl⟩
    obtain rfl := ConversationTurnLineage.restore_eq_ok hrest
    exact ⟨rfl, ⟨huser, hasst, hrun, heff, hlin, ⟨thread, hthr, hproj, hrsd⟩,
      hcont, hcan, evs, log, hevs, hlog, hval⟩, thread, hthr, hok⟩
  · rintro ⟨rfl, hread, thread, hthr, hok⟩
    obtain ⟨thread', hthr', hproj, hrsd⟩ := hread.thread
    obtain rfl : thread = thread' := mem_unique hthr hthr'
    obtain ⟨evs, log, hevs, hlog, hval⟩ := hread.log
    obtain ⟨-, hrest, -⟩ := isCanonicalConversationSnapshot_eq_true.1 hread.canonical
    obtain ⟨lineage', hlin'⟩ := isOk_iff.1 hrest
    obtain rfl := ConversationTurnLineage.restore_eq_ok hlin'
    exact ⟨_, ⟨_, hread.userMessage, _, hread.assistantMessage, _, hread.run, _, hread.effect, _,
      hread.lineage, _, hlin', rfl⟩, _, hthr, (),
      ⟨hproj, hread.project, hrsd, hok, hread.canonical⟩, log, ⟨evs, hevs, hlog⟩, (),
      hval, rfl⟩

/-- The source states a fork kind accepts. -/
def forkSourceEligible (kind : ConversationForkKind) (state : ConversationTurnState) : Bool :=
  match kind with
  | .branch | .regenerate => state = .completed
  | .editAndBranch => state = .completed || state = .cancelled || state = .failed

/-- The message of the source turn that a fork kind starts from. -/
def forkSourceMessage (kind : ConversationForkKind) (source : ConversationTurnSnapshot) :
    Option Message :=
  match kind with
  | .editAndBranch => some source.userMessage
  | .branch | .regenerate => source.assistantMessage

/-- Checks a thread's ancestry against the stored parent and source turn. -/
def validateLineageWithin : ℕ → State → Thread → Except StoreError Unit
  | fuel, s, thread =>
    match thread.lineage.origin with
    | .original =>
        rejectIf (thread.lineage.rootThreadId ≠ thread.id ∨ thread.lineage.forkDepth ≠ 0)
          (.internal "original conversation thread lineage is invalid")
    | .fork parentThreadId sourceTurnId sourceMessageId kind =>
      match fuel with
      | 0 => .error (.internal "conversation snapshot is internally inconsistent")
      | fuel + 1 => do
        let parent ← okOr (s.threads.lookup parentThreadId)
          (.internal "conversation fork lineage lost its parent")
        let sourceTurn ← okOr (s.conversationTurns.lookup sourceTurnId)
          (.internal "conversation fork lineage lost its source turn")
        let source ← conversationSnapshotWith (fun t => (validateLineageWithin fuel s t).isOk) s
          sourceTurn
        rejectIf (!forkSourceEligible kind source.turn.state)
          (.internal "conversation fork source lifecycle is invalid")
        let expectedSourceMessage ← okOr (forkSourceMessage kind source)
          (.internal "conversation fork lineage lost its source assistant")
        rejectIf (source.turn.threadId ≠ parent.id ∨ parent.projectId ≠ thread.projectId
          ∨ parent.lineage.rootThreadId ≠ thread.lineage.rootThreadId
          ∨ parent.lineage.forkDepth + 1 ≠ thread.lineage.forkDepth
          ∨ expectedSourceMessage.id ≠ sourceMessageId
          ∨ kind.sourceMessageRole ≠ expectedSourceMessage.role
          ∨ (s.conversationThreadBindings.lookup thread.id).isNone
          ∨ s.conversationThreadBindings.lookup thread.id ≠
              s.conversationThreadBindings.lookup parent.id)
          (.internal "conversation fork lineage is inconsistent")

/-- More steps than a chain of fork depths at most 64 can have. -/
def lineageWalkBound : ℕ := 65

/-- Checks a thread's ancestry against the stored parent and source turn. -/
def validatePersistedThreadLineage (s : State) (thread : Thread) : Except StoreError Unit :=
  validateLineageWithin lineageWalkBound s thread

/-- Reads a turn with its linked records and checks that they belong together. -/
def conversationSnapshot (s : State) (turn : ConversationTurn) :
    Except StoreError ConversationTurnSnapshot :=
  conversationSnapshotWith (fun thread => (validatePersistedThreadLineage s thread).isOk) s turn

/-- Reads the turn with the given identifier. -/
def loadSnapshot (s : State) (turnId : ConversationTurnId) :
    Except StoreError ConversationTurnSnapshot := do
  let turn ← okOr (s.conversationTurns.lookup turnId) .notFound
  conversationSnapshot s turn

/-- What loading a turn says. -/
theorem loadSnapshot_eq_ok {snapshot : ConversationTurnSnapshot} :
    loadSnapshot s turnId = .ok snapshot ↔
      s.conversationTurns.lookup turnId = some snapshot.turn ∧
        conversationSnapshot s snapshot.turn = .ok snapshot := by
  simp only [loadSnapshot, bind_eq_ok, okOr_eq_ok]
  constructor
  · rintro ⟨turn, hturn, hread⟩
    obtain ⟨rfl, -⟩ := conversationSnapshotWith_eq_ok.1 hread
    exact ⟨hturn, hread⟩
  · rintro ⟨hturn, hread⟩
    exact ⟨_, hturn, hread⟩

end Snapshot

end GrokDesktop
