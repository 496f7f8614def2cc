import GrokDesktop.Application.Background
import GrokDesktop.Memory.Writes

/-!
# At-most-once provider dispatch

The provider request of a turn is billable and must not be repeated. Several dispatch plans for one
turn can be live while the turn is also cancelled, reconciled or recovered. In every interleaving
the request is made at most once, after the turn was durably moved to `providerStarted`.

The argument is an instance of the two rules of `Lib.Pool`: a successful `commit_provider_start`
grants the permission to make the request, and the store grants it once per turn because the turn
never returns to `reserved`; and a turn is completed or failed only by the task that made the
request.
-/

namespace GrokDesktop

open Resumption Resumption.Program Service List

/-! ## The lifecycle of a stored turn -/

/-- The provider boundary of a turn in this state was committed. -/
def ConversationTurnState.isDispatched : ConversationTurnState → Bool
  | .providerStarted | .completed | .failed | .interruptedNeedsReview => true
  | .reserved | .cancelled => false

/-- The provider reported the end of a turn in this state. -/
def ConversationTurnState.isSettled : ConversationTurnState → Bool
  | .completed | .failed => true
  | .reserved | .providerStarted | .cancelled | .interruptedNeedsReview => false

/-- The stored turn satisfies a property. -/
def State.turnIs (s : State) (id : ConversationTurnId) (p : ConversationTurnState → Bool) : Prop :=
  ∃ turn, s.conversationTurns.lookup id = some turn ∧ p turn.state = true

open ConversationTurnState (isDispatched isSettled)

section TurnIs

variable {s : State} {turnId : ConversationTurnId}

lemma State.turnIs.not_dispatched (h : s.turnIs turnId (· = .reserved)) :
    ¬ s.turnIs turnId isDispatched := by
  obtain ⟨turn, hturn, hsta⟩ := h
  rintro ⟨turn', hturn', hsta'⟩
  simp_all [isDispatched]

lemma State.turnIs.mono {p q : ConversationTurnState → Bool} (h : s.turnIs turnId p)
    (hpq : ∀ state, p state = true → q state = true) : s.turnIs turnId q := by
  obtain ⟨turn, hturn, hsta⟩ := h
  exact ⟨turn, hturn, hpq _ hsta⟩

end TurnIs

section Store

variable [UrlLibrary] {ends : Set ConversationTurn} {s s' : State} {id : ConversationTurnId}

/-- A write does not undo a dispatch. -/
lemma Write.turnIs_dispatched (h : Write ends s s') (hs : s.turnIs id isDispatched) :
    s'.turnIs id isDispatched := by
  obtain ⟨turn, hturn, hsta⟩ := hs
  obtain hsame | ⟨hnone, -⟩ | ⟨turn₁, turn₂, h₁, h₂, -, hmov, -⟩ := h.turn_cases id
  · exact ⟨turn, hsame.trans hturn, hsta⟩
  · rw [hnone] at hturn
    cases hturn
  · refine ⟨turn₂, h₂, ?_⟩
    have := hmov.permits
    cases hfrom : turn₁.state <;> cases hto : turn₂.state <;>
      simp_all [ConversationTurnState.permits, isDispatched]

/-- A write settles a turn only with one of its ends. -/
lemma Write.turnIs_settled (h : Write ends s s') (hs : s'.turnIs id isSettled) :
    s.turnIs id isSettled ∨ ∃ turn ∈ ends, turn.id = id ∧ turn.state.isSettled = true := by
  obtain ⟨turn, hturn, hsta⟩ := hs
  obtain hsame | ⟨-, turn₂, h₂, -, hres⟩ | ⟨_, turn₂, -, h₂, hid, -, hnext⟩ := h.turn_cases id
  · exact .inl ⟨turn, hsame ▸ hturn, hsta⟩
  · obtain rfl : turn₂ = turn := Option.mem_unique h₂ hturn
    simp [hres, isSettled] at hsta
  · obtain rfl : turn₂ = turn := Option.mem_unique h₂ hturn
    rcases hnext with hstd | hends
    · simp [hstd, isSettled] at hsta
    · exact .inr ⟨turn₂, hends, hid, hsta⟩

/-- An operation does not undo a dispatch. -/
lemma Writes.turnIs_dispatched (h : Writes ends s s') (hs : s.turnIs id isDispatched) :
    s'.turnIs id isDispatched := by
  induction h with
  | refl => exact hs
  | tail _ hw ih => exact hw.turnIs_dispatched ih

/-- An operation settles a turn only with one of its ends. -/
lemma Writes.turnIs_settled (h : Writes ends s s') (hs : s'.turnIs id isSettled) :
    s.turnIs id isSettled ∨ ∃ turn ∈ ends, turn.id = id ∧ turn.state.isSettled = true := by
  induction h with
  | refl => exact .inl hs
  | tail _ hw ih =>
    rcases hw.turnIs_settled hs with hs | hends
    · exact ih hs
    · exact .inr hends

/-- A successful provider start moves a stored reservation to the provider boundary and returns the
turn it wrote. -/
lemma commitProviderStart_eq_ok {commit : ProviderStartCommit}
    {snap : ConversationTurnSnapshot} (h : commitProviderStart s commit = (.ok snap, s')) :
    snap.turn = commit.turn ∧ s.turnIs commit.turn.id (· = .reserved) ∧
      s'.conversationTurns.lookup commit.turn.id = some commit.turn ∧
      commit.turn.state = .providerStarted := by
  unfold commitProviderStart writeThenRead at h
  split at h
  · cases h
  · rename_i written hchk
    obtain ⟨hread, rfl⟩ := Prod.mk.inj h
    obtain ⟨cur, turnEvents, hstart, rfl⟩ := checkedProviderStart_eq_ok hchk
    have hwrit : (s.writeProviderStart commit turnEvents).conversationTurns.lookup commit.turn.id
        = some commit.turn := by simp
    refine ⟨Option.mem_unique (loadSnapshot_eq_ok.1 hread).1 hwrit, ?_, hwrit, hstart.started⟩
    exact ⟨cur.turn, (loadSnapshot_eq_ok.1 hstart.loaded).1, by simp [hstart.reserved]⟩

end Store

/-! ## The calls -/

/-- The records with which a call may end a turn. -/
def ConversationCall.ends : ConversationCall → Set ConversationTurn
  | .commitTerminal commit => {commit.turn}
  | .commitCancellation _ | .commitDispatchExitReconciliation _ => cancellationEnds
  | _ => ∅

variable {c : ConversationCall}

/-- What an answered call writes. -/
lemma conversationSystem_writes [UrlLibrary] {s s' : State} {r : c.Reply}
    (h : conversationSystem.answers s c r s') : Writes c.ends s s' := by
  cases c with
  | reserveTurn input => exact (Prod.mk.inj h).2 ▸ reserveTurn_writes input
  | resolveConversationForkCommand cmd =>
    exact writes_of_journals (resolveConversationForkCommand_journals cmd (Prod.mk.inj h).2)
  | reserveConversationFork plan =>
    exact (Prod.mk.inj h).2 ▸ reserveConversationFork_writes plan
  | commitProviderStart commit =>
    exact (Prod.mk.inj h).2 ▸ (commitProviderStart_quiet commit).writes
  | appendTurnText append => exact (Prod.mk.inj h).2 ▸ (appendTurnText_quiet append).writes
  | commitTerminal commit => exact (Prod.mk.inj h).2 ▸ (commitTerminal_quiet commit).writes
  | commitCancellation commit | commitDispatchExitReconciliation commit =>
    exact (Prod.mk.inj h).2 ▸ (commitConversationCancellation_quiet commit _).writes
  | getThread | getProject | threadCredentialBinding | threadModelBinding | loadTurn
  | loadTurnByCommand | loadTurnContext | retrySourceIsLatest | listIncompleteTurnsForRecovery =>
    exact (Prod.mk.inj h).2 ▸ .refl
  | now | generateId | currentRail | chatModelPreference | loadCredential | acquireCredentialUse
  | discoverModel | cancellationRaised | stream | awaitItem =>
    cases h
    exact .refl

/-- The turn whose provider request a call is. -/
def ConversationCall.streamedTurn : ConversationCall → Option ConversationTurnId
  | .stream turnId _ => some turnId
  | _ => none

/-- The turn whose provider boundary an answered call committed. -/
def startedTurn (e : Event conversationInterface) : Option ConversationTurnId :=
  match e with
  | ⟨.commitProviderStart _, .ok snapshot⟩ => some snapshot.turn.id
  | _ => none

/-- The permission to make the provider request of a turn: granted by a successful provider start,
spent by the request. -/
def dispatchPermission : Permission conversationInterface ConversationTurnId where
  grants := startedTurn
  spends := ConversationCall.streamedTurn

/-- The turn that a call completes or fails. -/
def ConversationCall.settledTurn : ConversationCall → Option ConversationTurnId
  | .commitTerminal commit => if commit.turn.state.isSettled then some commit.turn.id else none
  | _ => none

/-- A turn is completed or failed after its provider request. -/
def settledAfterStream : Precedence conversationInterface ConversationTurnId where
  marks e := e.1.streamedTurn
  needs := ConversationCall.settledTurn

variable {streamed : Set ConversationTurnId}

/-- Background calls neither grant nor spend the permission. -/
lemma dispatchPermission_of_background
    (h : Background streamed c) : dispatchPermission.spends c = none ∧
      ∀ r : c.Reply, dispatchPermission.grants ⟨c, r⟩ = none := by
  cases c <;> first | exact ⟨rfl, fun _ => rfl⟩ | exact h.elim

/-- Background calls settle only the given turns. -/
lemma settledAfterStream_of_background
    (h : Background streamed c) {t : ConversationTurnId}
    (ht : settledAfterStream.needs c = some t) :
    t ∈ streamed := by
  cases c with
  | commitTerminal commit =>
    simp only [settledAfterStream, ConversationCall.settledTurn, Option.ite_none_right_eq_some,
      Option.some.injEq] at ht
    obtain ⟨hset, rfl⟩ := ht
    refine h ?_
    cases hsta : commit.turn.state <;> simp_all [isSettled]
  | _ => cases ht

/-! ## The tasks -/

lemma buildProviderStart_background (snap : ConversationTurnSnapshot) (fingerprint : Digest) :
    InBackground ∅ (buildProviderStart snap fingerprint) := by
  simp [buildProviderStart, Background]

/-- A successful provider start leaves its task with the permission to stream the turn. -/
lemma startProvider_granted (snap : ConversationTurnSnapshot) (fingerprint : Digest) :
    (startProvider snap fingerprint).wp dispatchPermission.contract
      (fun r held => ∀ started, r = .ok started → held = some started.turn.id) none := by
  refine (wp_bind _ _ _).2 (wp_mono (Permission.Honours.of_ensures _
    (buildProviderStart_background _ _) fun c => dispatchPermission_of_background) ?_)
  rintro (error | commit) held ⟨rfl, -⟩
  · simp
  · refine ⟨fun t ht => (by cases ht), ?_⟩
    rintro (error | snapshot) _ rfl
    · simp [fromStore]
    · simp [fromStore, Permission.after, dispatchPermission, startedTurn]

section Tasks

variable [UrlLibrary]

/-- After the provider request only the turn that was streamed is settled. -/
lemma streamOutcome_background (started : ConversationTurnSnapshot)
    (outcome : Option (Except ModelError (List StreamItem))) :
    InBackground {started.turn.id} (match outcome with
      | none => interruptOrReconcile started
      | some (.error error) => finishProviderError started error
      | some (.ok stream) => consumeStream started stream) := by
  have hid : started.turn.id ∈ ({started.turn.id} : Set ConversationTurnId) := rfl
  rcases outcome with _ | error | stream
  · exact interruptOrReconcile_background started
  · exact finishProviderError_background hid error
  · exact consumeItems_background hid _ stream

/-- A provider start that failed is followed by a reading of the turn at most. -/
lemma streamStarted_error_background (plan : ConversationTurnDispatch)
    (error : ApplicationError) : InBackground ∅ (streamStarted plan (.error error)) := by
  cases error <;> simp [streamStarted, Background]

/-- Streaming a turn needs its permission and no other. -/
lemma streamTurn_honours (started : ConversationTurnSnapshot)
    (providerRequest : ConversationRequest) :
    dispatchPermission.Honours (streamTurn started providerRequest) (some started.turn.id) := by
  refine ⟨fun t ht => ht, fun outcome held _ => ?_⟩
  exact wp_mono (Permission.Honours.of_ensures _ (streamOutcome_background started outcome)
    fun c => dispatchPermission_of_background) fun _ _ _ => trivial

variable [Sha256Library]

/-- The tasks that run against the store: preparations, dispatches of any plan, cancellations,
reconciliations of tasks that exited, and recoveries. -/
inductive ConversationTask : Service Unit → Prop
  | prepareStart (input : StartConversationTurn) (key : String) :
      ConversationTask (prepareStart input key).void
  | prepareRetry (input : RetryConversationTurn) (key : String) :
      ConversationTask (prepareRetry input key).void
  | prepareFork (forkRequest : ConversationForkRequest) (key : String) :
      ConversationTask (prepareFork forkRequest key).void
  | dispatch (plan : ConversationTurnDispatch) : ConversationTask (dispatch plan).void
  | cancel (turnId : ConversationTurnId) (expectedRevision : ℕ) (key : String) :
      ConversationTask (cancel turnId expectedRevision key).void
  | reconcileDispatchExit (turnId : ConversationTurnId) :
      ConversationTask (reconcileDispatchExit turnId).void
  | recoverIncomplete (limit : ℕ) : ConversationTask (recoverIncomplete limit).void

variable {p : Service Unit}

/-- Every task is a dispatch or makes only background calls. -/
lemma ConversationTask.cases_dispatch (h : ConversationTask p) :
    (∃ plan, p = (GrokDesktop.dispatch plan).void) ∨ InBackground ∅ p := by
  have hvoid : ∀ {α : Type} {q : Service α}, InBackground ∅ q → InBackground ∅ q.void :=
    fun hq => hq.seq fun _ _ => trivial
  cases h with
  | dispatch plan => exact .inl ⟨plan, rfl⟩
  | prepareStart input key => exact .inr (hvoid (prepareStart_background _ _))
  | prepareRetry input key => exact .inr (hvoid (prepareRetry_background _ _))
  | prepareFork forkRequest key => exact .inr (hvoid (prepareFork_background _ _))
  | cancel turnId expected key => exact .inr (hvoid (cancel_background _ _ _))
  | reconcileDispatchExit turnId => exact .inr (hvoid (reconcileDispatchExit_background _))
  | recoverIncomplete limit => exact .inr (hvoid (recoverIncomplete_background _))

/-- A dispatch makes its provider request with the permission its own provider start was granted. -/
lemma dispatch_honours (plan : ConversationTurnDispatch) :
    dispatchPermission.Honours (dispatch plan) none := by
  unfold dispatch Permission.Honours require
  simp only [bind_eq, wp_bind]
  cases plan.snapshot.lineage.credentialBindingId with
  | none => trivial
  | some binding =>
    refine ⟨fun t ht => (by cases ht), ?_⟩
    rintro (error | ⟨⟩) _ rfl
    · trivial
    · simp only [check, Except.mapError_ok, liftExcept_ok, wp_done, wp_attempt]
      refine wp_mono (startProvider_granted _ _) ?_
      rintro (error | started) held hheld
      · exact wp_mono (Permission.Honours.of_ensures _
          (streamStarted_error_background plan error)
          fun c => dispatchPermission_of_background) fun _ _ _ => trivial
      · obtain rfl := hheld started rfl
        exact streamTurn_honours started plan.request

/-- A dispatch settles its turn only after the provider request. -/
lemma dispatch_respects (plan : ConversationTurnDispatch) :
    settledAfterStream.Respects (dispatch plan) ∅ := by
  have hquiet : ∀ {α : Type} {p : Service α}, InBackground ∅ p → settledAfterStream.Respects p ∅ :=
    fun hp => Precedence.Respects.of_ensures _ hp fun c hc t ht =>
      settledAfterStream_of_background hc ht
  refine Precedence.Respects.bind _ (hquiet (by simp [require])) fun binding => ?_
  refine Precedence.Respects.bind _ (hquiet (by simp [Background])) fun use => ?_
  refine Precedence.Respects.bind _ (hquiet (by simp [check])) fun _ => ?_
  refine Precedence.Respects.bind _ (.attempt _ ?_) fun res => ?_
  · refine Precedence.Respects.bind _ (hquiet (buildProviderStart_background _ _)) fun commit => ?_
    exact ⟨fun t ht => (by cases ht), fun r _ _ => by simp [fromStore]⟩
  · rcases res with error | started
    · exact hquiet (streamStarted_error_background plan error)
    · refine ⟨fun t ht => (by cases ht), ?_⟩
      rintro outcome _ rfl
      refine Precedence.Respects.of_ensures _ (streamOutcome_background started outcome)
        fun c hc t ht => Or.inr ?_
      rw [settledAfterStream_of_background hc ht]
      rfl

/-- Every task makes the provider request of a turn only with its own permission. -/
lemma ConversationTask.honours (h : ConversationTask p) :
    dispatchPermission.Honours p none := by
  rcases h.cases_dispatch with ⟨plan, rfl⟩ | hquiet
  · refine (wp_bind _ _ _).2 (wp_mono (dispatch_honours plan) ?_)
    rintro (error | snap) held - <;> trivial
  · exact wp_mono (Permission.Honours.of_ensures _ hquiet
      fun c => dispatchPermission_of_background) fun _ _ _ => trivial

/-- Every task settles a turn only after making its provider request. -/
lemma ConversationTask.respects (h : ConversationTask p) :
    settledAfterStream.Respects p ∅ := by
  rcases h.cases_dispatch with ⟨plan, rfl⟩ | hquiet
  · exact (dispatch_respects plan).bind _ fun _ => trivial
  · exact .of_ensures _ hquiet fun c hc t ht => settledAfterStream_of_background hc ht

end Tasks

/-! ## Runs -/

section Runs

variable [UrlLibrary]

/-- A successful provider start moved the stored turn from `reserved` to `providerStarted`. -/
def MovesToProvider (turnId : ConversationTurnId) (e : Entry conversationInterface State) : Prop :=
  ∃ commit snapshot, e.event = ⟨.commitProviderStart commit, .ok snapshot⟩ ∧
    e.before.turnIs turnId (· = .reserved) ∧
    (commitProviderStart e.before commit).2.turnIs turnId (· = .providerStarted)

variable {s s' : State} {c : ConversationCall} {r : c.Reply} {turnId : ConversationTurnId}

/-- What a granted permission says about the store before and after the grant. -/
lemma movesToProvider_of_started (h : conversationSystem.answers s c r s')
    (hstd : startedTurn ⟨c, r⟩ = some turnId) :
    MovesToProvider turnId ⟨s, c, r⟩ ∧ s.turnIs turnId (· = .reserved) ∧
      s'.turnIs turnId (· = .providerStarted) := by
  cases c with
  | commitProviderStart commit =>
    rcases r with error | snap
    · cases hstd
    obtain rfl : snap.turn.id = turnId := Option.some.inj hstd
    obtain ⟨hturn, hres, hwrit, hsta⟩ := commitProviderStart_eq_ok h
    rw [← hturn] at hres hwrit hsta
    have hafter : s'.turnIs snap.turn.id (· = .providerStarted) :=
      ⟨_, hwrit, by simp [hsta]⟩
    refine ⟨⟨commit, snap, rfl, hres, ?_⟩, hres, hafter⟩
    have hs' : (commitProviderStart s commit).2 = s' := congrArg Prod.snd h
    rw [hs']
    exact hafter
  | _ => cases hstd

variable [Sha256Library] {s₀ : State} {P : Pool conversationInterface State ApplicationError}
  {pre post : List (Entry conversationInterface State)} {e : Entry conversationInterface State}

section

variable (h : Pool.Reachable conversationSystem ConversationTask s₀ P)
include h

/-- In every run a successful provider start moved its turn. -/
lemma Reachable.movesToProvider
    (he : e ∈ P.trace) (hstd : startedTurn e.event = some turnId) :
    MovesToProvider turnId e := by
  refine (h.trace_invariant (K := fun _ tr => ∀ e ∈ tr, startedTurn e.event = some turnId →
    MovesToProvider turnId e) (by simp) fun s tr c r s' ih hans e he hstd => ?_).1 e he hstd
  rcases mem_append.1 he with he | he
  · exact ih e he hstd
  · obtain rfl := mem_singleton.1 he
    exact (movesToProvider_of_started hans hstd).1

/-- In every run the stored turn was dispatched before a call if it was at the start. -/
theorem Reachable.dispatched
    (htr : P.trace = pre ++ e :: post) (h₀ : s₀.turnIs turnId isDispatched) :
    e.before.turnIs turnId isDispatched :=
  (h.trace_invariant (K := fun s _ => s.turnIs turnId isDispatched) h₀
    fun _ _ _ _ _ hs hans => (conversationSystem_writes hans).turnIs_dispatched hs).2 pre e post htr

/-- In every run a turn that is settled was so at the start or was settled by a call. -/
theorem Reachable.settled
    (htr : P.trace = pre ++ e :: post) (hsett : e.before.turnIs turnId isSettled) :
    s₀.turnIs turnId isSettled ∨ ∃ e' ∈ pre, e'.event.1.settledTurn = some turnId := by
  refine (h.trace_invariant (K := fun s tr => s.turnIs turnId isSettled →
    s₀.turnIs turnId isSettled ∨
      ∃ e ∈ tr, ConversationCall.settledTurn e.event.1 = some turnId) .inl
    fun s tr c r s' ih hans hs' => ?_).2 pre e post htr hsett
  rcases (conversationSystem_writes hans).turnIs_settled hs' with hs | ⟨turn, hends, rfl, hstate⟩
  · rcases ih hs with h₀ | ⟨e, he, hset⟩
    · exact .inl h₀
    · exact .inr ⟨e, mem_append_left _ he, hset⟩
  · refine .inr ⟨⟨s, c, r⟩, by simp, ?_⟩
    cases c with
    | commitTerminal commit =>
      obtain rfl := hends
      exact if_pos hstate
    | commitCancellation | commitDispatchExitReconciliation =>
      obtain hstate' | hstate' := hends <;> simp [hstate', isSettled] at hstate
    | _ => cases hends

/-- In every run a turn is granted its provider request at most once, and it was dispatched after
that. -/
theorem Reachable.granted (turnId : ConversationTurnId) :
    dispatchPermission.granted turnId P.trace ≤ 1 ∧ ∀ pre e post, P.trace = pre ++ e :: post →
      dispatchPermission.granted turnId pre ≤ 1 ∧
        (0 < dispatchPermission.granted turnId pre → e.before.turnIs turnId isDispatched) := by
  have hstab : ∀ (s : State) (c : ConversationCall) (r : c.Reply) (s' : State),
      conversationSystem.answers s c r s' → s.turnIs turnId isDispatched →
        s'.turnIs turnId isDispatched :=
    fun s c r s' hans => (conversationSystem_writes hans).turnIs_dispatched
  obtain ⟨⟨hle, -⟩, hcut⟩ := h.granted_le_one (A := dispatchPermission) hstab
    fun s c r s' hans hstd => by
      obtain ⟨-, hres, hafter⟩ := movesToProvider_of_started hans hstd
      exact ⟨hres.not_dispatched, hafter.mono (by simp [isDispatched])⟩
  exact ⟨hle, hcut⟩

end

/-- In every interleaving of preparations, dispatches, cancellations, reconciliations and
recoveries, the provider request of a turn is made at most once; it is made after a provider start
moved the stored turn from `reserved` to `providerStarted`; and when it is made the turn is in that
state or was interrupted since, but has not completed, failed or been cancelled. -/
theorem provider_request_at_most_once
    (h : Pool.Reachable conversationSystem ConversationTask s₀ P) (turnId : ConversationTurnId) :
    P.trace.countP (fun e => e.event.1.streamedTurn = some turnId) ≤ 1 ∧
      ∀ pre e post, P.trace = pre ++ e :: post → e.event.1.streamedTurn = some turnId →
        (∃ e' ∈ pre, MovesToProvider turnId e') ∧
          e.before.turnIs turnId (fun state =>
            state = .providerStarted ∨ state = .interruptedNeedsReview) := by
  have hhonours : ∀ p, ConversationTask p → dispatchPermission.Honours p none :=
    fun p hp => hp.honours
  obtain ⟨hle, hcut⟩ := Reachable.granted h turnId
  refine ⟨(h.spent_le_granted hhonours turnId).trans hle, fun pre e post htr he => ?_⟩
  obtain ⟨hone, hlatch⟩ := hcut pre e post htr
  have hlt := h.spent_lt_granted hhonours htr (t := turnId) he
  obtain ⟨started, hmem, hstd⟩ := countP_pos_iff.1 (Nat.zero_lt_of_lt hlt)
  have hmov := Reachable.movesToProvider h (htr ▸ mem_append_left _ hmem)
    (of_decide_eq_true hstd)
  refine ⟨⟨started, hmem, hmov⟩, ?_⟩
  -- a settled turn had an earlier request, or was dispatched before its provider start
  have hnot : ¬ e.before.turnIs turnId isSettled := by
    intro hset
    rcases Reachable.settled h htr hset with h₀ | ⟨e', he', hneeds⟩
    · obtain ⟨a, b, rfl⟩ := append_of_mem hmem
      rw [append_assoc] at htr
      obtain ⟨-, -, -, hreserved, -⟩ := hmov
      exact hreserved.not_dispatched (Reachable.dispatched h htr
        (h₀.mono fun state hs => by cases state <;> simp_all [isSettled, isDispatched]))
    · obtain ⟨a, b, rfl⟩ := append_of_mem he'
      rw [append_assoc] at htr
      obtain ⟨m, hm, hmark⟩ := h.exists_mark (fun p hp => hp.respects) htr (t := turnId) hneeds
      have hspent : 0 < dispatchPermission.spent turnId (a ++ e' :: b) :=
        countP_pos_iff.2 ⟨m, mem_append_left _ hm, decide_eq_true hmark⟩
      omega
  obtain ⟨turn, hturn, hsta⟩ := hlatch (Nat.zero_lt_of_lt hlt)
  refine ⟨turn, hturn, ?_⟩
  cases hcase : turn.state <;> simp_all [isDispatched, State.turnIs, isSettled]

end Runs

/-! ## A run with an interruption between the boundary and the request -/

namespace SampleRun

/-- A URL library that parses nothing. -/
abbrev url : UrlLibrary := ⟨fun _ => none⟩

/-- A digest function. -/
abbrev sha : Sha256Library := ⟨fun _ => 0⟩

attribute [local instance] url sha

def project : Project where
  id := ⟨"project", by decide⟩
  name := "Project"
  description := ""
  state := .active
  revision := 0
  createdAt := 0
  updatedAt := 0

def thread : Thread where
  id := ⟨"thread", by decide⟩
  projectId := project.id
  title := "Thread"
  state := .opened
  lineage := .original ⟨"thread", by decide⟩
  revision := 0
  createdAt := 0
  updatedAt := 0

/-- The store with one project and one thread. -/
def store : State :=
  (createThread (createProject .empty project ⟨"create_project", "project-key", 0⟩).2 thread
    ⟨"create_thread", "thread-key", 0⟩).2

/-- Surroundings in which time stands still and each kind of entity has one identifier. -/
def surroundings : (c : ConversationCall) → c.Reply
  | .now => (0 : ℕ)
  | .generateId entity => entity
  | .currentRail => ChatRail.xaiApiKey
  | .chatModelPreference => .ok ("grok", 0)
  | .loadCredential _ => .ok "credential"
  | .acquireCredentialUse _ _ => .ok ()
  | .discoverModel _ model => .ok model
  | .cancellationRaised | .awaitItem => false
  | .stream _ _ => none
  | .getThread _ | .getProject _ | .threadCredentialBinding _ | .threadModelBinding _
  | .loadTurn _ | .loadTurnByCommand _ | .loadTurnContext _ | .retrySourceIsLatest _
  | .listIncompleteTurnsForRecovery _ | .reserveTurn _ | .resolveConversationForkCommand _
  | .reserveConversationFork _ | .commitProviderStart _ | .commitTerminal _
  | .commitCancellation _ | .commitDispatchExitReconciliation _ | .appendTurnText _ =>
      .error .notFound

/-- The store answers its calls and the surroundings the others. -/
def reply (s : State) (c : ConversationCall) : c.Reply × State :=
  (storeAnswer s c).getD (surroundings c, s)

lemma answers_reply (s : State) (c : ConversationCall) :
    conversationSystem.answers s c (reply s c).1 (reply s c).2 := by
  cases c <;> rfl

def turnId : ConversationTurnId := ⟨"turn", by decide⟩

/-- A client starts a turn. -/
def prepared : Pool conversationInterface State ApplicationError :=
  (List.replicate 17 0).foldl (Pool.advance reply) ((Pool.idle store).start
    (prepareStart ⟨"thread", "Hello", none, false⟩ "start-key").void)

/-- The provider work of the turn that a store holds. -/
def plan (s : State) : Option ConversationTurnDispatch :=
  match loadTurn s turnId with
  | .ok (some snapshot) => some {
      snapshot := snapshot
      request := ⟨snapshot.turn.modelId, [⟨.user, [.text "Hello"]⟩], none, [], false⟩ }
  | _ => none

/-- The turn is dispatched up to its provider boundary, then cancelled, and only then does the
dispatch make its provider request. -/
def interrupted (plan : ConversationTurnDispatch) :
    Pool conversationInterface State ApplicationError :=
  let started := [0, 0, 0, 0].foldl (Pool.advance reply) (prepared.start (dispatch plan).void)
  [0, 0, 0, 1].foldl (Pool.advance reply) (started.start (cancel turnId 1 "cancel-key").void)

lemma interrupted_reachable (plan : ConversationTurnDispatch) :
    Pool.Reachable conversationSystem ConversationTask store (interrupted plan) := by
  have hprep : Pool.Reachable conversationSystem ConversationTask store prepared :=
    .advance answers_reply (.start .refl (.prepareStart _ _)) _
  exact .advance answers_reply (.start (.advance answers_reply
    (.start hprep (.dispatch plan)) _) (.cancel _ _ _)) _

/-- The provider request of the run finds its turn interrupted. -/
lemma interrupted_streams : ∃ plan', plan prepared.state = some plan' ∧
    ∃ e ∈ (interrupted plan').trace, e.event.1.streamedTurn = some turnId ∧
      e.before.turnIs turnId (· = .interruptedNeedsReview) := by
  have hrun : (plan prepared.state).any (fun plan' => (interrupted plan').trace.any fun e =>
      ConversationCall.streamedTurn e.event.1 = some turnId &&
        (e.before.conversationTurns.lookup turnId).any fun turn =>
          turn.state = .interruptedNeedsReview) = true := by
    decide +kernel
  simpa [Option.any_eq_true, State.turnIs] using hrun

/-- The sample run applies the theorem to its one provider request. -/
theorem interrupted_at_most_once : ∃ plan', plan prepared.state = some plan' ∧
    (interrupted plan').trace.countP (fun e => e.event.1.streamedTurn = some turnId) ≤ 1 ∧
    ∃ pre e post, (interrupted plan').trace = pre ++ e :: post ∧
      (∃ e' ∈ pre, MovesToProvider turnId e') ∧
      e.before.turnIs turnId (fun state =>
        state = .providerStarted ∨ state = .interruptedNeedsReview) := by
  obtain ⟨plan', hplan, e, he, hstream, -⟩ := interrupted_streams
  obtain ⟨hcnt, hcut⟩ := provider_request_at_most_once (interrupted_reachable plan') turnId
  obtain ⟨pre, post, htrace⟩ := append_of_mem he
  exact ⟨plan', hplan, hcnt, pre, e, post, htrace, hcut pre e post htrace hstream⟩

/-- A provider request can come after the turn has ended: the cancellation of a turn in
`providerStarted` ends it in review while its dispatch is still on the way to the provider. -/
theorem provider_request_after_end : ¬ ∀ (_ : UrlLibrary) (_ : Sha256Library) (s₀ : State)
    (P : Pool conversationInterface State ApplicationError),
    Pool.Reachable conversationSystem ConversationTask s₀ P → ∀ turnId pre e post,
      P.trace = pre ++ e :: post → e.event.1.streamedTurn = some turnId →
        ¬ e.before.turnIs turnId ConversationTurnState.isTerminal := by
  intro hall
  obtain ⟨plan', -, e, he, hstream, hsta⟩ := interrupted_streams
  obtain ⟨pre, post, htrace⟩ := append_of_mem he
  refine hall url sha store _ (interrupted_reachable plan') turnId pre e post htrace hstream ?_
  exact hsta.mono fun state h => by simp_all [ConversationTurnState.isTerminal]

end SampleRun

end GrokDesktop
