import GrokDesktop.Memory.ForkCommands

/-!
# The operations on the journal of fork commands

What each operation of the store does to the journal of fork commands: most leave it alone, a fork
command adds itself as an alias of a pending child or makes a new child, and an acknowledgement
settles a delivery. So every state of every run has its journal, and later operations keep it.
-/

namespace GrokDesktop

open Except Table

section Acknowledgement

variable {s s' : State}

/-! ## Acknowledging a delivery -/

def State.withForkAck (s : State) (command : MutationCommand) (child : ThreadId)
    (delivery : ConversationForkDeliveryRecord) : State :=
  { s with
    conversationForkDeliveries := s.conversationForkDeliveries.insert child
      { delivery with revision := 1, state := .acknowledged }
    conversationForkDeliveryAckCommands :=
      s.conversationForkDeliveryAckCommands.insert (command.scope, command.key)
        ⟨command.fingerprint, child, 0, 1⟩ }

/-- Operations on the journals alone keep the children. -/
theorem KeepsChildren.of_eq (hthr : s'.threads = s.threads)
    (hmsgs : s'.messages = s.messages)
    (hts : s'.conversationTurns = s.conversationTurns) : KeepsChildren s s' where
  threads := by rw [hthr]
  messages := by rw [hmsgs]
  copies id message hid _ := .inl (hmsgs ▸ hid)
  turns id turn hturn := ⟨turn, by rw [hts, hturn], rfl, rfl⟩

variable {child : ThreadId} {delivery : ConversationForkDeliveryRecord} {command : MutationCommand}
  {record : ConversationForkCommandRecord}

section

variable (h : ForkJournal s)
include h

lemma ForkJournal.withForkAck (command : MutationCommand)
    (hdel : s.conversationForkDeliveries.lookup child = some delivery) :
    ForkJournal (s.withForkAck command child delivery) :=
  h.acknowledge hdel (.of_eq rfl rfl rfl) rfl rfl rfl

/-- A child without a delivery cannot be acknowledged. -/
lemma ForkJournal.forkCommandsOf_eq_nil
    (hnone : s.conversationForkDeliveries.lookup child = none) :
    s.forkCommandsOf child true = [] := by
  rw [List.eq_nil_iff_forall_not_mem]
  rintro ⟨scope, record⟩ hmem
  obtain ⟨key, hget, -, rfl⟩ := mem_forkCommandsOf.1 hmem
  obtain ⟨delivery, hdel, -⟩ := (h.command _ _ hget).delivery
  rw [hdel] at hnone
  cases hnone

/-- An acknowledgement under a recorded key is its exact replay or a conflict. -/
theorem ForkJournal.acknowledge_recorded {record : ConversationForkDeliveryAckCommandRecord}
    (hsc : command.scope = conversationForkDeliveryAckCommandScope)
    (hget : s.conversationForkDeliveryAckCommands.lookup (command.scope, command.key) =
      some record) (child : ThreadId) (expected : ℕ) :
    acknowledgeConversationForkDelivery s command child expected =
      (if record.fingerprint = command.fingerprint ∧ record.childThreadId = child ∧
          expected = 0 then .ok ⟨child, .acknowledged, 1⟩ else .error .conflict, s) := by
  obtain ⟨hexp, hout, delivery, hdel, hsta⟩ := h.acknowledged _ _ hget
  have hrev : delivery.revision = 1 := by
    rcases h.status _ _ hdel with ⟨hpend, -⟩ | ⟨-, hrev⟩
    · rw [hsta] at hpend
      cases hpend
    · exact hrev
  unfold acknowledgeConversationForkDelivery
  rw [if_neg (not_not.2 hsc)]
  simp only [hget]
  by_cases hsame : record.fingerprint = command.fingerprint ∧ record.childThreadId = child ∧
      expected = 0
  · obtain ⟨hfp, rfl, rfl⟩ := hsame
    simp [hfp, hexp, hout, rejectIf, checkedAdd, u64Max, h.readDelivery hdel, hsta, hrev]
  · rw [if_neg hsame, rejectIf, if_pos]
    · rfl
    · rw [hexp]
      by_contra hall
      simp only [not_or, not_not] at hall
      exact hsame ⟨hall.1, hall.2.1, hall.2.2.symm⟩

/-- The first acknowledgement of a pending delivery. -/
theorem ForkJournal.acknowledge_pending
    (hsc : command.scope = conversationForkDeliveryAckCommandScope)
    (hnew : s.conversationForkDeliveryAckCommands.lookup (command.scope, command.key) = none)
    (hdel : s.conversationForkDeliveries.lookup child = some delivery)
    (hpend : delivery.state = .pending) (expected : ℕ) :
    acknowledgeConversationForkDelivery s command child expected =
      if expected = 0 then
        (.ok ⟨child, .acknowledged, 1⟩, s.withForkAck command child delivery)
      else (.error .conflict, s) := by
  have hrev : delivery.revision = 0 := by
    rcases h.status _ _ hdel with ⟨-, hrev⟩ | ⟨hsta, -⟩
    · exact hrev
    · rw [hpend] at hsta
      cases hsta
  obtain ⟨key, record, -, -, -, -, hcan⟩ := h.forkCommandsOf_canonical hdel
  unfold acknowledgeConversationForkDelivery
  rw [if_neg (not_not.2 hsc)]
  simp only [hnew, hcan, h.readDelivery hdel, hdel, ok_bind, Except.okOr_some, rejectIf, hpend,
    hrev]
  by_cases hzero : expected = 0
  · subst hzero
    have hread : conversationForkDelivery (s.withForkAck command child delivery) child
        = .ok ⟨child, .acknowledged, 1⟩ :=
      (h.withForkAck command hdel).readDelivery (lookup_insert_self _ _ _)
    rw [← hread]
    rfl
  · rw [if_neg hzero]
    simp [writeThenRead, Ne.symm hzero]

/-- Another acknowledgement of an acknowledged delivery is a conflict. -/
theorem ForkJournal.acknowledge_acknowledged
    (hnew : s.conversationForkDeliveryAckCommands.lookup (command.scope, command.key) = none)
    (hdel : s.conversationForkDeliveries.lookup child = some delivery)
    (hsta : delivery.state = .acknowledged) (expected : ℕ) :
    acknowledgeConversationForkDelivery s command child expected =
      (.error .conflict, s) := by
  obtain ⟨key, record, -, -, -, -, hcan⟩ := h.forkCommandsOf_canonical hdel
  unfold acknowledgeConversationForkDelivery
  by_cases hsc : command.scope = conversationForkDeliveryAckCommandScope
  · simp [hnew, hcan, h.readDelivery hdel, rejectIf, hsta, writeThenRead]
  · rw [if_pos hsc]

/-- An acknowledgement that changes the store acknowledges a pending delivery for the first time,
and an accepted one that does not is an exact replay. -/
theorem ForkJournal.acknowledge_cases (command : MutationCommand)
    (child : ThreadId) (expectedRevision : ℕ) :
    (∃ e, acknowledgeConversationForkDelivery s command child expectedRevision = (.error e, s)) ∨
    (command.scope = conversationForkDeliveryAckCommandScope ∧ expectedRevision = 0 ∧
      s.conversationForkDeliveryAckCommands.lookup (command.scope, command.key) =
        some ⟨command.fingerprint, child, 0, 1⟩ ∧
      acknowledgeConversationForkDelivery s command child expectedRevision =
        (.ok ⟨child, .acknowledged, 1⟩, s)) ∨
    (command.scope = conversationForkDeliveryAckCommandScope ∧ expectedRevision = 0 ∧
      s.conversationForkDeliveryAckCommands.lookup (command.scope, command.key) = none ∧
      ∃ delivery, s.conversationForkDeliveries.lookup child = some delivery ∧
        delivery.state = .pending ∧
        acknowledgeConversationForkDelivery s command child expectedRevision =
          (.ok ⟨child, .acknowledged, 1⟩, s.withForkAck command child delivery)) := by
  by_cases hsc : command.scope = conversationForkDeliveryAckCommandScope
  swap
  · exact .inl ⟨.conflict, by unfold acknowledgeConversationForkDelivery; rw [if_pos hsc]⟩
  cases hget : s.conversationForkDeliveryAckCommands.lookup (command.scope, command.key) with
  | some record =>
    rw [h.acknowledge_recorded hsc hget]
    by_cases hsame : record.fingerprint = command.fingerprint ∧ record.childThreadId = child ∧
        expectedRevision = 0
    · obtain ⟨hexp, hout, -⟩ := h.acknowledged _ _ hget
      obtain ⟨fingerprint, recorded, expected, outcome⟩ := record
      obtain ⟨rfl, rfl, rfl⟩ := hsame
      obtain rfl : expected = 0 := hexp
      obtain rfl : outcome = 1 := hout
      exact .inr (.inl ⟨hsc, rfl, rfl, by simp⟩)
    · exact .inl ⟨.conflict, by rw [if_neg hsame]⟩
  | none =>
    cases hdel : s.conversationForkDeliveries.lookup child with
    | none =>
      refine .inl ⟨if s.threads.contains child then .conflict else .notFound, ?_⟩
      unfold acknowledgeConversationForkDelivery
      rw [if_neg (not_not.2 hsc)]
      simp [hget, h.forkCommandsOf_eq_nil hdel, rejectIf, writeThenRead]
    | some delivery =>
      rcases h.status _ _ hdel with ⟨hpend, -⟩ | ⟨hsta, -⟩
      · rw [h.acknowledge_pending hsc hget hdel hpend]
        by_cases hzero : expectedRevision = 0
        · exact .inr (.inr ⟨hsc, hzero, rfl, delivery, rfl, hpend, by rw [if_pos hzero]⟩)
        · exact .inl ⟨.conflict, by rw [if_neg hzero]⟩
      · exact .inl ⟨.conflict, h.acknowledge_acknowledged hget hdel hsta _⟩

end

lemma conversationForkScopeIsSupported_scope (kind : ConversationForkKind) :
    conversationForkScopeIsSupported (conversationForkScope kind) = true := by
  cases kind <;> simp [conversationForkScopeIsSupported, conversationForkScope]

/-! ## What an operation does to the journal -/

/-- The effect of an operation on the journal of fork commands. -/
inductive ForkJournalStep (s : State) : State → Prop
  | same {s' : State} (same : SameForkJournal s s') : ForkJournalStep s s'
  | addAlias {command : MutationCommand} {child : ThreadId} {record : ConversationForkCommandRecord}
      (new : s.conversationForkCommands.lookup (command.scope, command.key) = none)
      (pending : PendingFork s command child record)
      (room : (s.forkCommandsOf child false).length < maxConversationForkDeliveryAliases) :
      ForkJournalStep s (s.withForkAlias command record)
  | fork {plan : ConversationForkPlan} {prepared : PreparedConversationFork}
      (new : s.conversationForkCommands.lookup (plan.command.scope, plan.command.key) = none)
      (thread : s.threads.lookup plan.childThread.id = none)
      (journal : ForkJournal (s.writeFork plan prepared)) :
      ForkJournalStep s (s.writeFork plan prepared)
  | acknowledge {command : MutationCommand} {child : ThreadId}
      {delivery : ConversationForkDeliveryRecord}
      (new : s.conversationForkDeliveryAckCommands.lookup (command.scope, command.key) = none)
      (stored : s.conversationForkDeliveries.lookup child = some delivery)
      (pending : delivery.state = .pending) :
      ForkJournalStep s (s.withForkAck command child delivery)

lemma ForkJournalStep.refl (s : State) : ForkJournalStep s s := .same (.refl s)

/-- A step keeps the journal. -/
lemma ForkJournalStep.journal (hstep : ForkJournalStep s s') (h : ForkJournal s)
    (hkeeps : KeepsChildren s s') : ForkJournal s' := by
  cases hstep with
  | same hsame => exact h.keep hkeeps hsame
  | @addAlias command child record hnew hpend hroom =>
    obtain ⟨delivery, -, -, hsc, -⟩ := hpend.delivery
    obtain ⟨key, hcan⟩ := hpend.canonical
    rw [← hsc] at hnew hcan
    refine h.addAlias hkeeps hnew hcan hpend.child_eq hroom ?_ rfl rfl
    rw [hsc]
    rfl
  | fork _ _ hjour => exact hjour
  | acknowledge _ hsto _ => exact h.withForkAck _ hsto

/-- What later operations keep of the journal of fork commands. -/
structure KeepsForks (s s' : State) : Prop where
  commands : s.conversationForkCommands.Extends s'.conversationForkCommands
  acks : s.conversationForkDeliveryAckCommands.Extends s'.conversationForkDeliveryAckCommands
  /-- A delivery stays as it is, or it was pending and is acknowledged. -/
  deliveries : ∀ child delivery, s.conversationForkDeliveries.lookup child = some delivery →
    s'.conversationForkDeliveries.lookup child = some delivery ∨
      (delivery.state = .pending ∧ s'.conversationForkDeliveries.lookup child =
        some { delivery with revision := 1, state := .acknowledged })

lemma KeepsForks.refl (s : State) : KeepsForks s s :=
  ⟨.refl _, .refl _, fun _ _ h => .inl h⟩

lemma KeepsForks.trans {s'' : State} (h : KeepsForks s s') (h' : KeepsForks s' s'') :
    KeepsForks s s'' where
  commands _ _ hlookup := h'.commands _ _ (h.commands _ _ hlookup)
  acks _ _ hlookup := h'.acks _ _ (h.acks _ _ hlookup)
  deliveries child delivery hdelivery := by
    rcases h.deliveries child delivery hdelivery with hsame | ⟨hpending, hacked⟩
    · exact h'.deliveries child delivery hsame
    · refine .inr ⟨hpending, ?_⟩
      rcases h'.deliveries child _ hacked with hsame | ⟨hnever, -⟩
      · exact hsame
      · cases hnever

/-- A step keeps the commands, the acknowledgements and the deliveries. -/
lemma ForkJournalStep.keepsForks (hstep : ForkJournalStep s s') (h : ForkJournal s) :
    KeepsForks s s' := by
  cases hstep with
  | same hsame =>
    refine ⟨?_, ?_, fun child delivery hdel => .inl ?_⟩
    · rw [hsame.commands]
    · rw [hsame.acks]
    · rw [hsame.deliveries, hdel]
  | addAlias hnew _ _ => exact ⟨.insert _ hnew, .refl _, fun _ _ h => .inl h⟩
  | fork hnew hthr _ =>
    refine ⟨?_, ?_, fun child delivery hdel => .inl ?_⟩
    · rw [State.writeFork_commands]
      exact .insert _ hnew
    · rw [State.writeFork_acks]
    · rw [State.writeFork_deliveries]
      exact lookup_insert_of_new (h.lookup_delivery_of_newThread hthr) hdel
  | @acknowledge command child delivery hnew hsto hpend =>
    refine ⟨.refl _, .insert _ hnew, fun child' delivery' hdel => ?_⟩
    by_cases hsame : child' = child
    · subst hsame
      obtain rfl := Option.mem_unique hsto hdel
      exact .inr ⟨hpend, lookup_insert_self _ _ _⟩
    · exact .inl ((lookup_insert_of_ne _ _ hsame).trans hdel)

end Acknowledgement

section Commands

variable [UrlLibrary] {s s' : State}

/-! ## A recorded command -/

/-- The plan makes the kind of fork that the scope of its command names. -/
def ConversationForkPlan.Matches (plan : ConversationForkPlan) : Prop :=
  ∃ kind, conversationForkKind plan.childThread = .ok kind ∧
    conversationForkScope kind = plan.command.scope

variable {plan : ConversationForkPlan} {record : ConversationForkCommandRecord}
  {command : MutationCommand} {prepared : PreparedConversationFork}

/-- A plan that makes another kind of fork is a conflict. -/
theorem reserveConversationFork_of_not_matches (h : ¬ plan.Matches) :
    reserveConversationFork s plan = (.error .conflict, s) := by
  unfold reserveConversationFork
  split
  · rename_i e hkind
    unfold conversationForkKind at hkind
    split at hkind
    · cases hkind
    · cases hkind
      rfl
  · rename_i kind hkind
    exact if_pos fun heq => h ⟨kind, hkind, heq.symm⟩

/-- A recorded command is replayed for a plan of its kind. -/
lemma reserveConversationFork_of_recorded (hmat : plan.Matches)
    (hget : s.conversationForkCommands.lookup (plan.command.scope, plan.command.key) =
      some record) :
    reserveConversationFork s plan = ((replayFork s plan.command record).map
      fun found => ⟨found.1, found.2, false, false⟩, s) := by
  obtain ⟨kind, hkind, hsc⟩ := hmat
  unfold reserveConversationFork
  simp only [hkind, hsc, ne_eq, not_true_eq_false, if_false, hget]

/-- A recorded command leads to its child and changes nothing. -/
theorem ForkJournal.reserve_recorded (h : ForkJournal s) (hs : Recorded s) (hmat : plan.Matches)
    (hget : s.conversationForkCommands.lookup (plan.command.scope, plan.command.key) =
      some record) (hsame : record.fingerprint = plan.command.fingerprint) :
    ∃ resv, reserveConversationFork s plan = (.ok resv, s) ∧
      resv.created = false ∧
      resv.snapshot.childThread.id = record.childThreadId := by
  obtain ⟨snap, ctx, hsnap, hid, hctx⟩ := h.snapshot hs hget
  refine ⟨⟨snap, ctx, false, false⟩, ?_, rfl, hid⟩
  rw [reserveConversationFork_of_recorded hmat hget]
  simp [replayFork, rejectIf, hsame, hsnap, hctx, Except.map]

section

variable (hget : s.conversationForkCommands.lookup (plan.command.scope, plan.command.key) = some
  record)
include hget

/-- A recorded key with another request is a conflict. -/
theorem reserveConversationFork_of_other (hoth : record.fingerprint ≠ plan.command.fingerprint) :
    reserveConversationFork s plan = (.error .conflict, s) := by
  by_cases hmat : plan.Matches
  · rw [reserveConversationFork_of_recorded hmat hget]
    simp [replayFork, rejectIf, hoth, Except.map]
  · exact reserveConversationFork_of_not_matches hmat

/-- A recorded key changes nothing. -/
theorem reserveConversationFork_recorded_state
    : (reserveConversationFork s plan).2 = s := by
  by_cases hmat : plan.Matches
  · rw [reserveConversationFork_of_recorded hmat hget]
  · rw [reserveConversationFork_of_not_matches hmat]

end

/-- Resolving a recorded key leads to its child, or is a conflict for another request. -/
theorem ForkJournal.resolve_recorded (h : ForkJournal s) (hs : Recorded s)
    (hget : s.conversationForkCommands.lookup (command.scope, command.key) = some record) :
    if record.fingerprint = command.fingerprint then
      ∃ resolution, resolveConversationForkCommand s command = (.ok (some resolution), s) ∧
        resolution.snapshot.childThread.id = record.childThreadId
    else resolveConversationForkCommand s command = (.error .conflict, s) := by
  obtain ⟨snap, ctx, hsnap, hid, -⟩ := h.snapshot hs hget
  obtain ⟨kind, hsc, -⟩ := (h.command _ _ hget).child
  have hsup : conversationForkScopeIsSupported command.scope = true := by
    have hsc : conversationForkScope kind = command.scope := hsc
    rw [← hsc]
    exact conversationForkScopeIsSupported_scope kind
  have hrsv : resolveConversationForkCommand s command = (do
      rejectIf (record.fingerprint ≠ command.fingerprint) .conflict
      let snap ← conversationForkSnapshot s record
      return some { snapshot := snap, reconciledPendingDelivery := false }, s) := by
    unfold resolveConversationForkCommand
    simp only [hsup, Bool.not_true, Bool.false_eq_true, if_false, hget]
  split
  · rename_i hsame
    exact ⟨⟨snap, false⟩, by rw [hrsv]; simp [rejectIf, hsame, hsnap], hid⟩
  · rename_i hoth
    rw [hrsv]
    simp [rejectIf, hoth]

/-! ## A new key -/

/-- A plan under a new key is reconciled with a pending delivery of its request, and checked when
there is none. -/
theorem reserveConversationFork_of_new (hmat : plan.Matches)
    (hnew : s.conversationForkCommands.lookup (plan.command.scope, plan.command.key) = none) :
    reserveConversationFork s plan =
      match reconcilePendingConversationForkCommand s plan.command with
      | (.error e, s') => (.error e, s')
      | (.ok (some (snap, ctx)), s') => (.ok ⟨snap, ctx, false, true⟩, s')
      | (.ok none, _) =>
        match checkedFork s plan with
        | .error e => (.error e, s)
        | .ok (prepared, s') =>
          ((conversationForkSnapshot s' (forkCommandRecord plan)).map
            fun snap => ⟨snap, prepared.context, true, false⟩, s') := by
  obtain ⟨kind, hkind, hsc⟩ := hmat
  unfold reserveConversationFork
  simp only [hkind, hsc, ne_eq, hnew]
  rfl

/-- Resolving a new key reconciles it with a pending delivery of its request. -/
theorem resolveConversationForkCommand_of_new
    (hsup : conversationForkScopeIsSupported command.scope = true)
    (hnew : s.conversationForkCommands.lookup (command.scope, command.key) = none) :
    resolveConversationForkCommand s command =
      ((reconcilePendingConversationForkCommand s command).1.map fun found =>
        found.map fun found => ⟨found.1, true⟩,
        (reconcilePendingConversationForkCommand s command).2) := by
  unfold resolveConversationForkCommand
  simp only [hsup, Bool.not_true, Bool.false_eq_true, if_false, hnew]

/-- A checked plan makes the kind of fork that its scope names. -/
theorem ForkChecked.scope {src : ConversationTurnSnapshot} {parent : Thread}
    {kind : ConversationForkKind} {srcMsg : Message}
    (h : ForkChecked s plan prepared src parent kind srcMsg) :
    conversationForkKind plan.childThread = .ok kind ∧
      conversationForkScope kind = plan.command.scope := by
  have hkind : conversationForkKind plan.childThread = .ok kind := by
    simp only [conversationForkKind, h.origin]
  refine ⟨hkind, ?_⟩
  obtain ⟨_, hch, -⟩ := h.parts
  simp only [validateForkChild, bind_eq_ok, rejectIf_eq_ok] at hch
  obtain ⟨_, -, _, -, kind', hkind', _, hsc, -⟩ := hch
  obtain rfl := Except.ok.inj (hkind.symm.trans hkind')
  exact (not_not.1 (not_or.1 hsc).1).symm

/-- A checked plan under a new key, for a request without a pending child, makes its child. -/
theorem ForkJournal.reserve_checked (h : ForkJournal s) (hs : Recorded s)
    (hnew : s.conversationForkCommands.lookup (plan.command.scope, plan.command.key) = none)
    (hnone : NonePending s plan.command) (hchk : checkedFork s plan = .ok (prepared, s')) :
    ForkJournal s' ∧ s' = s.writeFork plan prepared ∧ ∃ resv,
      reserveConversationFork s plan = (.ok resv, s') ∧ resv.created = true ∧
      resv.snapshot.childThread.id = plan.childThread.id := by
  obtain ⟨⟨src, parent, kind, srcMsg, hfork⟩, rfl⟩ := checkedFork_eq_ok hchk
  obtain ⟨hkind, hsc⟩ := hfork.scope
  have hrec : reconcilePendingConversationForkCommand s plan.command = (.ok none, s) := by
    rcases h.reconcile_cases hs plan.command with ⟨-, heq⟩ | ⟨child, record, hpend, -⟩
    · exact heq
    · obtain ⟨delivery, hdel, hsta, hsame, hfp⟩ := hpend.delivery
      exact absurd hfp (hnone _ _ hdel hsta hsame)
  have hresv : reserveConversationFork s plan =
      ((conversationForkSnapshot (s.writeFork plan prepared) (forkCommandRecord plan)).map
        fun snap => ⟨snap, prepared.context, true, false⟩, s.writeFork plan prepared) := by
    rw [reserveConversationFork_of_new ⟨kind, hkind, hsc⟩ hnew, hrec, hchk]
  have happly : StoreOperation.apply s (.reserveConversationFork plan)
      = s.writeFork plan prepared := congrArg Prod.snd hresv
  have hjour : ForkJournal (s.writeFork plan prepared) :=
    h.addFork (happly ▸ StoreOperation.keepsChildren hs _) (hfork.child hs.forks) hsc hnew
      hfork.newThread hnone
  have hrecorded : Recorded (s.writeFork plan prepared) :=
    happly ▸ (StoreOperation.writes _).recorded hs
  have hget : (s.writeFork plan prepared).conversationForkCommands.lookup
      (plan.command.scope, plan.command.key) = some (forkCommandRecord plan) := by
    rw [State.writeFork_commands, lookup_insert_self]
  obtain ⟨snap, -, hsnap, hid, -⟩ := hjour.snapshot hrecorded hget
  refine ⟨hjour, rfl, ⟨snap, prepared.context, true, false⟩, ?_, rfl, hid⟩
  rw [hresv, hsnap]
  rfl

/-- Reconciling a command under a new key leaves the journal or adds an alias. -/
lemma ForkJournal.reconcile_step (h : ForkJournal s) (hs : Recorded s)
    (hnew : s.conversationForkCommands.lookup (command.scope, command.key) = none) :
    ForkJournalStep s (reconcilePendingConversationForkCommand s command).2 := by
  rcases h.reconcile_cases hs command with
    ⟨-, heq⟩ | ⟨child, record, hpend, ⟨-, heq⟩ | ⟨hroom, snap, ctx, -, heq⟩⟩
  · rw [heq]
    exact .refl s
  · rw [heq]
    exact .refl s
  · rw [heq]
    exact .addAlias hnew hpend hroom

/-- Every operation leaves the journal, or adds an alias, a fork or an acknowledgement. -/
theorem StoreOperation.forkStep (h : ForkJournal s) (hs : Recorded s)
    (op : StoreOperation) : ForkJournalStep s (op.apply s) := by
  cases op with
  | createProject project command => exact .same (createProject_quiet project command).forks
  | createThread thread command => exact .same (createThread_quiet thread command).forks
  | createMessage msg command => exact .same (createMessage_quiet msg command).forks
  | reserveTurn input =>
    change ForkJournalStep s (GrokDesktop.reserveTurn s input).2
    rcases reserveTurn_cases (s := s) input with heq | ⟨prepared, -, -, -, heq⟩
    · rw [heq]
      exact .refl s
    · rw [heq]
      exact .same ⟨rfl, rfl, rfl⟩
  | reserveConversationFork plan =>
    change ForkJournalStep s (GrokDesktop.reserveConversationFork s plan).2
    by_cases hmat : plan.Matches
    swap
    · rw [reserveConversationFork_of_not_matches hmat]
      exact .refl s
    cases hget : s.conversationForkCommands.lookup (plan.command.scope, plan.command.key) with
    | some record =>
      rw [reserveConversationFork_recorded_state hget]
      exact .refl s
    | none =>
      have hstep := h.reconcile_step hs hget
      rcases h.reconcile_cases hs plan.command with ⟨hnone, heq⟩ |
        ⟨child, record, -, ⟨-, heq⟩ | ⟨-, snap, ctx, -, heq⟩⟩
      · cases hchk : checkedFork s plan with
        | error e =>
          rw [reserveConversationFork_of_new hmat hget, heq, hchk]
          exact .refl s
        | ok found =>
          obtain ⟨prepared, s'⟩ := found
          rw [reserveConversationFork_of_new hmat hget, heq, hchk]
          obtain ⟨hjour, rfl, -⟩ := h.reserve_checked hs hget hnone hchk
          obtain ⟨⟨_, _, _, _, hfork⟩, -⟩ := checkedFork_eq_ok hchk
          exact .fork hget hfork.newThread hjour
      · rw [reserveConversationFork_of_new hmat hget, heq]
        exact .refl s
      · rw [reserveConversationFork_of_new hmat hget, heq]
        rw [heq] at hstep
        exact hstep
  | resolveConversationForkCommand command =>
    change ForkJournalStep s (GrokDesktop.resolveConversationForkCommand s command).2
    by_cases hsup : conversationForkScopeIsSupported command.scope = true
    · cases hget : s.conversationForkCommands.lookup (command.scope, command.key) with
      | some record =>
        unfold GrokDesktop.resolveConversationForkCommand
        simp only [hsup, hget]
        exact .refl s
      | none =>
        rw [resolveConversationForkCommand_of_new hsup hget]
        exact h.reconcile_step hs hget
    · unfold GrokDesktop.resolveConversationForkCommand
      rw [if_pos (by simpa using hsup)]
      exact .refl s
  | acknowledgeConversationForkDelivery command childThreadId expected =>
    change ForkJournalStep s (GrokDesktop.acknowledgeConversationForkDelivery s command
      childThreadId expected).2
    rcases h.acknowledge_cases command childThreadId expected with ⟨e, heq⟩ |
      ⟨-, -, -, heq⟩ | ⟨-, -, hnew, delivery, hsto, hpend, heq⟩
    · rw [heq]
      exact .refl s
    · rw [heq]
      exact .refl s
    · rw [heq]
      exact .acknowledge hnew hsto hpend
  | commitProviderStart commit => exact .same (commitProviderStart_quiet commit).forks
  | appendTurnText append => exact .same (appendTurnText_quiet append).forks
  | commitTerminal commit => exact .same (commitTerminal_quiet commit).forks
  | commitCancellation commit => exact .same (commitConversationCancellation_quiet commit _).forks
  | commitDispatchExitReconciliation commit =>
    exact .same (commitConversationCancellation_quiet commit _).forks

/-- Every state of every run has its journal of fork commands. -/
theorem run_forkJournal (ops : List StoreOperation) :
    ForkJournal (State.empty.run ops) := by
  induction ops using List.reverseRecOn with
  | nil => exact .empty
  | append_singleton ops op ih =>
    have hs := run_recorded ops
    rw [run_append]
    exact (op.forkStep ih hs).journal ih (op.keepsChildren hs)

/-! ## Later states -/

/-- An operation keeps the journal of the operations before it. -/
theorem apply_keepsForks (ops : List StoreOperation) (op : StoreOperation) :
    KeepsForks (State.empty.run ops) (op.apply (State.empty.run ops)) :=
  (op.forkStep (run_forkJournal ops) (run_recorded ops)).keepsForks
    (run_forkJournal ops)

/-- Later operations keep the forks. -/
lemma run_keepsForks (ops later : List StoreOperation) :
    KeepsForks (State.empty.run ops) (State.empty.run (ops ++ later)) := by
  induction later using List.reverseRecOn with
  | nil =>
    rw [List.append_nil]
    exact .refl _
  | append_singleton later op ih =>
    rw [← List.append_assoc, run_append]
    exact ih.trans (apply_keepsForks _ op)

end Commands

end GrokDesktop
