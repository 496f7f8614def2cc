import GrokDesktop.Memory.ForkDelivery

/-!
# Fork commands lead to one child

A fork command that has led to a child leads to that child ever after, and the same key with another
request is rejected. While the delivery of a child is pending, the same request under another key
leads to that child too; its acknowledgement moves the revision of the delivery from zero to one,
once, and from then on the request makes a new child.
-/

namespace GrokDesktop

open Table

section Idempotence

variable [UrlLibrary] {s s' : State}

/-! ## The command of a child -/

/-- The command leads to the child in this state: it changes nothing and makes no other child, and
its key with another request is a conflict. -/
structure LeadsTo (s : State) (command : MutationCommand) (child : ThreadId) : Prop where
  resolves : ∃ resolution,
    resolveConversationForkCommand s command = (.ok (some resolution), s) ∧
      resolution.snapshot.childThread.id = child
  reserves : ∀ plan : ConversationForkPlan, plan.command = command → plan.Matches →
    ∃ reservation, reserveConversationFork s plan = (.ok reservation, s) ∧
      reservation.created = false ∧ reservation.snapshot.childThread.id = child
  unchanged : ∀ plan : ConversationForkPlan, plan.command = command →
    (reserveConversationFork s plan).2 = s
  conflicts : ∀ other : MutationCommand, other.scope = command.scope → other.key = command.key →
    other.fingerprint ≠ command.fingerprint →
    resolveConversationForkCommand s other = (.error .conflict, s) ∧
      ∀ plan : ConversationForkPlan, plan.command = other →
        reserveConversationFork s plan = (.error .conflict, s)

variable {command : MutationCommand} {child : ThreadId}

lemma ForkJournal.leadsTo (h : ForkJournal s) (hs : Recorded s)
    {record : ConversationForkCommandRecord}
    (hget : s.conversationForkCommands.lookup (command.scope, command.key) = some record)
    (hsame : record.fingerprint = command.fingerprint) :
    LeadsTo s command record.childThreadId where
  resolves := by
    have hrsv := h.resolve_recorded hs hget
    rwa [if_pos hsame] at hrsv
  reserves plan hplan hmatches := by
    subst hplan
    exact h.reserve_recorded hs hmatches hget hsame
  unchanged plan hplan := by
    subst hplan
    exact reserveConversationFork_recorded_state hget
  conflicts other hscope hkey hother := by
    have hget' : s.conversationForkCommands.lookup (other.scope, other.key) = some record := by
      rw [hscope, hkey, hget]
    have hdiff : record.fingerprint ≠ other.fingerprint := fun heq =>
      hother (heq.symm.trans hsame)
    refine ⟨?_, fun plan hplan => ?_⟩
    · have hrsv := h.resolve_recorded hs hget'
      rwa [if_neg hdiff] at hrsv
    · subst hplan
      exact reserveConversationFork_of_other hget' hdiff

/-- A reservation that succeeds leaves a record of its child. -/
lemma ForkJournal.reserve_record (h : ForkJournal s) (hs : Recorded s)
    {plan : ConversationForkPlan} {resv : ConversationForkReservation}
    (hok : (reserveConversationFork s plan).1 = .ok resv) :
    ∃ record, (reserveConversationFork s plan).2.conversationForkCommands.lookup
        (plan.command.scope, plan.command.key) = some record ∧
      record.fingerprint = plan.command.fingerprint ∧
      record.childThreadId = resv.snapshot.childThread.id := by
  by_cases hmat : plan.Matches
  swap
  · rw [reserveConversationFork_of_not_matches hmat] at hok
    cases hok
  cases hget : s.conversationForkCommands.lookup (plan.command.scope, plan.command.key) with
  | some record =>
    by_cases hsame : record.fingerprint = plan.command.fingerprint
    · obtain ⟨resv', heq, -, hid⟩ := h.reserve_recorded hs hmat hget hsame
      rw [heq] at hok ⊢
      cases hok
      exact ⟨record, hget, hsame, hid.symm⟩
    · rw [reserveConversationFork_of_other hget hsame] at hok
      cases hok
  | none =>
    rcases h.reconcile_cases hs plan.command with
      ⟨hnone, heq⟩ | ⟨child, record, hpend, ⟨-, heq⟩ | ⟨-, snap, ctx, hid, heq⟩⟩
    · cases hchk : checkedFork s plan with
      | error e =>
        rw [reserveConversationFork_of_new hmat hget, heq, hchk] at hok
        cases hok
      | ok found =>
        obtain ⟨prep, s'⟩ := found
        obtain ⟨-, rfl, resv', heq', -, hid⟩ := h.reserve_checked hs hget hnone hchk
        rw [heq'] at hok ⊢
        cases hok
        exact ⟨forkCommandRecord plan, by rw [State.writeFork_commands, lookup_insert_self],
          rfl, hid.symm⟩
    · rw [reserveConversationFork_of_new hmat hget, heq] at hok
      cases hok
    · rw [reserveConversationFork_of_new hmat hget, heq] at hok ⊢
      cases hok
      exact ⟨_, lookup_insert_self _ _ _, hpend.fingerprint, hpend.child_eq.trans hid.symm⟩

/-- A resolution that finds a child leaves a record of it. -/
lemma ForkJournal.resolve_record (h : ForkJournal s) (hs : Recorded s)
    {resolution : ConversationForkCommandResolution}
    (hok : (resolveConversationForkCommand s command).1 = .ok (some resolution)) :
    ∃ record, (resolveConversationForkCommand s command).2.conversationForkCommands.lookup
        (command.scope, command.key) = some record ∧
      record.fingerprint = command.fingerprint ∧
      record.childThreadId = resolution.snapshot.childThread.id := by
  by_cases hsup : conversationForkScopeIsSupported command.scope = true
  swap
  · unfold resolveConversationForkCommand at hok
    rw [if_pos (by simpa using hsup)] at hok
    cases hok
  cases hget : s.conversationForkCommands.lookup (command.scope, command.key) with
  | some record =>
    have hrsv := h.resolve_recorded hs hget
    split at hrsv
    · rename_i hsame
      obtain ⟨resolution', heq, hid⟩ := hrsv
      rw [heq] at hok ⊢
      cases hok
      exact ⟨record, hget, hsame, hid.symm⟩
    · rw [hrsv] at hok
      cases hok
  | none =>
    rw [resolveConversationForkCommand_of_new hsup hget] at hok ⊢
    rcases h.reconcile_cases hs command with
      ⟨-, heq⟩ | ⟨child, record, hpend, ⟨-, heq⟩ | ⟨-, snap, ctx, hid, heq⟩⟩
    · rw [heq] at hok
      cases hok
    · rw [heq] at hok
      cases hok
    · rw [heq] at hok ⊢
      cases hok
      exact ⟨_, lookup_insert_self _ _ _, hpend.fingerprint, hpend.child_eq.trans hid.symm⟩

/-! ## The delivery of a child -/

/-- What a command under a new key does while an equal request is pending: it leads to the pending
child, until the child has its full number of aliases. -/
structure SharesChild (s : State) (command : MutationCommand) (child : ThreadId) : Prop where
  found : (s.forkCommandsOf child false).length < maxConversationForkDeliveryAliases →
    (∃ resolution, (resolveConversationForkCommand s command).1 = .ok (some resolution) ∧
      resolution.snapshot.childThread.id = child) ∧
    ∀ plan : ConversationForkPlan, plan.command = command → plan.Matches → ∃ reservation,
      (reserveConversationFork s plan).1 = .ok reservation ∧ reservation.created = false ∧
        reservation.snapshot.childThread.id = child
  full : maxConversationForkDeliveryAliases ≤ (s.forkCommandsOf child false).length →
    resolveConversationForkCommand s command = (.error .conflict, s) ∧
      ∀ plan : ConversationForkPlan, plan.command = command →
        reserveConversationFork s plan = (.error .conflict, s)

/-- What a command under a new key does while no equal request is pending: it leads to no child,
and a plan that passes the checks makes a new one. -/
structure MakesChild (s : State) (command : MutationCommand) : Prop where
  resolves : resolveConversationForkCommand s command = (.ok none, s)
  reserves : ∀ (plan : ConversationForkPlan) (prepared : PreparedConversationFork) (s' : State),
    plan.command = command → checkedFork s plan = .ok (prepared, s') →
    s.threads.lookup plan.childThread.id = none ∧ ∃ reservation,
      reserveConversationFork s plan = (.ok reservation, s') ∧ reservation.created = true ∧
        reservation.snapshot.childThread.id = plan.childThread.id

/-- The delivery of the child is acknowledged by the command: a replay repeats the result, and
another acknowledgement is a conflict. -/
structure AcknowledgedBy (s : State) (command : MutationCommand) (child : ThreadId) : Prop where
  replays : acknowledgeConversationForkDelivery s command child 0 =
    (.ok ⟨child, .acknowledged, 1⟩, s)
  conflicts : ∀ (other : MutationCommand) (expectedRevision : ℕ),
    s.conversationForkDeliveryAckCommands.lookup (other.scope, other.key) = none →
    acknowledgeConversationForkDelivery s other child expectedRevision = (.error .conflict, s)

/-- A new key finds the child of an equal pending request. -/
lemma ForkJournal.sharesChild (h : ForkJournal s) (hs : Recorded s)
    {delivery : ConversationForkDeliveryRecord}
    (hnew : s.conversationForkCommands.lookup (command.scope, command.key) = none)
    (hdel : s.conversationForkDeliveries.lookup child = some delivery)
    (hpend : delivery.state = .pending) (hsc : delivery.scope = command.scope)
    (hfp : delivery.requestFingerprint = command.fingerprint) :
    SharesChild s command child := by
  obtain ⟨canonicalKey, canonical, hcan, -⟩ := h.forkCommandsOf_canonical hdel
  obtain ⟨kind, hkind, -⟩ := (h.command _ _ hcan).child
  have hsup : conversationForkScopeIsSupported command.scope = true := by
    rw [← hsc, ← conversationForkScopeIsSupported_scope kind, hkind]
  rcases h.reconcile_cases hs command with ⟨hnone, -⟩ | ⟨child', record, hfork, hout⟩
  · exact absurd hfp (hnone _ _ hdel hpend hsc)
  -- The pending child of the request is unique.
  obtain ⟨delivery', hdel', hpend', hsc', hfing'⟩ := hfork.delivery
  obtain rfl : child' = child := h.pending _ _ _ _ hdel' hdel hpend' hpend
    (hsc'.trans hsc.symm) (hfing'.trans hfp.symm)
  rcases hout with ⟨hfull, heq⟩ | ⟨hroom, snap, ctx, hid, heq⟩
  · refine ⟨fun hroom => absurd hfull (not_le.2 hroom), fun _ => ⟨?_, fun plan hplan => ?_⟩⟩
    · rw [resolveConversationForkCommand_of_new hsup hnew, heq]
      rfl
    · subst hplan
      by_cases hmat : plan.Matches
      · rw [reserveConversationFork_of_new hmat hnew, heq]
      · exact reserveConversationFork_of_not_matches hmat
  · refine ⟨fun _ => ⟨⟨⟨snap, true⟩, ?_, hid⟩, fun plan hplan hmat => ?_⟩,
      fun hfull => absurd hfull (not_le.2 hroom)⟩
    · rw [resolveConversationForkCommand_of_new hsup hnew, heq]
      rfl
    · subst hplan
      refine ⟨⟨snap, ctx, false, true⟩, ?_, rfl, hid⟩
      rw [reserveConversationFork_of_new hmat hnew, heq]

/-- A new key of a request without a pending child makes a child. -/
lemma ForkJournal.makesChild (h : ForkJournal s) (hs : Recorded s)
    (hnew : s.conversationForkCommands.lookup (command.scope, command.key) = none)
    (hnone : NonePending s command) : MakesChild s command where
  resolves := by
    by_cases hsupported : conversationForkScopeIsSupported command.scope = true
    · rw [resolveConversationForkCommand_of_new hsupported hnew]
      rcases h.reconcile_cases hs command with ⟨-, heq⟩ | ⟨child, record, hfork, -⟩
      · rw [heq]
        rfl
      · obtain ⟨delivery, hdel, hpending, hscope, hfp⟩ := hfork.delivery
        exact absurd hfp (hnone _ _ hdel hpending hscope)
    · unfold resolveConversationForkCommand
      rw [if_pos (by simpa using hsupported)]
  reserves plan prepared s' hplan hchecked := by
    subst hplan
    obtain ⟨-, -, resv, hreserve⟩ := h.reserve_checked hs hnew hnone hchecked
    obtain ⟨⟨_, _, _, _, hfork⟩, -⟩ := checkedFork_eq_ok hchecked
    exact ⟨hfork.newThread, resv, hreserve⟩

omit [UrlLibrary] in
/-- A recorded acknowledgement of the child. -/
lemma ForkJournal.acknowledgedBy (h : ForkJournal s)
    (hsc : command.scope = conversationForkDeliveryAckCommandScope)
    (hget : s.conversationForkDeliveryAckCommands.lookup (command.scope, command.key) =
      some ⟨command.fingerprint, child, 0, 1⟩) : AcknowledgedBy s command child where
  replays := by
    rw [h.acknowledge_recorded hsc hget, if_pos ⟨rfl, rfl, rfl⟩]
  conflicts other expectedRevision hnew := by
    obtain ⟨-, -, delivery, hdel, hsta⟩ := h.acknowledged _ _ hget
    exact h.acknowledge_acknowledged hnew hdel hsta expectedRevision

/-- Fork commands and deliveries after any operations, and how they go on. -/
structure ForkCommandsSettled (operations : List StoreOperation) : Prop where
  /-- A command that has led to a child leads to it in every later state. -/
  reserved : ∀ (plan : ConversationForkPlan) (reservation : ConversationForkReservation)
    (later : List StoreOperation),
    (reserveConversationFork (State.empty.run operations) plan).1 = .ok reservation →
    LeadsTo (State.empty.run (operations ++ .reserveConversationFork plan :: later)) plan.command
      reservation.snapshot.childThread.id
  resolved : ∀ (command : MutationCommand) (resolution : ConversationForkCommandResolution)
    (later : List StoreOperation),
    (resolveConversationForkCommand (State.empty.run operations) command).1 =
      .ok (some resolution) →
    LeadsTo (State.empty.run (operations ++ .resolveConversationForkCommand command :: later))
      command resolution.snapshot.childThread.id
  /-- A new key of a request whose child is undelivered shares the child. -/
  undelivered : ∀ (command : MutationCommand) (child : ThreadId)
    (delivery : ConversationForkDeliveryRecord),
    (State.empty.run operations).conversationForkDeliveries.lookup child = some delivery →
    delivery.state = .pending → delivery.scope = command.scope →
    delivery.requestFingerprint = command.fingerprint →
    (State.empty.run operations).conversationForkCommands.lookup (command.scope, command.key) =
      none →
    SharesChild (State.empty.run operations) command child
  /-- The new keys that share a child are bounded. -/
  bounded : ∀ child, ((State.empty.run operations).forkCommandsOf child false).length ≤
    maxConversationForkDeliveryAliases
  /-- A new key of a request without an undelivered child makes a child. -/
  delivered : ∀ command : MutationCommand, NonePending (State.empty.run operations) command →
    (State.empty.run operations).conversationForkCommands.lookup (command.scope, command.key) =
      none →
    MakesChild (State.empty.run operations) command
  /-- A pending delivery can be acknowledged under a new key. -/
  acknowledges : ∀ (command : MutationCommand) (child : ThreadId)
    (delivery : ConversationForkDeliveryRecord),
    (State.empty.run operations).conversationForkDeliveries.lookup child = some delivery →
    delivery.state = .pending → command.scope = conversationForkDeliveryAckCommandScope →
    (State.empty.run operations).conversationForkDeliveryAckCommands.lookup
      (command.scope, command.key) = none →
    (acknowledgeConversationForkDelivery (State.empty.run operations) command child 0).1 =
      .ok ⟨child, .acknowledged, 1⟩
  /-- An accepted acknowledgement holds in every later state, and right after it the request of the
  child has no undelivered child. -/
  acknowledged : ∀ (command : MutationCommand) (child : ThreadId) (expectedRevision : ℕ)
    (result : ConversationForkDelivery) (later : List StoreOperation),
    (acknowledgeConversationForkDelivery (State.empty.run operations) command child
      expectedRevision).1 = .ok result →
    expectedRevision = 0 ∧ result = ⟨child, .acknowledged, 1⟩ ∧
      AcknowledgedBy (State.empty.run (operations ++
        .acknowledgeConversationForkDelivery command child expectedRevision :: later)) command child
  requestable : ∀ (command request : MutationCommand) (child : ThreadId)
    (delivery : ConversationForkDeliveryRecord) (result : ConversationForkDelivery),
    (State.empty.run operations).conversationForkDeliveries.lookup child = some delivery →
    delivery.state = .pending → delivery.scope = request.scope →
    delivery.requestFingerprint = request.fingerprint →
    (acknowledgeConversationForkDelivery (State.empty.run operations) command child 0).1 =
      .ok result →
    NonePending (State.empty.run (operations ++
      [.acknowledgeConversationForkDelivery command child 0])) request
  /-- A delivery begins at revision zero. -/
  begins : ∀ (operation : StoreOperation) (child : ThreadId)
    (delivery : ConversationForkDeliveryRecord),
    (State.empty.run operations).conversationForkDeliveries.lookup child = none →
    (operation.apply (State.empty.run operations)).conversationForkDeliveries.lookup child =
      some delivery →
    delivery.state = .pending ∧ delivery.revision = 0
  /-- A delivery stays, and its revision moves from zero to one at most once. -/
  revisions : ∀ (operation : StoreOperation) (child : ThreadId)
    (before : ConversationForkDeliveryRecord),
    (State.empty.run operations).conversationForkDeliveries.lookup child = some before →
    ∃ delivery, (operation.apply (State.empty.run operations)).conversationForkDeliveries.lookup
        child = some delivery ∧
      (delivery = before ∨ (before.state = .pending ∧ before.revision = 0 ∧
        delivery.state = .acknowledged ∧ delivery.revision = 1))

omit [UrlLibrary] in
/-- A delivery that a step adds is pending at revision zero. -/
lemma ForkJournalStep.newDelivery (hstep : ForkJournalStep s s')
    {delivery : ConversationForkDeliveryRecord}
    (hnone : s.conversationForkDeliveries.lookup child = none)
    (hdel : s'.conversationForkDeliveries.lookup child = some delivery) :
    delivery.state = .pending ∧ delivery.revision = 0 := by
  cases hstep with
  | same hsame =>
    rw [hsame.deliveries, hnone] at hdel
    cases hdel
  | addAlias _ _ _ =>
    have hold : s.conversationForkDeliveries.lookup child = some delivery := hdel
    rw [hnone] at hold
    cases hold
  | fork _ _ _ =>
    rw [State.writeFork_deliveries] at hdel
    rcases lookup_insert_cases hdel with hold | ⟨-, rfl⟩
    · rw [hnone] at hold
      cases hold
    · exact ⟨rfl, rfl⟩
  | acknowledge _ hsto _ =>
    rcases lookup_insert_cases hdel with hold | ⟨rfl, -⟩
    · rw [hnone] at hold
      cases hold
    · rw [hnone] at hsto
      cases hsto

/-- A fork command that has led to a child leads to that child ever after and its key is closed to
other requests. While the delivery of the child is pending, an equal request under another key
leads to it as well, for a bounded number of keys, and later it makes a child of its own. The
revision of a delivery goes from zero to one, once, and the acknowledgement can be replayed. -/
theorem fork_commands_settled (operations : List StoreOperation) :
    ForkCommandsSettled operations := by
  have h := run_forkJournal operations
  have hs := run_recorded operations
  -- What a command has recorded is still there after later operations.
  have hleads : ∀ (op : StoreOperation) (later : List StoreOperation)
      (command : MutationCommand) (record : ConversationForkCommandRecord),
      (op.apply (State.empty.run operations)).conversationForkCommands.lookup
        (command.scope, command.key) = some record →
      record.fingerprint = command.fingerprint →
      LeadsTo (State.empty.run (operations ++ op :: later)) command
        record.childThreadId := by
    intro op later command record hget hsame
    have hlat := run_keepsForks (operations ++ [op]) later
    rw [List.append_assoc, run_append operations [op]] at hlat
    exact (run_forkJournal _).leadsTo (run_recorded _) (hlat.commands _ _ hget) hsame
  constructor
  case reserved =>
    intro plan resv later hok
    obtain ⟨record, hget, hsame, hch⟩ := h.reserve_record hs hok
    exact hch ▸ hleads (.reserveConversationFork plan) later plan.command record hget hsame
  case resolved =>
    intro command resolution later hok
    obtain ⟨record, hget, hsame, hch⟩ := h.resolve_record hs hok
    exact hch ▸ hleads (.resolveConversationForkCommand command) later command record hget
      hsame
  case undelivered =>
    intro command child delivery hdel hpend hsc hfp hnew
    exact h.sharesChild hs hnew hdel hpend hsc hfp
  case bounded => exact h.aliases
  case delivered => exact fun command hnone hnew => h.makesChild hs hnew hnone
  case acknowledges =>
    intro command child delivery hdel hpend hsc hnew
    rw [h.acknowledge_pending hsc hnew hdel hpend, if_pos rfl]
  case acknowledged =>
    intro command child expected res later hok
    have hlat := run_keepsForks (operations ++
      [.acknowledgeConversationForkDelivery command child expected]) later
    rw [List.append_assoc, run_append operations [_]] at hlat
    rcases h.acknowledge_cases command child expected with
      ⟨e, heq⟩ | ⟨hsc, rfl, hget, heq⟩ | ⟨hsc, rfl, -, delivery, -, -, heq⟩
    · rw [heq] at hok
      cases hok
    · rw [heq] at hok
      cases hok
      refine ⟨rfl, rfl, (run_forkJournal _).acknowledgedBy hsc (hlat.acks _ _ ?_)⟩
      exact (apply_keepsForks operations
        (.acknowledgeConversationForkDelivery command child 0)).acks _ _ hget
    · rw [heq] at hok
      cases hok
      refine ⟨rfl, rfl, (run_forkJournal _).acknowledgedBy hsc (hlat.acks _ _ ?_)⟩
      change (acknowledgeConversationForkDelivery (State.empty.run operations) command child
        0).2.conversationForkDeliveryAckCommands.lookup _ = _
      rw [heq]
      exact lookup_insert_self _ _ _
  case requestable =>
    intro command req child delivery res hdel hpend hsc hfp hok
    rw [run_append]
    change NonePending (acknowledgeConversationForkDelivery (State.empty.run operations) command
      child 0).2 req
    rcases h.acknowledge_cases command child 0 with
      ⟨e, heq⟩ | ⟨-, -, hget, -⟩ | ⟨-, -, -, stored, hsto, -, heq⟩
    · rw [heq] at hok
      cases hok
    · obtain ⟨-, -, acked, hacked, hsta⟩ := h.acknowledged _ _ hget
      obtain rfl := Option.mem_unique hdel hacked
      rw [hpend] at hsta
      cases hsta
    · rw [heq]
      intro child' delivery' hdel' hpend' hsc' hfp'
      rcases lookup_insert_cases hdel' with hold | ⟨-, rfl⟩
      · -- It would be the pending child of the request, which has just been acknowledged.
        obtain rfl := h.pending _ _ _ _ hold hdel hpend' hpend
          (hsc'.trans hsc.symm) (hfp'.trans hfp.symm)
        rw [State.withForkAck, lookup_insert_self] at hdel'
        cases hdel'
        cases hpend'
      · cases hpend'
  case begins =>
    intro op child delivery hbef hdel
    exact (op.forkStep h hs).newDelivery hbef hdel
  case revisions =>
    intro op child before hbef
    rcases (apply_keepsForks operations op).deliveries _ _ hbef with
      hsame | ⟨hpend, hacked⟩
    · exact ⟨before, hsame, .inl rfl⟩
    · rcases h.status _ _ hbef with ⟨-, hrev⟩ | ⟨hsta, -⟩
      · exact ⟨_, hacked, .inr ⟨hpend, hrev, rfl, rfl⟩⟩
      · rw [hpend] at hsta
        cases hsta

end Idempotence

end GrokDesktop
