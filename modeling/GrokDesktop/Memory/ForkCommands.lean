import GrokDesktop.Memory.ForkChildren

/-!
# The journal of fork commands

A fork command is journaled under its scope and key with the child that it made or was given. Three
tables belong together: the commands, one of which is canonical for each child, the deliveries of
the children, and the commands that acknowledged a delivery. `ForkJournal` says how, and every
operation of the store keeps it.
-/

namespace GrokDesktop

open Except Table State

section Journal

variable {s s' : State}

/-! ## The invariant -/

/-- What is known of every fork command. -/
structure ForkCommand (s : State) (key : String × String)
    (record : ConversationForkCommandRecord) : Prop where
  child : ∃ kind, conversationForkScope kind = key.1 ∧ ForkChild s record kind
  delivery : ∃ delivery, s.conversationForkDeliveries.lookup record.childThreadId = some delivery ∧
    delivery.scope = key.1 ∧ delivery.requestFingerprint = record.fingerprint

/-- The journal of fork commands, deliveries and acknowledgements. -/
structure ForkJournal (s : State) : Prop where
  command : ∀ key record, s.conversationForkCommands.lookup key = some record →
    ForkCommand s key record
  /-- Every child has one canonical command. -/
  canonical : ∀ child delivery, s.conversationForkDeliveries.lookup child = some delivery →
    ∃ key record, s.conversationForkCommands.lookup key = some record ∧
      record.canonical = true ∧ record.childThreadId = child
  once : ∀ key key' record record', s.conversationForkCommands.lookup key = some record →
    s.conversationForkCommands.lookup key' = some record' → record.canonical = true →
    record'.canonical = true → record.childThreadId = record'.childThreadId → key = key'
  aliases : ∀ child,
    (s.forkCommandsOf child false).length ≤ maxConversationForkDeliveryAliases
  /-- A delivery is pending at revision zero or acknowledged at revision one. -/
  status : ∀ child delivery, s.conversationForkDeliveries.lookup child = some delivery →
    (delivery.state = .pending ∧ delivery.revision = 0) ∨
      (delivery.state = .acknowledged ∧ delivery.revision = 1)
  /-- A request has one pending child at most. -/
  pending : ∀ child child' delivery delivery',
    s.conversationForkDeliveries.lookup child = some delivery →
    s.conversationForkDeliveries.lookup child' = some delivery' → delivery.state = .pending →
    delivery'.state = .pending → delivery.scope = delivery'.scope →
    delivery.requestFingerprint = delivery'.requestFingerprint → child = child'
  acknowledged : ∀ key record, s.conversationForkDeliveryAckCommands.lookup key = some record →
    record.expectedRevision = 0 ∧ record.outcomeRevision = 1 ∧ ∃ delivery,
      s.conversationForkDeliveries.lookup record.childThreadId = some delivery ∧
        delivery.state = .acknowledged

/-- The empty store has a fork journal. -/
lemma ForkJournal.empty : ForkJournal State.empty where
  command key record h := by simp [State.empty] at h
  canonical child delivery h := by simp [State.empty] at h
  once key key' record record' h := by simp [State.empty] at h
  aliases child := by simp [State.empty, State.forkCommandsOf]
  status child delivery h := by simp [State.empty] at h
  pending child child' delivery delivery' h := by simp [State.empty] at h
  acknowledged key record h := by simp [State.empty] at h

/-! ## The commands of a child -/

variable {child : ThreadId} {record : ConversationForkCommandRecord}
  {delivery : ConversationForkDeliveryRecord} {plan : ConversationForkPlan}
  {prep : PreparedConversationFork}

/-- The commands of a child. -/
lemma mem_forkCommandsOf {canonical : Bool} {scope : String} :
    (scope, record) ∈ s.forkCommandsOf child canonical ↔ ∃ key,
      s.conversationForkCommands.lookup (scope, key) = some record ∧
        record.canonical = canonical ∧ record.childThreadId = child := by
  simp only [State.forkCommandsOf, List.mem_map, List.mem_filter, Bool.and_eq_true,
    decide_eq_true_eq]
  constructor
  · rintro ⟨⟨⟨_, key⟩, _⟩, ⟨hmem, hkind⟩, heq⟩
    cases heq
    exact ⟨key, AList.mem_lookup_iff.2 hmem, hkind⟩
  · rintro ⟨key, hget, hkind⟩
    exact ⟨⟨(scope, key), record⟩, ⟨AList.mem_lookup_iff.1 hget, hkind⟩, rfl⟩

/-- The commands of a child after a command under a new key. -/
lemma forkCommandsOf_insert {key : String × String}
    (hnew : s.conversationForkCommands.lookup key = none) (child : ThreadId) (canonical : Bool)
    (h : s'.conversationForkCommands = s.conversationForkCommands.insert key record) :
    s'.forkCommandsOf child canonical =
      (if record.canonical = canonical ∧ record.childThreadId = child then [(key.1, record)]
        else []) ++ s.forkCommandsOf child canonical := by
  have hents : s'.conversationForkCommands.entries
      = ⟨key, record⟩ :: s.conversationForkCommands.entries := by
    rw [h, AList.insert_of_notMem (AList.lookup_eq_none.1 hnew)]
  simp only [State.forkCommandsOf, hents, List.filter_cons]
  by_cases hkind : record.canonical = canonical ∧ record.childThreadId = child
  · simp [hkind]
  · rw [if_neg hkind, if_neg (by simpa using hkind), List.nil_append]

/-- Every child has exactly one canonical command, which carries the request of its delivery. -/
theorem ForkJournal.forkCommandsOf_canonical (h : ForkJournal s)
    (hdel : s.conversationForkDeliveries.lookup child = some delivery) :
    ∃ key record, s.conversationForkCommands.lookup (delivery.scope, key) = some record ∧
      record.canonical = true ∧ record.childThreadId = child ∧
      record.fingerprint = delivery.requestFingerprint ∧
      s.forkCommandsOf child true = [(delivery.scope, record)] := by
  obtain ⟨⟨scope, key⟩, record, hget, hcan, rfl⟩ := h.canonical _ _ hdel
  obtain ⟨delivery', hdel', hsc, hfp⟩ := (h.command _ _ hget).delivery
  obtain rfl := Option.mem_unique hdel hdel'
  obtain rfl : delivery.scope = scope := hsc
  refine ⟨key, record, hget, hcan, rfl, hfp.symm, ?_⟩
  rw [State.forkCommandsOf, filter_entries_eq_singleton hget (by simp [hcan]), List.map_singleton]
  intro key' record' hget' hkind
  simp only [Bool.and_eq_true, decide_eq_true_eq] at hkind
  exact h.once _ _ _ _ hget' hget hkind.1 hcan hkind.2

/-! ## Later operations -/

/-- A command stays what it is while its child and its delivery are kept. -/
theorem ForkCommand.keep {key : String × String} (h : ForkCommand s key record)
    (hkeeps : KeepsChildren s s')
    (hdeliveries : ∀ child delivery, s.conversationForkDeliveries.lookup child = some delivery →
      ∃ delivery', s'.conversationForkDeliveries.lookup child = some delivery' ∧
        delivery'.scope = delivery.scope ∧
        delivery'.requestFingerprint = delivery.requestFingerprint) :
    ForkCommand s' key record := by
  obtain ⟨kind, hkind, hch⟩ := h.child
  obtain ⟨delivery, hdel, hsc, hfp⟩ := h.delivery
  obtain ⟨delivery', hdel', hsc', hfing'⟩ := hdeliveries _ _ hdel
  exact ⟨⟨kind, hkind, hch.keep hkeeps⟩,
    ⟨delivery', hdel', hsc'.trans hsc, hfing'.trans hfp⟩⟩

/-- An operation that leaves the three tables as they are keeps the journal. -/
theorem ForkJournal.keep (h : ForkJournal s) (hkeeps : KeepsChildren s s')
    (hsame : SameForkJournal s s') : ForkJournal s' where
  command key record hlookup := by
    rw [hsame.commands] at hlookup
    exact (h.command key record hlookup).keep hkeeps fun _ delivery hdel =>
      ⟨delivery, by rw [hsame.deliveries, hdel], rfl, rfl⟩
  canonical := by
    rw [hsame.commands, hsame.deliveries]
    exact h.canonical
  once := by
    rw [hsame.commands]
    exact h.once
  aliases child := by
    rw [State.forkCommandsOf, hsame.commands]
    exact h.aliases child
  status := by
    rw [hsame.deliveries]
    exact h.status
  pending := by
    rw [hsame.deliveries]
    exact h.pending
  acknowledged := by
    rw [hsame.deliveries, hsame.acks]
    exact h.acknowledged

/-- A fork's child is new to the journal. -/
theorem ForkJournal.lookup_delivery_of_newThread (h : ForkJournal s)
    (hnew : s.threads.lookup child = none) : s.conversationForkDeliveries.lookup child = none := by
  rw [Option.eq_none_iff_forall_ne_some]
  intro delivery hdel
  obtain ⟨key, record, hget, -, rfl⟩ := h.canonical _ _ hdel
  obtain ⟨kind, -, hch⟩ := (h.command _ _ hget).child
  obtain ⟨thread, hthr, -⟩ := hch.thread
  rw [hthr] at hnew
  cases hnew

/-- Journaling an alias of a child under a new key keeps the journal. -/
theorem ForkJournal.addAlias (h : ForkJournal s) (hkeeps : KeepsChildren s s') {key : String}
    {canonicalKey : String} (hnew : s.conversationForkCommands.lookup (delivery.scope, key) = none)
    (hcanonical : s.conversationForkCommands.lookup (delivery.scope, canonicalKey) = some record)
    (hchild : record.childThreadId = child)
    (hroom : (s.forkCommandsOf child false).length < maxConversationForkDeliveryAliases)
    (hcommands : s'.conversationForkCommands = s.conversationForkCommands.insert
      (delivery.scope, key) { record with canonical := false })
    (hdeliveries : s'.conversationForkDeliveries = s.conversationForkDeliveries)
    (hacks : s'.conversationForkDeliveryAckCommands = s.conversationForkDeliveryAckCommands) :
    ForkJournal s' where
  command key' record' hlookup := by
    have hkept : ∀ key record, ForkCommand s key record → ForkCommand s' key record :=
      fun _ _ hcommand => hcommand.keep hkeeps fun _ delivery hdelivery =>
        ⟨delivery, by rw [hdeliveries, hdelivery], rfl, rfl⟩
    rw [hcommands] at hlookup
    rcases lookup_insert_cases hlookup with hold | ⟨rfl, rfl⟩
    · exact hkept _ _ (h.command _ _ hold)
    · obtain ⟨⟨kind, hkind, hmade⟩, hdelivery⟩ := hkept _ _ (h.command _ _ hcanonical)
      exact ⟨⟨kind, hkind, ⟨hmade.thread, hmade.copies, hmade.branch, hmade.turn⟩⟩, hdelivery⟩
  canonical child' delivery' hdelivery := by
    rw [hdeliveries] at hdelivery
    obtain ⟨key', record', hlookup, hrest⟩ := h.canonical _ _ hdelivery
    exact ⟨key', record', by rw [hcommands, lookup_insert_of_new hnew hlookup], hrest⟩
  once key₁ key₂ record₁ record₂ hlookup₁ hlookup₂ hcanonical₁ hcanonical₂ hsame := by
    rw [hcommands] at hlookup₁ hlookup₂
    rcases lookup_insert_cases hlookup₁ with hold₁ | ⟨-, rfl⟩
    · rcases lookup_insert_cases hlookup₂ with hold₂ | ⟨-, rfl⟩
      · exact h.once _ _ _ _ hold₁ hold₂ hcanonical₁ hcanonical₂ hsame
      · cases hcanonical₂
    · cases hcanonical₁
  aliases child' := by
    rw [forkCommandsOf_insert hnew child' false hcommands]
    by_cases hsame : child = child'
    · subst hsame
      split <;> simp <;> omega
    · rw [if_neg (fun hboth => hsame (hchild.symm.trans hboth.2))]
      simpa using h.aliases child'
  status := by
    rw [hdeliveries]
    exact h.status
  pending := by
    rw [hdeliveries]
    exact h.pending
  acknowledged := by
    rw [hdeliveries, hacks]
    exact h.acknowledged

@[simp] lemma State.writeFork_commands :
    (s.writeFork plan prep).conversationForkCommands = s.conversationForkCommands.insert
      (plan.command.scope, plan.command.key) (forkCommandRecord plan) := by
  unfold writeFork
  split <;> rfl

@[simp] lemma State.writeFork_deliveries :
    (s.writeFork plan prep).conversationForkDeliveries =
      s.conversationForkDeliveries.insert plan.childThread.id
        ⟨plan.command.scope, plan.command.fingerprint, .pending, 0⟩ := by
  unfold writeFork
  split <;> rfl

@[simp] lemma State.writeFork_acks :
    (s.writeFork plan prep).conversationForkDeliveryAckCommands =
      s.conversationForkDeliveryAckCommands := by
  unfold writeFork
  split <;> rfl

def NonePending (s : State) (command : MutationCommand) : Prop :=
  ∀ child delivery, s.conversationForkDeliveries.lookup child = some delivery →
    delivery.state = .pending → delivery.scope = command.scope →
    delivery.requestFingerprint ≠ command.fingerprint

/-- A fork under a new key, for a request without a pending child, keeps the journal. -/
theorem ForkJournal.addFork (h : ForkJournal s) {kind : ConversationForkKind}
    (hkeeps : KeepsChildren s (s.writeFork plan prepared))
    (hmade : ForkChild (s.writeFork plan prepared) (forkCommandRecord plan) kind)
    (hscope : conversationForkScope kind = plan.command.scope)
    (hnew : s.conversationForkCommands.lookup (plan.command.scope, plan.command.key) = none)
    (hthread : s.threads.lookup plan.childThread.id = none) (hnone : NonePending s plan.command) :
    ForkJournal (s.writeFork plan prepared) where
  command key record hlookup := by
    rw [writeFork_commands] at hlookup
    rcases lookup_insert_cases hlookup with hold | ⟨rfl, rfl⟩
    · refine (h.command _ _ hold).keep hkeeps fun child delivery hdelivery =>
        ⟨delivery, ?_, rfl, rfl⟩
      rw [writeFork_deliveries]
      exact lookup_insert_of_new (h.lookup_delivery_of_newThread hthread) hdelivery
    · refine ⟨⟨kind, hscope, hmade⟩, ?_⟩
      exact ⟨_, lookup_insert_self _ _ _, rfl, rfl⟩
  canonical child delivery hdelivery := by
    rw [writeFork_deliveries] at hdelivery
    rw [writeFork_commands]
    rcases lookup_insert_cases hdelivery with hold | ⟨rfl, -⟩
    · obtain ⟨key, record, hlookup, hrest⟩ := h.canonical _ _ hold
      exact ⟨key, record, lookup_insert_of_new hnew hlookup, hrest⟩
    · exact ⟨_, forkCommandRecord plan, lookup_insert_self _ _ _, rfl, rfl⟩
  once key₁ key₂ record₁ record₂ hlookup₁ hlookup₂ hcanonical₁ hcanonical₂ hsame := by
    -- No earlier command leads to the new thread.
    have hother : ∀ key record, s.conversationForkCommands.lookup key = some record →
        record.childThreadId ≠ plan.childThread.id := by
      intro key record hlookup heq
      obtain ⟨kind, -, hchild⟩ := (h.command _ _ hlookup).child
      obtain ⟨thread, hstored, -⟩ := hchild.thread
      rw [heq, hthread] at hstored
      cases hstored
    rw [writeFork_commands] at hlookup₁ hlookup₂
    rcases lookup_insert_cases hlookup₁ with hold₁ | ⟨rfl, rfl⟩ <;>
      rcases lookup_insert_cases hlookup₂ with hold₂ | ⟨rfl, rfl⟩
    · exact h.once _ _ _ _ hold₁ hold₂ hcanonical₁ hcanonical₂ hsame
    · exact absurd hsame (hother _ _ hold₁)
    · exact absurd hsame.symm (hother _ _ hold₂)
    · rfl
  aliases child := by
    rw [forkCommandsOf_insert hnew child false writeFork_commands]
    exact h.aliases child
  status child delivery hdelivery := by
    rw [writeFork_deliveries] at hdelivery
    rcases lookup_insert_cases hdelivery with hold | ⟨-, rfl⟩
    · exact h.status _ _ hold
    · exact .inl ⟨rfl, rfl⟩
  pending child₁ child₂ delivery₁ delivery₂ hlookup₁ hlookup₂ hpending₁ hpending₂ hscopes
      hfingerprints := by
    rw [writeFork_deliveries] at hlookup₁ hlookup₂
    rcases lookup_insert_cases hlookup₁ with hold₁ | ⟨rfl, rfl⟩ <;>
      rcases lookup_insert_cases hlookup₂ with hold₂ | ⟨rfl, rfl⟩
    · exact h.pending _ _ _ _ hold₁ hold₂ hpending₁ hpending₂ hscopes hfingerprints
    · exact absurd hfingerprints (hnone _ _ hold₁ hpending₁ hscopes)
    · exact absurd hfingerprints.symm (hnone _ _ hold₂ hpending₂ hscopes.symm)
    · rfl
  acknowledged key record hlookup := by
    rw [writeFork_acks] at hlookup
    obtain ⟨hexpected, houtcome, delivery, hdelivery, hstate⟩ := h.acknowledged _ _ hlookup
    refine ⟨hexpected, houtcome, delivery, ?_, hstate⟩
    rw [writeFork_deliveries]
    exact lookup_insert_of_new (h.lookup_delivery_of_newThread hthread) hdelivery

/-- An acknowledgement keeps the journal. -/
lemma ForkJournal.acknowledge (h : ForkJournal s) {command : MutationCommand}
    (hdelivery : s.conversationForkDeliveries.lookup child = some delivery)
    (hkeeps : KeepsChildren s s')
    (hcommands : s'.conversationForkCommands = s.conversationForkCommands)
    (hdeliveries : s'.conversationForkDeliveries = s.conversationForkDeliveries.insert child
      { delivery with revision := 1, state := .acknowledged })
    (hacks : s'.conversationForkDeliveryAckCommands =
      s.conversationForkDeliveryAckCommands.insert (command.scope, command.key)
        ⟨command.fingerprint, child, 0, 1⟩) :
    ForkJournal s' where
  command key record hlookup := by
    rw [hcommands] at hlookup
    refine (h.command _ _ hlookup).keep hkeeps fun child' delivery' hdelivery' => ?_
    rw [hdeliveries]
    by_cases hsame : child' = child
    · subst hsame
      obtain rfl := Option.mem_unique hdelivery hdelivery'
      exact ⟨_, lookup_insert_self _ _ _, rfl, rfl⟩
    · exact ⟨delivery', by rw [lookup_insert_of_ne _ _ hsame, hdelivery'], rfl, rfl⟩
  canonical child' delivery' hdelivery' := by
    rw [hcommands]
    rw [hdeliveries] at hdelivery'
    rcases lookup_insert_cases hdelivery' with hold | ⟨rfl, -⟩
    · exact h.canonical _ _ hold
    · exact h.canonical _ _ hdelivery
  once := by
    rw [hcommands]
    exact h.once
  aliases child' := by
    rw [State.forkCommandsOf, hcommands]
    exact h.aliases child'
  status child' delivery' hdelivery' := by
    rw [hdeliveries] at hdelivery'
    rcases lookup_insert_cases hdelivery' with hold | ⟨-, rfl⟩
    · exact h.status _ _ hold
    · exact .inr ⟨rfl, rfl⟩
  pending child₁ child₂ delivery₁ delivery₂ hlookup₁ hlookup₂ hpending₁ hpending₂ := by
    rw [hdeliveries] at hlookup₁ hlookup₂
    rcases lookup_insert_cases hlookup₁ with hold₁ | ⟨-, rfl⟩
    · rcases lookup_insert_cases hlookup₂ with hold₂ | ⟨-, rfl⟩
      · exact h.pending _ _ _ _ hold₁ hold₂ hpending₁ hpending₂
      · cases hpending₂
    · cases hpending₁
  acknowledged key record hlookup := by
    rw [hacks] at hlookup
    rw [hdeliveries]
    rcases lookup_insert_cases hlookup with hold | ⟨-, rfl⟩
    · obtain ⟨hexpected, houtcome, delivery', hdelivery', hstate⟩ := h.acknowledged _ _ hold
      refine ⟨hexpected, houtcome, ?_⟩
      by_cases hsame : record.childThreadId = child
      · exact ⟨_, by rw [hsame, lookup_insert_self], rfl⟩
      · exact ⟨delivery', by rw [lookup_insert_of_ne _ _ hsame, hdelivery'], hstate⟩
    · exact ⟨rfl, rfl, _, lookup_insert_self _ _ _, rfl⟩

/-! ## Reading -/

lemma ForkJournal.readDelivery (h : ForkJournal s)
    (hdel : s.conversationForkDeliveries.lookup child = some delivery) :
    conversationForkDelivery s child = .ok ⟨child, delivery.state, delivery.revision⟩ := by
  obtain ⟨key, record, hget, -, rfl, hfp, hcan⟩ :=
    h.forkCommandsOf_canonical hdel
  obtain ⟨kind, -, hch⟩ := (h.command _ _ hget).child
  obtain ⟨thread, hthr, hkind⟩ := hch.thread
  -- An alias leads to the same delivery as the canonical command.
  have hali : ∀ scope alias_, (scope, alias_) ∈ s.forkCommandsOf record.childThreadId false →
      scope = delivery.scope ∧ alias_.fingerprint = delivery.requestFingerprint := by
    intro scope alias_ hmem
    obtain ⟨key', hget', -, hsame⟩ := mem_forkCommandsOf.1 hmem
    obtain ⟨delivery', hdel', hsc', hfp'⟩ := (h.command _ _ hget').delivery
    rw [hsame] at hdel'
    obtain rfl := Option.mem_unique hdel hdel'
    exact ⟨hsc'.symm, hfp'.symm⟩
  have hany : (s.forkCommandsOf record.childThreadId false).any (fun entry =>
      entry.1 ≠ delivery.scope || entry.2.fingerprint ≠ delivery.requestFingerprint) = false := by
    rw [List.any_eq_false]
    rintro ⟨scope, alias_⟩ hmem
    obtain ⟨hsc, hsame⟩ := hali scope alias_ hmem
    simp [hsc, hsame]
  have hcorr : ¬ (maxConversationForkDeliveryAliases <
        (s.forkCommandsOf record.childThreadId false).length
      ∨ (s.forkCommandsOf record.childThreadId false).any (fun entry =>
          entry.1 ≠ delivery.scope || entry.2.fingerprint ≠ delivery.requestFingerprint)
      ∨ delivery.scope ≠ delivery.scope ∨ record.fingerprint ≠ delivery.requestFingerprint
      ∨ ¬ ((delivery.state = .pending ∧ delivery.revision = 0)
        ∨ (delivery.state = .acknowledged ∧ delivery.revision = 1))) := by
    rintro (hlen | hoth | hsc | hreq | hstat)
    · exact absurd (h.aliases _) (not_le.2 hlen)
    · rw [hany] at hoth
      cases hoth
    · exact hsc rfl
    · exact hreq hfp
    · exact hstat (h.status _ _ hdel)
  simp only [conversationForkDelivery, hdel, Except.okOr_some, ok_bind, hcan]
  rw [rejectIf, if_neg hcorr]
  simp [hthr, hkind, Except.toBool, rejectIf]

end Journal

section Reading

variable [UrlLibrary] {s s' : State}

/-- The child of every command can be read. -/
theorem ForkJournal.snapshot (h : ForkJournal s) (hs : Recorded s) {key : String × String}
    {record : ConversationForkCommandRecord}
    (hget : s.conversationForkCommands.lookup key = some record) :
    ∃ snapshot context, conversationForkSnapshot s record = .ok snapshot ∧
      snapshot.childThread.id = record.childThreadId ∧
      forkCommandContext s record = .ok context := by
  obtain ⟨kind, hkind, hch⟩ := (h.command _ _ hget).child
  obtain ⟨delivery, hdel, hsc, hfp⟩ := (h.command _ _ hget).delivery
  obtain ⟨snapshot, hsnap, hid⟩ := hch.snapshot hs hdel (hsc.trans hkind.symm)
    hfp (h.readDelivery hdel)
  obtain ⟨context, hctx⟩ := hch.context hs.prompts
  exact ⟨snapshot, context, hsnap, hid, hctx⟩

/-! ## An equal pending request -/

/-- The child has a pending delivery of the request, and its canonical command is the record. -/
structure PendingFork (s : State) (command : MutationCommand) (child : ThreadId)
    (record : ConversationForkCommandRecord) : Prop where
  delivery : ∃ delivery, s.conversationForkDeliveries.lookup child = some delivery ∧
    delivery.state = .pending ∧ delivery.scope = command.scope ∧
    delivery.requestFingerprint = command.fingerprint
  canonical : ∃ key, s.conversationForkCommands.lookup (command.scope, key) = some record
  fingerprint : record.fingerprint = command.fingerprint
  child_eq : record.childThreadId = child

/-- The state with the command as one more alias of a canonical command. -/
def State.withForkAlias (s : State) (command : MutationCommand)
    (record : ConversationForkCommandRecord) : State :=
  { s with
    conversationForkCommands := s.conversationForkCommands.insert (command.scope, command.key)
      { record with canonical := false } }

omit [UrlLibrary] in
/-- The children with a pending delivery of the request: one, or none. -/
theorem ForkJournal.pendingChildren (h : ForkJournal s) (cmd : MutationCommand) :
    (NonePending s cmd ∧ (s.conversationForkDeliveries.entries.filter fun entry =>
      entry.2.state = .pending && entry.2.scope = cmd.scope &&
        entry.2.requestFingerprint = cmd.fingerprint).map Sigma.fst = []) ∨
    ∃ child record, PendingFork s cmd child record ∧
      s.forkCommandsOf child true = [(cmd.scope, record)] ∧
      (s.conversationForkDeliveries.entries.filter fun entry =>
        entry.2.state = .pending && entry.2.scope = cmd.scope &&
          entry.2.requestFingerprint = cmd.fingerprint).map Sigma.fst = [child] := by
  by_cases hnone : NonePending s cmd
  · refine .inl ⟨hnone, ?_⟩
    rw [List.map_eq_nil_iff, List.filter_eq_nil_iff]
    rintro ⟨child, delivery⟩ hmem hmatch
    simp only [Bool.and_eq_true, decide_eq_true_eq] at hmatch
    exact hnone child delivery (AList.mem_lookup_iff.2 hmem) hmatch.1.1 hmatch.1.2 hmatch.2
  · right
    simp only [NonePending, not_forall, not_not] at hnone
    obtain ⟨child, delivery, hdel, hpend, hsc, hfp⟩ := hnone
    obtain ⟨key, record, hget, -, hch, hrec, hcan⟩ :=
      h.forkCommandsOf_canonical hdel
    rw [hsc] at hget hcan
    refine ⟨child, record, ⟨⟨delivery, hdel, hpend, hsc, hfp⟩, ⟨key, hget⟩,
      hrec.trans hfp, hch⟩, hcan, ?_⟩
    rw [filter_entries_eq_singleton hdel (by simp [hpend, hsc, hfp]), List.map_singleton]
    intro child' delivery' hdel' hmatch
    simp only [Bool.and_eq_true, decide_eq_true_eq] at hmatch
    exact h.pending _ _ _ _ hdel' hdel hmatch.1.1 hpend (hmatch.1.2.trans hsc.symm)
      (hmatch.2.trans hfp.symm)

/-- What becomes of a command under a new key: no equal request is pending, or the command is
rejected because its child has too many aliases, or it becomes an alias. -/
theorem ForkJournal.reconcile_cases (h : ForkJournal s) (hs : Recorded s)
    (command : MutationCommand) :
    (NonePending s command ∧
      reconcilePendingConversationForkCommand s command = (.ok none, s)) ∨
    ∃ child record, PendingFork s command child record ∧
      ((maxConversationForkDeliveryAliases ≤ (s.forkCommandsOf child false).length ∧
        reconcilePendingConversationForkCommand s command = (.error .conflict, s)) ∨
      ((s.forkCommandsOf child false).length < maxConversationForkDeliveryAliases ∧
        ∃ snapshot context, snapshot.childThread.id = child ∧
          reconcilePendingConversationForkCommand s command =
            (.ok (some (snapshot, context)), s.withForkAlias command record))) := by
  rcases h.pendingChildren command with ⟨hnone, hnil⟩ | ⟨child, record, hpend, hcan, hone⟩
  · refine .inl ⟨hnone, ?_⟩
    simp only [reconcilePendingConversationForkCommand, hnil]
  · refine .inr ⟨child, record, hpend, ?_⟩
    simp only [reconcilePendingConversationForkCommand, hone, hcan]
    by_cases hroom : maxConversationForkDeliveryAliases ≤ (s.forkCommandsOf child false).length
    · exact .inl ⟨hroom, by rw [if_pos hroom]⟩
    · refine .inr ⟨not_le.1 hroom, ?_⟩
      obtain ⟨key, hget⟩ := hpend.canonical
      obtain ⟨snapshot, context, hsnap, hid, hctx⟩ := h.snapshot hs hget
      -- The snapshot does not depend on whether the command is canonical.
      have hsnap' : conversationForkSnapshot s { record with canonical := false }
          = .ok snapshot := hsnap
      have hcont' : forkCommandContext s { record with canonical := false } = .ok context :=
        hctx
      refine ⟨snapshot, context, hid.trans hpend.child_eq, ?_⟩
      rw [if_neg hroom, if_neg (not_not.2 hpend.fingerprint)]
      simp only [hsnap', hcont']
      rfl

end Reading

end GrokDesktop
