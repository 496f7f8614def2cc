import GrokDesktop.Application.PrivilegedGateway

/-!
# Replayed health queries

A health query that finds its operation recorded is answered from the journal. The journal compares
whole intents, and the expiry in the intent is computed from the time of the call, so a later query
with the same arguments is answered from the record exactly when it computes the same expiry. Other
queries get a conflict.

Other writers may use the journal at any time, as long as they change stored operations by the
methods of those operations. A health query is such a writer itself.
-/

namespace GrokDesktop

open Table
open Resumption Resumption.Program
open Except
open PrivilegedOperation (Transition)
open GatewayService

/-! ## Other writers -/

namespace PrivilegedJournal

variable {s s' : PrivilegedJournal} {intent : PrivilegedOperationIntent}
  {id : PrivilegedOperationId}

/-- A call of another writer that changes stored operations only by their own methods. -/
def OtherCall [Sha256Library] (s s' : PrivilegedJournal) : Prop :=
  ∃ call, s' = s.apply call ∧ Wrote Transition s s'

/-- Any number of calls of other writers. -/
def Others [Sha256Library] : PrivilegedJournal → PrivilegedJournal → Prop :=
  Relation.ReflTransGen OtherCall

/-- The journal has an operation with the intent under the key of the intent. -/
structure Recorded (intent : PrivilegedOperationIntent) (id : PrivilegedOperationId)
    (s : PrivilegedJournal) : Prop where
  key : s.operationKeys.lookup (privilegedOperationKey intent) = some id
  stored : ∃ operation, s.operations.lookup id = some operation ∧
    operation.id = id ∧ operation.intent = intent ∧ operation.validateSnapshot = true

/-- A stored operation is kept by another writer or moved by one of its own methods. -/
lemma OtherCall.stored [Sha256Library] (h : OtherCall s s') {operation : PrivilegedOperation}
    (hsto : s.operations.lookup id = some operation) :
    ∃ next, s'.operations.lookup id = some next ∧ (next = operation ∨
      Transition operation next ∧ next.id = id ∧ next.validateSnapshot = true) := by
  obtain ⟨call, -, hwrote⟩ := h
  cases hwrote with
  | nothing hops _ => exact ⟨operation, by rw [hops, hsto], .inl rfl⟩
  | prepared new _ _ hnew hops _ =>
    exact ⟨operation, by rw [hops]; exact lookup_insert_of_new hnew hsto, .inl rfl⟩
  | replaced cur next hcurr _ hnext htr hops _ =>
    rw [hops]
    by_cases hsame : id = next.id
    · subst hsame
      obtain rfl : cur = operation := Option.mem_unique hcurr hsto
      exact ⟨next, lookup_insert_self .., .inr ⟨htr, rfl, hnext⟩⟩
    · exact ⟨operation, by rw [lookup_insert_of_ne _ _ hsame, hsto], .inl rfl⟩

/-- What is recorded stays recorded. -/
lemma Recorded.others [Sha256Library] (h : Recorded intent id s) (hoth : Others s s') :
    Recorded intent id s' := by
  induction hoth with
  | refl => exact h
  | tail _ hcall ih =>
    obtain ⟨operation, hsto, hid, hint, hval⟩ := ih.stored
    obtain ⟨next, hnext, hmoved⟩ := hcall.stored hsto
    obtain ⟨call, rfl, -⟩ := hcall
    refine ⟨apply_keys _ call _ _ ih.key, next, hnext, ?_⟩
    obtain rfl | ⟨htr, hid', hval'⟩ := hmoved
    · exact ⟨hid, hint, hval⟩
    · exact ⟨hid', htr.follows.intent_eq.trans hint, hval'⟩

/-- A recorded operation is resolved, or conflicts with another intent of its key. -/
theorem Recorded.resolvePreparation (h : Recorded intent id s)
    {proposed : PrivilegedOperationIntent}
    (hkey : privilegedOperationKey proposed = privilegedOperationKey intent) :
    ∃ operation, s.operations.lookup id = some operation ∧
      s.resolvePreparation proposed =
        if intent = proposed then .ok (some operation) else .error .conflict := by
  obtain ⟨operation, hsto, -, hint, hval⟩ := h.stored
  refine ⟨operation, hsto, ?_⟩
  have hread : s.storedByKey id = .ok operation := by
    rw [storedByKey, hsto]
    exact validatePrivilegedOperation_eq_ok.2 ⟨hval, rfl⟩
  rw [PrivilegedJournal.resolvePreparation, hkey, h.key]
  dsimp only
  rw [hread, ok_bind]
  by_cases hsame : intent = proposed
  · rw [if_pos hsame, if_pos (exactPrivilegedIntent_iff.2 (hint.trans hsame))]
    rfl
  · rw [if_neg hsame, if_neg]
    exact fun hexact => hsame (hint.symm.trans (exactPrivilegedIntent_iff.1 hexact))

/-- A created preparation is recorded. -/
lemma prepareWithPayload_created [Sha256Library] {operation : PrivilegedOperation}
    {payload : List UInt8} {preparation : PrivilegedPreparation}
    (h : s.prepareWithPayload operation payload = (.ok preparation, s'))
    (hcre : preparation.created = true) :
    preparation.operation = operation ∧ Recorded operation.intent operation.id s' := by
  rcases prepareWithPayload_eq_ok h with ⟨hrepl, -⟩ | ⟨hval, -, -, -, rfl, rfl⟩
  · rw [hrepl] at hcre
    cases hcre
  · exact ⟨rfl, lookup_insert_self .., _, lookup_insert_self .., rfl, rfl, hval⟩

end PrivilegedJournal

open PrivilegedJournal (Others Recorded)

/-- A replay is no conflict. -/
lemma replay_ne_conflict (operation : PrivilegedOperation) :
    replay operation ≠ .error .conflict := by
  unfold replay
  split <;> simp

section

variable [Sha256Library] {vmId : PrivilegedResourceId} {grantId : AuthorityGrantId}
  {key : PrivilegedIdempotencyKey} {grant keyText vm proof : String}

/-- The part of a health query after its clock reading. -/
def healthAt (vmId : PrivilegedResourceId) (grantId : AuthorityGrantId)
    (key : PrivilegedIdempotencyKey) (now : UnixMillis) : GatewayService PrivilegedGatewayResult :=
  (prepare (healthIntent vmId grantId key (healthExpiry now)) (healthPayload vmId.value)).bind
    fun preparation =>
      if !preparation.created then Program.liftExcept (replay preparation.operation)
      else dispatchHealth vmId.value preparation.operation

/-- A health query with valid arguments reads the clock first. -/
lemma runnerHealth_eq (hproof : 32 ≤ proof.utf8ByteSize) :
    runnerHealth grantId.value key.value vmId.value proof =
      .call .now fun now => healthAt vmId grantId key now := by
  have hok : rejectIf (proof.utf8ByteSize < 32) (ApplicationError.invalidInput
      "proof of possession token must be at least 32 bytes") = .ok () := by
    rw [rejectIf_eq_ok]
    omega
  simp only [runnerHealth, reject, hok, check, SafeValue.new_value, mapError_ok,
    bind_eq, liftExcept_ok, done_bind, request, call_bind, healthAt]

@[simp] lemma privilegedOperationKey_healthIntent (expires : UnixMillis) :
    privilegedOperationKey (healthIntent vmId grantId key expires) = (grantId.value, key.value) :=
  rfl

/-- The check of the payload of a health query. -/
abbrev payloadCheck (vmId : PrivilegedResourceId) : Except ApplicationError Unit :=
  validatePayload (healthPayload vmId.value) (Sha256Library.digest (healthPayload vmId.value))

/-- The part of a health query that records a new operation. -/
def recordHealth (vmId : PrivilegedResourceId) (intent : PrivilegedOperationIntent) :
    GatewayService PrivilegedGatewayResult :=
  .call (.generateId "privileged-operation") fun text =>
    (check .ofId (EntityId.new text)).bind fun id => .call .now fun now =>
      (check .ofPrivileged (PrivilegedOperation.prepare id intent now)).bind fun operation =>
        .call (.prepareWithPayload operation (healthPayload vmId.value)) fun reply =>
          (fromStore reply).bind fun preparation =>
            if !preparation.created then Program.liftExcept (replay preparation.operation)
            else dispatchHealth vmId.value preparation.operation

/-- The part of a health query after the journal was asked for a recorded operation. -/
def afterResolve (vmId : PrivilegedResourceId) (intent : PrivilegedOperationIntent) :
    Except StoreError (Option PrivilegedOperation) → GatewayService PrivilegedGatewayResult
  | .ok (some operation) => Program.liftExcept (replay operation)
  | .ok none => recordHealth vmId intent
  | .error e => .fail (.ofStore e)

/-- A health query checks its payload and asks the journal. -/
lemma healthAt_eq (now : UnixMillis) : healthAt vmId grantId key now =
    match payloadCheck vmId with
    | .ok () => .call (.resolvePreparation (healthIntent vmId grantId key (healthExpiry now)))
        (afterResolve vmId (healthIntent vmId grantId key (healthExpiry now)))
    | .error e => .fail e := by
  change Program.bind (Program.bind (Program.liftExcept (payloadCheck vmId)) _) _ = _
  cases payloadCheck vmId with
  | error e => rfl
  | ok u =>
    simp only [bind_eq, liftExcept_ok, done_bind, request, call_bind]
    congr 1
    funext reply
    cases reply with
    | error e => rfl
    | ok found =>
      cases found with
      | some operation => rfl
      | none =>
        simp only [fromStore, mapError_ok, liftExcept_ok, done_bind, call_bind, bind_assoc,
          afterResolve, recordHealth]

/-- An operation is prepared only with the intent. -/
def GatewayCall.PreparesOnly (intent : PrivilegedOperationIntent) : GatewayCall → Prop
  | .prepareWithPayload operation _ => operation.intent = intent
  | _ => True

/-- The dispatch of a health query prepares nothing. -/
lemma dispatchHealth_ensures (vm : String) (operation : PrivilegedOperation)
    (intent : PrivilegedOperationIntent) :
    (dispatchHealth vm operation).Ensures (GatewayCall.PreparesOnly intent) fun _ => True := by
  simp only [dispatchHealth, beginDispatch, request, fromStore, check, reject, bind_eq,
    ensures_bind, ensures_liftExcept, ensures_call, ensures_done, GatewayCall.PreparesOnly,
    true_and]
  intros
  split <;> simp [GatewayCall.PreparesOnly]

/-- A health query prepares an operation with the intent of its clock reading. -/
lemma healthAt_ensures (now : UnixMillis) : (healthAt vmId grantId key now).Ensures
    (GatewayCall.PreparesOnly (healthIntent vmId grantId key (healthExpiry now)))
    fun _ => True := by
  rw [healthAt_eq]
  cases payloadCheck vmId with
  | error e => trivial
  | ok u =>
    refine ⟨trivial, fun reply => ?_⟩
    rcases reply with e | _ | operation
    · trivial
    · simp only [afterResolve, recordHealth, check, fromStore, ensures_call, ensures_bind,
        ensures_liftExcept, mapError_eq_ok, GatewayCall.PreparesOnly, true_and]
      intro _ _ _ _ operation hprep
      simp only [PrivilegedOperation.prepare, bind_eq_ok, return_eq_ok] at hprep
      obtain ⟨_, -, _, -, _, -, _, -, _, -, rfl⟩ := hprep
      refine ⟨rfl, fun _ _ _ => ?_⟩
      rw [ensures_ite]
      simp [dispatchHealth_ensures]
    · simp [afterResolve]

variable {k : Except StoreError PrivilegedPreparation → GatewayService PrivilegedGatewayResult}
  {events : List (Event gatewayInterface)} {operation : PrivilegedOperation}
  {rely : PrivilegedJournal → PrivilegedJournal → Prop} {payload : List UInt8}
  {s t : PrivilegedJournal}

/-- A health query that is about to prepare an operation has valid arguments and prepares the
intent of its clock reading. -/
lemma runnerHealth_reaches {first : UnixMillis}
    (h : Progress gatewaySystem rely events (runnerHealth grant keyText vm proof) s
      (.call (.prepareWithPayload operation payload) k) t)
    (hclk : events.head? = some ⟨.now, first⟩) :
    32 ≤ proof.utf8ByteSize ∧ ∃ (vmId : PrivilegedResourceId) (grantId : AuthorityGrantId)
      (key : PrivilegedIdempotencyKey), vmId.value = vm ∧ grantId.value = grant ∧
        key.value = keyText ∧ payloadCheck vmId = .ok () ∧
        operation.intent = healthIntent vmId grantId key (healthExpiry first) := by
  by_cases hproof : proof.utf8ByteSize < 32
  · simp only [runnerHealth, reject, rejectIf, if_pos hproof] at h
    cases h.result_eq rfl
  refine ⟨by omega, ?_⟩
  cases hvm : (SafeValue.new vm : Except _ PrivilegedResourceId) with
  | error e =>
    simp only [runnerHealth, reject, rejectIf, if_neg hproof, hvm] at h
    cases h.result_eq rfl
  | ok vmId =>
    simp only [runnerHealth, reject, rejectIf, if_neg hproof, hvm] at h
    rcases h.of_call with ⟨-, hq, -⟩ | ⟨now, rest, s₁, s₂, rfl, -, -, h⟩
    · cases hq
    cases hclk
    cases hgrant : (SafeValue.new grant : Except _ AuthorityGrantId) with
    | error e =>
      rw [hgrant] at h
      cases h.result_eq rfl
    | ok grantId =>
      cases hkey : (SafeValue.new keyText : Except _ PrivilegedIdempotencyKey) with
      | error e =>
        rw [hgrant, hkey] at h
        cases h.result_eq rfl
      | ok key =>
        have hvm' := SafeValue.new_eq_ok hvm
        subst hvm'
        rw [hgrant, hkey] at h
        replace h : Progress gatewaySystem rely rest (healthAt vmId grantId key first) s₂ _ t := h
        cases hpay : payloadCheck vmId with
        | error e =>
          rw [healthAt_eq, hpay] at h
          cases h.result_eq rfl
        | ok u =>
          exact ⟨vmId, grantId, key, rfl, SafeValue.new_eq_ok hgrant, SafeValue.new_eq_ok hkey,
            hpay, (h.ensures (healthAt_ensures first)).1⟩

/-! ## A health query is another writer -/

/-- What a program may do among other writers: each of its calls is what they could do. -/
def writerContract : Contract gatewayInterface PrivilegedJournal where
  allowed s c := ∀ s₁ r s₂, Others s s₁ → gatewaySystem.answers s₁ c r s₂ → Others s₁ s₂
  next s c r s₂ := ∃ s₁, Others s s₁ ∧ gatewaySystem.answers s₁ c r s₂

/-- What such a program does together with the other writers is what the others could do alone. -/
lemma others_of_progress {p q : GatewayService PrivilegedGatewayResult}
    {Q : Except ApplicationError PrivilegedGatewayResult → PrivilegedJournal → Prop}
    (h : Progress gatewaySystem Others events p s q t) (hp : p.wp writerContract Q s) :
    Others s t := by
  induction h with
  | here => exact .refl
  | answer hrely hans _ ih =>
    exact (hrely.trans (hp.1 _ _ _ hrely hans)).trans (ih (hp.2 _ _ ⟨_, hrely, hans⟩))

/-- The calls that record the outcome of a dispatch. -/
def GatewayCall.isOutcome : GatewayCall → Bool
  | .completeDispatchOutcome .. => true
  | _ => false

lemma PrivilegedJournal.others_apply (s : PrivilegedJournal) (call : PrivilegedCall)
    (hcomp : ∀ operation expected attemptSequence completedAt,
      call = .completeDispatchOutcome operation expected attemptSequence completedAt →
      (s.completeDispatchOutcome operation expected attemptSequence completedAt).1 =
        .ok operation →
      ∀ current, s.operations.lookup operation.id = some current → Transition current operation) :
    Others s (s.apply call) :=
  .single ⟨call, rfl, s.apply_wrote call (fun _ _ h => h) hcomp⟩

/-- A call that records no outcome is always allowed. -/
lemma allowed_of_isOutcome {c : GatewayCall} (hc : GatewayCall.isOutcome c = false) :
    writerContract.allowed s c := by
  rintro s₁ r s₂ - hans
  cases c with
  | resolvePreparation intent | getPrivilegedOperation id =>
    obtain ⟨-, rfl⟩ := Prod.mk.inj hans
    exact .refl
  | now | generateId entity | transport vm =>
    obtain rfl : s₂ = s₁ := hans
    exact .refl
  | prepareWithPayload operation payload =>
    obtain rfl : (s₁.prepareWithPayload operation payload).2 = s₂ := congrArg Prod.snd hans
    exact s₁.others_apply (.prepareWithPayload operation payload) (fun _ _ _ _ h => by cases h)
  | beginDispatchWithAttempt operation expected attempt =>
    obtain rfl : (s₁.beginDispatchWithAttempt operation expected attempt).2 = s₂ :=
      congrArg Prod.snd hans
    exact s₁.others_apply (.beginDispatchWithAttempt operation expected attempt)
      (fun _ _ _ _ h => by cases h)
  | completeDispatchOutcome operation expected attemptSequence completedAt => cases hc

/-- The operation is stored, or was and has been moved on. -/
def PrivilegedJournal.HasReached (operation : PrivilegedOperation) (s : PrivilegedJournal) : Prop :=
  ∃ current, s.operations.lookup operation.id = some current ∧
    (current = operation ∨ operation.revision < current.revision)

/-- What the journal has reached it does not fall behind. -/
lemma PrivilegedJournal.HasReached.others (h : s.HasReached operation) (hoth : Others s t) :
    t.HasReached operation := by
  induction hoth with
  | refl => exact h
  | tail _ hcall ih =>
    obtain ⟨current, hsto, hcur⟩ := ih
    obtain ⟨next, hnext, rfl | ⟨htr, -⟩⟩ := hcall.stored hsto
    · exact ⟨next, hnext, hcur⟩
    · have hrev := htr.follows.revision_eq
      refine ⟨next, hnext, .inr ?_⟩
      rcases hcur with rfl | hlt
      · omega
      · omega

/-- The outcome of a dispatch can only be recorded while its operation is stored as dispatched. -/
lemma allowed_completeDispatchOutcome {next : PrivilegedOperation} {attemptSequence : ℕ}
    {completedAt : UnixMillis} (h : s.HasReached operation) (htr : Transition operation next) :
    writerContract.allowed s
      (.completeDispatchOutcome next operation.revision attemptSequence completedAt) := by
  intro s₁ r s₂ hoth hans
  obtain ⟨current, hsto, hcur⟩ := h.others hoth
  obtain rfl : (s₁.completeDispatchOutcome next operation.revision attemptSequence
    completedAt).2 = s₂ := congrArg Prod.snd hans
  refine s₁.others_apply
    (.completeDispatchOutcome next operation.revision attemptSequence completedAt) ?_
  rintro _ _ _ _ ⟨⟩ hacc stored hstored
  obtain ⟨-, found, hfound, -, -, -, -, -, -, hrev⟩ :=
    PrivilegedJournal.completeDispatchOutcome_eq_ok (Prod.ext hacc rfl)
  obtain rfl : stored = found := Option.mem_unique hstored hfound
  rw [htr.follows.id_eq] at hstored
  obtain rfl : stored = current := Option.mem_unique hstored hsto
  rcases hcur with rfl | hlt
  · exact htr
  · omega

section Writer

variable {α β : Type} {p : GatewayService α} {f : α → GatewayService β}
  {Q : Except ApplicationError β → PrivilegedJournal → Prop}

/-- A part of a program that records no outcome. -/
lemma wp_plain_bind (hQ : ∀ e s, Q (.error e) s)
    (hp : p.Ensures (fun c => GatewayCall.isOutcome c = false) fun _ => True)
    (hf : ∀ a s, (f a).wp writerContract Q s) : (p.bind f).wp writerContract Q s := by
  rw [wp_bind]
  refine wp_mono (hp.wp (fun _ => True) (fun _ _ _ => allowed_of_isOutcome)
    (fun _ _ _ _ _ _ _ => trivial) trivial) ?_
  rintro (e | a) s' -
  · exact hQ e s'
  · exact hf a s'

/-- A call that is allowed. -/
lemma wp_request_bind {c : GatewayCall} {f : c.Reply → GatewayService β}
    (hallowed : writerContract.allowed s c)
    (hf : ∀ r s₁ s₂, Others s s₁ → gatewaySystem.answers s₁ c r s₂ →
      (f r).wp writerContract Q s₂) : ((request c).bind f).wp writerContract Q s :=
  ⟨hallowed, fun r s₂ ⟨s₁, hoth, hans⟩ => hf r s₁ s₂ hoth hans⟩

end Writer

omit [Sha256Library] in
/-- An accepted dispatch is stored. -/
lemma PrivilegedJournal.beginDispatchWithAttempt_hasReached {expected : ℕ}
    {attempt : PrivilegedDispatchAttempt} {res : PrivilegedOperation}
    (h : s.beginDispatchWithAttempt operation expected attempt = (.ok res, t)) :
    t.HasReached res := by
  unfold PrivilegedJournal.beginDispatchWithAttempt at h
  split at h
  · cases (Prod.mk.inj h).1
  · split at h
    · cases (Prod.mk.inj h).1
    · obtain ⟨hres, rfl⟩ := Prod.mk.inj h
      obtain rfl := Except.ok.inj hres
      exact ⟨_, lookup_insert_self .., .inl rfl⟩

/-- A dispatch that begins is stored. -/
lemma beginDispatch_wp (input : BeginPrivilegedDispatch) (s : PrivilegedJournal) :
    (beginDispatch input).wp writerContract
      (fun r s => ∀ operation, r = .ok operation → s.HasReached operation) s := by
  simp only [beginDispatch, bind_eq]
  iterate 10
    refine wp_plain_bind (fun _ _ _ h => by cases h)
      (by simp [reject, request, fromStore, check, GatewayCall.isOutcome]) fun _ s => ?_
  refine wp_request_bind (allowed_of_isOutcome rfl) fun r s₁ s₂ _ hans => ?_
  simp only [fromStore, wp_liftExcept, mapError_eq_ok]
  rintro operation rfl
  exact PrivilegedJournal.beginDispatchWithAttempt_hasReached hans

/-- Recording the outcome of a dispatch by a method of the operation. -/
lemma wp_recordOutcome {α : Type} {invalid : PrivilegedOperationError → ApplicationError}
    {move : UnixMillis → Except PrivilegedOperationError PrivilegedOperation}
    {f : PrivilegedOperation → GatewayService α} (h : s.HasReached operation)
    (hmove : ∀ now next, move now = .ok next → Transition operation next)
    (hf : ∀ stored s, (f stored).wp writerContract (fun _ _ => True) s) :
    ((request .now).bind fun now => (check invalid (move now)).bind fun next =>
      (request .now).bind fun completedAt =>
        (request (.completeDispatchOutcome next operation.revision operation.attemptCount
          completedAt)).bind fun reply => (fromStore reply).bind f).wp
      writerContract (fun _ _ => True) s := by
  refine wp_request_bind (allowed_of_isOutcome rfl) fun now s₁ _ hoth hans => ?_
  obtain rfl : _ = s₁ := hans
  rw [wp_bind, check, wp_liftExcept]
  cases hnext : move now with
  | error e => trivial
  | ok next =>
    refine wp_request_bind (allowed_of_isOutcome rfl) fun completedAt s₂ _ hoth' hans => ?_
    obtain rfl : _ = s₂ := hans
    refine wp_request_bind (allowed_completeDispatchOutcome ((h.others hoth).others hoth')
      (hmove now next hnext)) fun reply _ s₃ _ _ => ?_
    rw [wp_bind, fromStore, wp_liftExcept]
    cases reply with
    | error e => trivial
    | ok stored => exact hf stored s₃

/-- The dispatch of a health query is another writer. -/
lemma dispatchHealth_wp (vm : String) (operation : PrivilegedOperation) (s : PrivilegedJournal) :
    (dispatchHealth vm operation).wp writerContract (fun _ _ => True) s := by
  simp only [dispatchHealth, bind_eq]
  -- The checks of the transport identity are not to be evaluated.
  generalize healthDispatch vm operation = input
  rw [wp_bind]
  refine wp_mono (beginDispatch_wp input s) ?_
  rintro (e | dispatching) s₁ hreached
  · trivial
  refine wp_request_bind (allowed_of_isOutcome rfl) fun reply s₂ _ hoth hans => ?_
  obtain rfl : _ = s₂ := hans
  have hstored := (hreached dispatching rfl).others hoth
  split
  · exact wp_recordOutcome hstored (fun now _ h => .succeed now h) fun _ _ => trivial
  · exact wp_recordOutcome hstored (fun now _ h => .interrupt now h) fun _ _ => trivial
  · exact wp_recordOutcome hstored (fun now _ h => .fail now h) fun _ _ => trivial

/-- Whatever a health query does to the journal, other writers could do. -/
theorem runnerHealth_others {q : GatewayService PrivilegedGatewayResult}
    (h : Progress gatewaySystem Others events (runnerHealth grant keyText vm proof) s q t) :
    Others s t := by
  refine others_of_progress (Q := fun _ _ => True) h ?_
  simp only [runnerHealth, bind_eq]
  iterate 5
    refine wp_plain_bind (fun _ _ => trivial)
      (by simp [reject, request, check, GatewayCall.isOutcome]) fun _ s => ?_
  refine wp_plain_bind (fun _ _ => trivial) ?_ fun preparation s => ?_
  · simp only [prepare, request, fromStore, check, bind_eq, ensures_bind, ensures_liftExcept,
      ensures_call, ensures_done, GatewayCall.isOutcome, true_and]
    intros
    split <;> simp
  · by_cases hcreated : preparation.created = true
    · simp only [hcreated, Bool.not_true, Bool.false_eq_true, if_false, dispatchHealth_wp]
    · simp [hcreated]

/-- A health query started in the journal `s`, whose clock reading is `now`, is answered from the
operation `id`: it makes no transport call, and its second answer ends it with the recorded
outcome of that operation. -/
def Replays (grant key vm proof : String) (id : PrivilegedOperationId) (now : UnixMillis)
    (s : PrivilegedJournal) : Prop :=
  ∀ events q t, Progress gatewaySystem Others events (runnerHealth grant key vm proof) s q t →
    events.head? = some ⟨.now, now⟩ →
      (∀ event ∈ events, ∀ target, event.1 ≠ GatewayCall.transport target) ∧
      (2 ≤ events.length → ∃ operation, t.operations.lookup id = some operation ∧
        q.result? = some (replay operation))

variable {id : PrivilegedOperationId}

/-- What the journal answers to a health query whose operation is recorded. -/
theorem PrivilegedJournal.Recorded.resolve {recorded : UnixMillis} {s : PrivilegedJournal}
    (h : Recorded (healthIntent vmId grantId key recorded) id s) (expires : UnixMillis) :
    ∃ operation, s.operations.lookup id = some operation ∧
      s.resolvePreparation (healthIntent vmId grantId key expires) =
        if healthIntent vmId grantId key recorded = healthIntent vmId grantId key expires then
          .ok (some operation)
        else .error .conflict := by
  refine h.resolvePreparation ?_
  rw [privilegedOperationKey_healthIntent, privilegedOperationKey_healthIntent]

/-- A health query over a recorded operation with valid arguments is answered from it exactly when
the intent is the recorded one. -/
lemma replays_iff {recorded now : UnixMillis}
    {s : PrivilegedJournal} (hproof : 32 ≤ proof.utf8ByteSize)
    (hpay : payloadCheck vmId = .ok ())
    (h : Recorded (healthIntent vmId grantId key recorded) id s) :
    Replays grantId.value key.value vmId.value proof id now s ↔ recorded = healthExpiry now := by
  rw [Replays, runnerHealth_eq hproof]
  constructor
  · intro hrepl
    by_contra hne
    have hoth : healthIntent vmId grantId key recorded ≠
        healthIntent vmId grantId key (healthExpiry now) := fun hsame =>
      hne (by simpa [healthIntent] using hsame)
    obtain ⟨operation, hsto, hrsv⟩ := h.resolve (healthExpiry now)
    rw [if_neg hoth] at hrsv
    have hprog : Progress gatewaySystem Others [⟨.now, now⟩,
        ⟨.resolvePreparation (healthIntent vmId grantId key (healthExpiry now)), .error .conflict⟩]
        (.call GatewayCall.now fun now => healthAt vmId grantId key now) s
        (.fail .conflict : GatewayService PrivilegedGatewayResult) s := by
      refine .answer .refl rfl ?_
      rw [healthAt_eq, hpay]
      exact .answer .refl (congrArg (fun reply => (reply, s)) hrsv) (.here _ _)
    obtain ⟨-, hend⟩ := hrepl _ _ _ hprog rfl
    obtain ⟨operation, -, hres⟩ := hend le_rfl
    exact replay_ne_conflict operation (Option.some.inj hres).symm
  · intro hsame events q t hprog hclk
    rcases hprog.of_call with ⟨rfl, -, -⟩ | ⟨reading, rest, s₁, s₂, rfl, hothers, hs₂, hrest⟩
    · cases hclk
    cases hclk
    obtain rfl : s₂ = s₁ := hs₂
    rw [healthAt_eq, hpay] at hrest
    rcases Progress.of_call hrest with ⟨rfl, -, -⟩ | ⟨reply, rest, s₃, s₄, rfl, hoth', hs₄, hrest⟩
    · exact ⟨by simp, by simp⟩
    have hrec := (h.others hothers).others hoth'
    obtain ⟨operation, hsto, hrsv⟩ := hrec.resolve (healthExpiry now)
    rw [if_pos (by rw [hsame])] at hrsv
    obtain ⟨hrep, rfl⟩ := Prod.mk.inj hs₄
    rw [hrsv] at hrep
    subst hrep
    obtain ⟨rfl, rfl, rfl⟩ := hrest.of_result (result?_liftExcept _)
    refine ⟨by simp, fun _ => ⟨operation, hsto, result?_liftExcept _⟩⟩

/-- When a health query has recorded its operation, a later one with the same arguments is answered
from the record, without another transport call, exactly when both compute the same expiry. -/
theorem runner_health_replays_iff_same_expiry {first second : UnixMillis}
    {events : List (Event gatewayInterface)} {s₀ s₁ s₂ s₃ s₄ : PrivilegedJournal}
    {operation : PrivilegedOperation} {payload : List UInt8}
    {k : Except StoreError PrivilegedPreparation → GatewayService PrivilegedGatewayResult}
    {preparation : PrivilegedPreparation}
    (hcall : Progress gatewaySystem Others events (runnerHealth grant keyText vm proof) s₀
      (.call (.prepareWithPayload operation payload) k) s₁)
    (hclock : events.head? = some ⟨.now, first⟩)
    (hprepare : gatewaySystem.answers s₂ (.prepareWithPayload operation payload) (.ok preparation)
      s₃)
    (hcreated : preparation.created = true) (hlater : Others s₃ s₄) :
    Replays grant keyText vm proof preparation.operation.id second s₄ ↔
      healthExpiry first = healthExpiry second := by
  obtain ⟨hproof, vmId, grantId, key, rfl, rfl, rfl, hpay, hintent⟩ :=
    runnerHealth_reaches hcall hclock
  obtain ⟨rfl, hrec⟩ := PrivilegedJournal.prepareWithPayload_created hprepare hcreated
  rw [hintent] at hrec
  exact replays_iff hproof hpay (hrec.others hlater)

end

namespace RepeatedHealth

/-- A digest of no interest. -/
local instance sha256 : Sha256Library := ⟨fun _ => 0⟩

def vmId : PrivilegedResourceId := ⟨"repeated-vm", by decide⟩

def grantId : AuthorityGrantId := ⟨"repeated-authority-grant", by decide⟩

def key : PrivilegedIdempotencyKey := ⟨"repeated-idempotency-key", by decide⟩

def proof : String := "repeated-proof-of-possession-token"

def operationId : PrivilegedOperationId := ⟨"repeated-operation", by decide⟩

/-- The operation of a health query made at 1000. -/
def operation : PrivilegedOperation where
  toPrivilegedOperationIntent := healthIntent vmId grantId key (healthExpiry 1000)
  id := operationId
  state := .prepared
  review := none
  attemptCount := 0
  revision := 0
  createdAt := 1000
  updatedAt := 1000

/-- The journal in which the query has recorded its operation. -/
def journal : PrivilegedJournal :=
  (PrivilegedJournal.prepareWithPayload {} operation (healthPayload vmId.value)).2

/-- The part of the query after its preparation was answered. -/
def afterPrepare (reply : Except StoreError PrivilegedPreparation) :
    GatewayService PrivilegedGatewayResult :=
  (fromStore reply).bind fun preparation =>
    if !preparation.created then Program.liftExcept (replay preparation.operation)
    else dispatchHealth vmId.value preparation.operation

/-- The answers of the query up to its preparation. -/
def answers : List (Event gatewayInterface) :=
  [⟨.now, (1000 : ℕ)⟩,
    ⟨.resolvePreparation (healthIntent vmId grantId key (healthExpiry 1000)), .ok none⟩,
    ⟨.generateId "privileged-operation", operationId.value⟩, ⟨.now, (1000 : ℕ)⟩]

lemma payload_accepted : payloadCheck vmId = .ok () := by decide +kernel

lemma prepare_answered : PrivilegedJournal.prepareWithPayload {} operation
    (healthPayload vmId.value) = (.ok ⟨operation, true⟩, journal) := by
  refine Prod.ext ?_ rfl
  decide +kernel

/-- The query made at 1000 comes to its preparation. -/
theorem progress : Progress gatewaySystem Others answers
    (runnerHealth grantId.value key.value vmId.value proof) {}
    (.call (.prepareWithPayload operation (healthPayload vmId.value)) afterPrepare) {} := by
  rw [runnerHealth_eq (by decide)]
  refine .answer .refl rfl ?_
  rw [healthAt_eq, payload_accepted]
  refine .answer .refl rfl ?_
  refine .answer .refl rfl ?_
  refine .answer .refl rfl ?_
  exact .here _ _

/-- Another query in the same millisecond is answered from the record. -/
theorem replayed : Replays grantId.value key.value vmId.value proof operation.id 1000 journal :=
  (runner_health_replays_iff_same_expiry progress rfl prepare_answered rfl .refl).2 rfl

/-- The query made at 1000 records its operation, and another query one millisecond later is not
answered from the record. -/
theorem later_query_conflicts :
    Progress gatewaySystem Others answers
      (runnerHealth grantId.value key.value vmId.value proof) {}
      (.call (.prepareWithPayload operation (healthPayload vmId.value)) afterPrepare) {} ∧
    gatewaySystem.answers {} (.prepareWithPayload operation (healthPayload vmId.value))
      (.ok ⟨operation, true⟩) journal ∧
    ¬ Replays grantId.value key.value vmId.value proof operation.id 1001 journal := by
  have hrec := (PrivilegedJournal.prepareWithPayload_created prepare_answered rfl).2
  refine ⟨progress, prepare_answered, ?_⟩
  rw [replays_iff (by decide) payload_accepted hrec]
  decide

end RepeatedHealth

end GrokDesktop
