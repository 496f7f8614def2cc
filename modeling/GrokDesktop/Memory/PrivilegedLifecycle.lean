import Mathlib.Data.List.Induction
import GrokDesktop.Memory.PrivilegedJournal

/-!
# How stored privileged operations move

Every call on the journal leaves the operations alone or writes one of them: a new prepared
operation, a dispatch, or the outcome of a dispatch. The outcome given to
`completeDispatchOutcome` is not compared with the stored operation, so the store moves legally in
exactly the runs whose accepted outcomes keep the record they end.
-/

namespace GrokDesktop

open Except Table PrivilegedOperationState List

open PrivilegedOperation (Transition KeepsRecord restore_eq_ok dispatch_eq_ok interrupt_eq_ok
  moveTo_eq_ok attemptCount_of_prepared)

/-- A privileged store call. -/
inductive PrivilegedCall where
  | prepareWithPayload (operation : PrivilegedOperation) (payload : List UInt8)
  | beginDispatchWithAttempt (operation : PrivilegedOperation) (expectedRevision : ℕ)
      (attempt : PrivilegedDispatchAttempt)
  | recoverInterruptedAttempt (operation : PrivilegedOperation)
      (expectedRevision attemptSequence : ℕ) (completedAt : UnixMillis)
  | completeDispatchOutcome (operation : PrivilegedOperation)
      (expectedRevision attemptSequence : ℕ) (completedAt : UnixMillis)

namespace PrivilegedJournal

section

variable [Sha256Library]

variable (s : PrivilegedJournal)

def apply : PrivilegedCall → PrivilegedJournal
  | .prepareWithPayload operation payload => (s.prepareWithPayload operation payload).2
  | .beginDispatchWithAttempt operation expectedRevision attempt =>
      (s.beginDispatchWithAttempt operation expectedRevision attempt).2
  | .recoverInterruptedAttempt operation expectedRevision attemptSequence completedAt =>
      (s.recoverInterruptedAttempt operation expectedRevision attemptSequence completedAt).2
  | .completeDispatchOutcome operation expectedRevision attemptSequence completedAt =>
      (s.completeDispatchOutcome operation expectedRevision attemptSequence completedAt).2

/-- The journal after a sequence of calls. -/
def run (calls : List PrivilegedCall) : PrivilegedJournal :=
  calls.foldl apply s

lemma run_append (calls calls' : List PrivilegedCall) :
    s.run (calls ++ calls') = (s.run calls).run calls' :=
  foldl_append

@[simp] lemma run_concat (calls : List PrivilegedCall) (call : PrivilegedCall) :
    s.run (calls ++ [call]) = (s.run calls).apply call := by
  rw [run_append]
  rfl

end

/-! ## What a call writes -/

/-- The number of attempts recorded for an operation. -/
def attemptTotal (s : PrivilegedJournal) (id : PrivilegedOperationId) : ℕ :=
  (s.attemptsOf id).length

/-- What a call does to the operations and to the number of their attempts. `R` relates an
operation to the one that replaces it. -/
inductive Wrote (R : PrivilegedOperation → PrivilegedOperation → Prop)
    (s s' : PrivilegedJournal) : Prop
  | nothing (hops : s'.operations = s.operations)
      (hattempts : ∀ id, s'.attemptTotal id = s.attemptTotal id)
  | prepared (operation : PrivilegedOperation) (hvalid : operation.validateSnapshot = true)
      (hstate : operation.state = .prepared) (hnew : s.operations.lookup operation.id = none)
      (hops : s'.operations = s.operations.insert operation.id operation)
      (hattempts : ∀ id, s'.attemptTotal id = s.attemptTotal id)
  | replaced (current operation : PrivilegedOperation)
      (hstored : s.operations.lookup operation.id = some current)
      (hcurrent : current.validateSnapshot = true) (hvalid : operation.validateSnapshot = true)
      (hR : R current operation) (hops : s'.operations = s.operations.insert operation.id operation)
      (hattempts : ∀ id, s'.attemptTotal id = s.attemptTotal id +
        if id = operation.id ∧ operation.state = .dispatching then 1 else 0)

variable {s s' : PrivilegedJournal} {operation : PrivilegedOperation} {id : PrivilegedOperationId}

lemma validatePrivilegedOperation_eq_ok {op' : PrivilegedOperation} :
    validatePrivilegedOperation operation = .ok op' ↔
      operation.validateSnapshot = true ∧ op' = operation := by
  rw [validatePrivilegedOperation, mapError_eq_ok, restore_eq_ok]

lemma getPrivilegedOperation_eq_ok : s.getPrivilegedOperation id = .ok operation ↔
      s.operations.lookup id = some operation ∧ operation.validateSnapshot = true := by
  simp only [getPrivilegedOperation, bind_eq_ok, okOr_eq_ok, validatePrivilegedOperation_eq_ok]
  constructor
  · rintro ⟨_, hget, hval, rfl⟩
    exact ⟨hget, hval⟩
  · rintro ⟨hget, hval⟩
    exact ⟨_, hget, hval, rfl⟩

/-- Replacing the attempts of one operation. -/
lemma attemptTotal_insert {attempts : List StoredPrivilegedDispatchAttempt}
    (h : s'.operationAttempts = s.operationAttempts.insert id attempts)
    (id' : PrivilegedOperationId) :
    s'.attemptTotal id' = if id' = id then attempts.length else s.attemptTotal id' := by
  rw [attemptTotal, attemptsOf, h, lookup_insert]
  split <;> rfl

variable {completedAt : UnixMillis}

/-- Recording the outcome time keeps the number of attempts. -/
lemma completeLastAttempt_total {attemptSequence : ℕ}
    (h : s.completeLastAttempt id attemptSequence completedAt = .ok s'.operationAttempts)
    (id' : PrivilegedOperationId) : s'.attemptTotal id' = s.attemptTotal id' := by
  simp only [completeLastAttempt, bind_eq_ok, rejectIf_eq_ok, exists_const, return_eq_ok] at h
  obtain ⟨last, hlast, -, h⟩ := h
  rw [attemptTotal_insert h.symm]
  split
  · subst id'
    have hne : s.attemptsOf id ≠ [] := by
      rintro hnil
      simp [hnil] at hlast
    rw [length_append, length_dropLast, length_singleton, attemptTotal,
      Nat.sub_add_cancel (length_pos_of_ne_nil hne)]
  · rfl

variable {R : PrivilegedOperation → PrivilegedOperation → Prop}

lemma Wrote.refl (s : PrivilegedJournal) : Wrote R s s := .nothing rfl fun _ => rfl

/-- A preparation replays what is recorded under its key or records a new operation. -/
theorem prepareWithPayload_eq_ok [Sha256Library] {payload : List UInt8}
    {preparation : PrivilegedPreparation}
    (h : s.prepareWithPayload operation payload = (.ok preparation, s')) :
    (preparation.created = false ∧ s' = s) ∨
      (operation.validateSnapshot = true ∧ operation.state = .prepared ∧
        s.operationKeys.lookup (privilegedOperationKey operation.intent) = none ∧
        s.operations.lookup operation.id = none ∧ preparation = ⟨operation, true⟩ ∧
        s' = { s with
          operationKeys := s.operationKeys.insert (privilegedOperationKey operation.intent)
            operation.id
          operationPayloads := s.operationPayloads.insert operation.id payload
          operations := s.operations.insert operation.id operation }) := by
  rcases settle_cases h with ⟨_, hok, hres⟩ | ⟨_, -, herr, -⟩
  · obtain rfl := Except.ok.inj hres
    simp only [bind_eq_ok, rejectIf_eq_ok, exists_const, not_not,
      validatePrivilegedOperation_eq_ok] at hok
    obtain ⟨hsta, _, -, _, ⟨hval, rfl⟩, hok⟩ := hok
    split at hok
    · simp only [bind_eq_ok] at hok
      obtain ⟨existing, -, hok⟩ := hok
      split at hok
      · cases hok
      · obtain ⟨rfl, rfl⟩ := Prod.mk.inj (Except.ok.inj hok)
        exact .inl ⟨rfl, rfl⟩
    · rename_i hkey
      simp only [bind_eq_ok, rejectIf_eq_ok, exists_const, Bool.not_eq_true,
        contains_eq_false] at hok
      obtain ⟨hnew, hok⟩ := hok
      obtain ⟨rfl, rfl⟩ := Prod.mk.inj (Except.ok.inj hok)
      exact .inr ⟨hval, hsta, hkey, hnew, rfl, rfl⟩
  · cases herr

variable {current : PrivilegedOperation}

/-- An interruption ends the attempt. -/
lemma interrupt_isOutcome {now : UnixMillis}
    (h : current.interrupt now = .ok operation) : operation.state.isOutcome = true := by
  rcases interrupt_eq_ok.1 h with ⟨-, h⟩ | ⟨-, h⟩
  all_goals
    obtain ⟨-, -, -, rfl⟩ := moveTo_eq_ok.1 h
    rfl

/-- Ending an attempt adds none. -/
theorem Wrote.ended (hsto : s.operations.lookup operation.id = some current)
    (hcur : current.validateSnapshot = true) (hval : operation.validateSnapshot = true)
    (hout : operation.state.isOutcome = true) (hR : R current operation)
    (hops : s'.operations = s.operations.insert operation.id operation)
    (hatts : ∀ id, s'.attemptTotal id = s.attemptTotal id) : Wrote R s s' := by
  have hsta : operation.state ≠ .dispatching := by
    intro hsta
    simp [hsta, isOutcome] at hout
  exact .replaced current operation hsto hcur hval hR hops fun id => by
    simp [hsta, hatts]

/-- What an accepted outcome shows about the stored operation and itself. -/
lemma completeDispatchOutcome_eq_ok {res : PrivilegedOperation}
    {expected attemptSequence : ℕ}
    (h : s.completeDispatchOutcome operation expected attemptSequence completedAt =
      (.ok res, s')) :
    res = operation ∧ ∃ current, s.operations.lookup operation.id = some current ∧
      current.validateSnapshot = true ∧ current.state = .dispatching ∧
      operation.validateSnapshot = true ∧ operation.state.isOutcome = true ∧
      s'.operations = s.operations.insert operation.id operation ∧
      (∀ id, s'.attemptTotal id = s.attemptTotal id) ∧ current.revision = expected := by
  rcases settle_cases h with ⟨_, h, hres⟩ | ⟨_, -, h, -⟩
  · simp only [bind_eq_ok, rejectIf_eq_ok, exists_const, not_or, not_not, Bool.not_eq_false,
      validatePrivilegedOperation_eq_ok, getPrivilegedOperation_eq_ok, pair_eq_ok]
      at h
    obtain ⟨_, ⟨hval, rfl⟩, hout, current, ⟨hsto, hcur⟩, ⟨hrev, -, hdisp⟩,
      attempts, hatts, rfl, hs⟩ := h
    rw [← hs]
    exact ⟨Except.ok.inj hres, current, hsto, hcur, hdisp, hval, hout, rfl,
      completeLastAttempt_total hatts, hrev⟩
  · cases h

/-- What any call does, with what is known about accepted outcomes. -/
lemma apply_wrote [Sha256Library] (s : PrivilegedJournal) (call : PrivilegedCall)
    (htr : ∀ a b, Transition a b → R a b)
    (hcomp : ∀ operation expected attemptSequence completedAt,
      call = .completeDispatchOutcome operation expected attemptSequence completedAt →
      (s.completeDispatchOutcome operation expected attemptSequence completedAt).1 =
        .ok operation →
      ∀ current, s.operations.lookup operation.id = some current → R current operation) :
    Wrote R s (s.apply call) := by
  cases call with
  | prepareWithPayload operation payload =>
    rw [apply]
    rcases hres : s.prepareWithPayload operation payload with ⟨res, s'⟩
    rcases settle_cases hres with ⟨preparation, -, rfl⟩ | ⟨_, -, -, rfl⟩
    · rcases prepareWithPayload_eq_ok hres with ⟨-, rfl⟩ | ⟨hval, hsta, -, hnew, -, rfl⟩
      · exact .refl _
      · exact .prepared operation hval hsta hnew rfl fun _ => rfl
    · exact .refl _
  | beginDispatchWithAttempt operation expected attempt =>
    rw [apply, beginDispatchWithAttempt]
    split
    · exact .refl s
    · rename_i hcheck
      simp only [checkDispatch, bind_eq_ok, rejectIf_eq_ok, not_or, not_not,
        validatePrivilegedOperation_eq_ok, getPrivilegedOperation_eq_ok] at hcheck
      obtain ⟨operation, ⟨hval, rfl⟩, _, -, current, ⟨hsto, hcur⟩, -, hdisp, -⟩ := hcheck
      obtain ⟨-, -, -, -, -, hop⟩ := dispatch_eq_ok.1 hdisp
      have hsta : operation.state = .dispatching := by
        rw [hop]
        rfl
      split
      · refine .nothing rfl fun id => ?_
        rw [attemptTotal_insert rfl]
        split
        · subst id
          rfl
        · rfl
      · refine .replaced current operation hsto hcur hval (htr _ _ (.dispatch _ hdisp)) rfl
          fun id => ?_
        rw [attemptTotal_insert rfl]
        split
        · subst id
          simp [attemptTotal, hsta]
        · rename_i hid
          simp [hid]
  | recoverInterruptedAttempt operation expected attemptSequence completedAt =>
    rcases settle_cases (Prod.mk.eta (p := s.recoverInterruptedAttempt operation
      expected attemptSequence completedAt)).symm with ⟨_, h, -⟩ | ⟨_, -, -, h⟩
    · simp only [bind_eq_ok, rejectIf_eq_ok, exists_const, not_or, not_not,
        validatePrivilegedOperation_eq_ok, getPrivilegedOperation_eq_ok, pair_eq_ok]
        at h
      obtain ⟨_, ⟨hval, rfl⟩, current, ⟨hsto, hcur⟩, ⟨-, -, hint⟩, attempts,
        hattempts, rfl, hs⟩ := h
      rw [apply, ← hs]
      exact .ended hsto hcur hval (interrupt_isOutcome hint)
        (htr _ _ (.interrupt _ hint)) rfl (completeLastAttempt_total hattempts)
    · rw [apply, h]
      exact .refl s
  | completeDispatchOutcome operation expected attemptSequence completedAt =>
    rcases settle_cases (Prod.mk.eta (p := s.completeDispatchOutcome operation
      expected attemptSequence completedAt)).symm with ⟨res, -, hres⟩ | ⟨_, -, -, h⟩
    · obtain ⟨rfl, current, hsto, hcur, -, hval, hout, hops, hatts, -⟩ :=
        completeDispatchOutcome_eq_ok (Prod.ext hres rfl)
      exact .ended hsto hcur hval hout (hcomp _ _ _ _ rfl hres current hsto) hops hatts
    · rw [apply, h]
      exact .refl s

/-- A recorded key keeps its operation. -/
theorem apply_keys [Sha256Library] (s : PrivilegedJournal) (call : PrivilegedCall) :
    s.operationKeys.Extends (s.apply call).operationKeys := by
  have hset : ∀ {α : Type} {outcome : Except StoreError (α × PrivilegedJournal)},
      (∀ a s', outcome = .ok (a, s') → s'.operationKeys = s.operationKeys) →
      (Except.settle s outcome).2.operationKeys = s.operationKeys := by
    intro α outcome h
    rcases settle_cases (Prod.mk.eta (p := Except.settle s outcome)).symm with
      ⟨a, hok, -⟩ | ⟨_, -, -, herr⟩
    · exact h a _ hok
    · rw [herr]
  cases call with
  | prepareWithPayload operation payload =>
    rcases hres : s.prepareWithPayload operation payload with ⟨res, s'⟩
    rw [apply, hres]
    cases res with
    | ok preparation =>
      rcases prepareWithPayload_eq_ok hres with ⟨-, rfl⟩ | ⟨-, -, hkey, -, -, rfl⟩
      · exact .refl _
      · exact .insert _ hkey
    | error e =>
      rcases settle_cases hres with ⟨_, -, h⟩ | ⟨_, -, -, rfl⟩
      · cases h
      · exact .refl _
  | beginDispatchWithAttempt operation expected attempt =>
    rw [apply, beginDispatchWithAttempt]
    split
    · exact .refl _
    · split
      · exact .refl _
      · exact .refl _
  | recoverInterruptedAttempt operation expected attemptSequence completedAt =>
    rw [apply, recoverInterruptedAttempt, hset]
    intro a s' h
    simp only [bind_eq_ok] at h
    obtain ⟨_, -, _, -, _, -, _, -, -, rfl⟩ := h
    rfl
  | completeDispatchOutcome operation expected attemptSequence completedAt =>
    rw [apply, completeDispatchOutcome, hset]
    intro a s' h
    simp only [bind_eq_ok] at h
    obtain ⟨_, -, _, -, _, -, _, -, _, -, -, rfl⟩ := h
    rfl

/-! ## Every run -/

/-- Stored operations stand under their own identifier and are accepted snapshots. -/
structure Stored (s : PrivilegedJournal) : Prop where
  keyed : ∀ id operation, s.operations.lookup id = some operation → operation.id = id
  valid : ∀ id operation, s.operations.lookup id = some operation →
    operation.validateSnapshot = true

/-- Storing an accepted operation under its identifier. -/
theorem Stored.insert (h : Stored s) (hval : operation.validateSnapshot = true)
    (hops : s'.operations = s.operations.insert operation.id operation) : Stored s' := by
  constructor
  · intro id stored hsto
    rw [hops] at hsto
    rcases lookup_insert_cases hsto with hold | ⟨rfl, rfl⟩
    · exact h.keyed id stored hold
    · rfl
  · intro id stored hsto
    rw [hops] at hsto
    rcases lookup_insert_cases hsto with hold | ⟨-, rfl⟩
    · exact h.valid id stored hold
    · exact hval

/-- A write keeps stored operations keyed and valid. -/
lemma Wrote.stored (hwrote : Wrote R s s') (h : Stored s) :
    Stored s' := by
  cases hwrote with
  | nothing hops _ =>
    exact ⟨fun id operation => by rw [hops]; exact h.keyed id operation,
      fun id operation => by rw [hops]; exact h.valid id operation⟩
  | prepared operation hval _ _ hops _
  | replaced current operation _ _ hval _ hops _ => exact h.insert hval hops

/-- Every reachable journal has such operations only. -/
lemma stored_run [Sha256Library] (calls : List PrivilegedCall) : Stored (run {} calls) := by
  induction calls using reverseRecOn with
  | nil => exact ⟨fun _ _ h => by simp [run] at h, fun _ _ h => by simp [run] at h⟩
  | append_singleton calls call ih =>
    rw [run_concat]
    have hwrote : Wrote (fun _ _ => True) (run {} calls) ((run {} calls).apply call) :=
      apply_wrote _ _ (fun _ _ _ => trivial) fun _ _ _ _ _ _ _ _ => trivial
    exact hwrote.stored ih

/-! ## Legal runs -/

/-- One legal step: stored operations keep their intent and change only by their own methods, and
the recorded attempts are as many as the operation counts. -/
structure LegalStep (s s' : PrivilegedJournal) : Prop where
  kept : ∀ id operation, s.operations.lookup id = some operation →
    ∃ next, s'.operations.lookup id = some next ∧ next.intent = operation.intent ∧
      (next = operation ∨ Transition operation next)
  counted : ∀ id operation, s'.operations.lookup id = some operation →
    s'.attemptTotal id = operation.attemptCount

/-- Whether the stored operation is dispatching. -/
def isDispatching (s : PrivilegedJournal) (id : PrivilegedOperationId) : Bool :=
  (s.operations.lookup id).any fun operation => operation.state = .dispatching

/-- Whether a step takes the stored operation into dispatching. -/
def enters (s s' : PrivilegedJournal) (id : PrivilegedOperationId) : Bool :=
  !s.isDispatching id && s'.isDispatching id

/-- How often a run takes an operation into dispatching. -/
def entries [Sha256Library] (id : PrivilegedOperationId) :
    PrivilegedJournal → List PrivilegedCall → ℕ
  | _, [] => 0
  | s, call :: calls => (enters s (s.apply call) id).toNat + entries id (s.apply call) calls

/-- A run from the empty journal whose steps are legal and that dispatches an operation that is not
idempotent at most once. -/
structure LegalRun [Sha256Library] (calls : List PrivilegedCall) : Prop where
  step : ∀ before call rest, calls = before ++ call :: rest →
    LegalStep (run {} before) ((run {} before).apply call)
  once : ∀ id operation, (run {} calls).operations.lookup id = some operation →
    operation.retryClass = .nonIdempotent → entries id {} calls ≤ 1

/-- Every accepted outcome of the run keeps the intent, the attempts and the creation time of the
stored operation and does not move its clock backwards. -/
def OutcomesKeepRecord [Sha256Library] (calls : List PrivilegedCall) : Prop :=
  ∀ before operation expectedRevision attemptSequence completedAt rest,
    calls = before ++ .completeDispatchOutcome operation expectedRevision attemptSequence
      completedAt :: rest →
    ((run {} before).completeDispatchOutcome operation expectedRevision attemptSequence
      completedAt).1 = .ok operation →
    ∀ current, (run {} before).operations.lookup operation.id = some current →
      KeepsRecord current operation

/-- The attempts that the stored operation counts. -/
def attemptCountOf (s : PrivilegedJournal) (id : PrivilegedOperationId) : ℕ :=
  (s.operations.lookup id).elim 0 PrivilegedOperation.attemptCount

lemma attemptCountOf_of_lookup (h : s.operations.lookup id = some operation) :
    s.attemptCountOf id = operation.attemptCount := by
  rw [attemptCountOf, h]
  rfl

/-- A legal write counts the attempts it records, and it counts one exactly when it takes the
operation into dispatching. -/
lemma Wrote.attemptCountOf (h : Wrote Transition s s') (id : PrivilegedOperationId) :
    s'.attemptCountOf id = s.attemptCountOf id + (enters s s' id).toNat ∧
      s'.attemptTotal id + s.attemptCountOf id = s.attemptTotal id + s'.attemptCountOf id := by
  cases h with
  | nothing hops hatts =>
    simp [PrivilegedJournal.attemptCountOf, enters, isDispatching, hops, hatts]
  | prepared operation hval hsta hnew hops hatts =>
    have hcnt := attemptCount_of_prepared hval hsta
    simp only [PrivilegedJournal.attemptCountOf, enters, isDispatching, hops, hatts, lookup_insert]
    split
    · subst id
      simp [hnew, hcnt, hsta]
    · simp
  | replaced current operation hsto hcur hval htr hops hatts =>
    have hfol := htr.follows
    simp only [PrivilegedJournal.attemptCountOf, enters, isDispatching, hops, hatts, lookup_insert]
    split
    · subst id
      have hcnt := hfol.attemptCount_eq
      by_cases hsta : operation.state = .dispatching
      · have hbef : current.state ≠ .dispatching := by
          intro hbef
          have hperm := hfol.permits
          simp [hbef, hsta, permits] at hperm
        simp [hsto, hsta, hbef, hcnt]
        omega
      · simp [hsto, hsta, hcnt]
    · rename_i hid
      simp [hid]

/-- A legal write keeps every operation that is not idempotent at one attempt: it dispatches only
from the prepared state, because such an operation never waits for a retry. -/
lemma Wrote.atMostOne (h : Wrote Transition s s')
    (hs : ∀ id operation, s.operations.lookup id = some operation →
      operation.retryClass = .nonIdempotent → operation.attemptCount ≤ 1) :
    ∀ id operation, s'.operations.lookup id = some operation →
      operation.retryClass = .nonIdempotent → operation.attemptCount ≤ 1 := by
  intro id stored hget hclass
  cases h with
  | nothing hops _ =>
    rw [hops] at hget
    exact hs id stored hget hclass
  | prepared operation hval hsta _ hops _ =>
    rw [hops] at hget
    rcases lookup_insert_cases hget with hold | ⟨-, rfl⟩
    · exact hs id stored hold hclass
    · rw [attemptCount_of_prepared hval hsta]
      exact Nat.zero_le 1
  | replaced current operation hsto hcur _ htr hops _ =>
    rw [hops] at hget
    rcases lookup_insert_cases hget with hold | ⟨-, rfl⟩
    · exact hs id stored hold hclass
    · have hfol := htr.follows
      have hclass' : current.retryClass = .nonIdempotent := by
        rw [← hclass]
        exact congrArg (fun intent => intent.kind.retryClass) hfol.intent_eq.symm
      have hbef := hs _ current hsto hclass'
      have hcnt := hfol.attemptCount_eq
      have hperm := hfol.permits
      by_cases hsta : stored.state = .dispatching
      · rw [hsta] at hperm
        rw [if_pos hsta] at hcnt
        cases hfrom : current.state with
        | prepared =>
          have hzero := attemptCount_of_prepared hcur hfrom
          omega
        | retryPending =>
          have hsafe := (PrivilegedOperation.revision_of_outcome hcur (by rw [hfrom]; rfl)).2.2.1
          rw [hsafe hfrom] at hclass'
          cases hclass'
        | dispatching | succeeded | failed | interruptedNeedsReview | reviewed | cancelled =>
          simp [hfrom, permits] at hperm
      · rw [if_neg hsta] at hcnt
        omega

/-- A write by a method is a legal step. -/
lemma Wrote.legalStep (h : Wrote Transition s s')
    (hcnt : ∀ id, s'.attemptTotal id = s'.attemptCountOf id) : LegalStep s s' := by
  refine ⟨?_, fun id operation hget => (hcnt id).trans (attemptCountOf_of_lookup hget)⟩
  intro id operation hget
  cases h with
  | nothing hops _ => exact ⟨operation, by rw [hops, hget], rfl, .inl rfl⟩
  | prepared new _ _ hnew hops _ =>
    exact ⟨operation, by rw [hops]; exact lookup_insert_of_new hnew hget, rfl, .inl rfl⟩
  | replaced current next hsto _ _ htr hops _ =>
    rw [hops]
    by_cases hid : id = next.id
    · subst hid
      obtain rfl : current = operation := Option.mem_unique hsto hget
      exact ⟨next, lookup_insert_self .., htr.follows.intent_eq, .inr htr⟩
    · exact ⟨operation, by rw [lookup_insert_of_ne _ _ hid, hget], rfl, .inl rfl⟩

section

variable [Sha256Library]

/-- The dispatches of a longer run. -/
lemma entries_append (id : PrivilegedOperationId) (s : PrivilegedJournal)
    (calls : List PrivilegedCall) (call : PrivilegedCall) :
    entries id s (calls ++ [call]) =
      entries id s calls + (enters (s.run calls) ((s.run calls).apply call) id).toNat := by
  induction calls generalizing s with
  | nil => simp [entries, run]
  | cons first calls ih =>
    rw [cons_append, entries, ih]
    exact (Nat.add_assoc ..).symm

/-- The steps of a run whose outcomes keep the record are legal writes. -/
lemma OutcomesKeepRecord.wrote {calls before rest : List PrivilegedCall} {call : PrivilegedCall}
    (h : OutcomesKeepRecord calls) (hcalls : calls = before ++ call :: rest) :
    Wrote Transition (run {} before) ((run {} before).apply call) := by
  refine apply_wrote _ _ (fun _ _ htr => htr) ?_
  rintro operation expected attemptSequence completedAt rfl hacc current hsto
  obtain ⟨-, current', hsto', hcur, hdisp, hval, hout, -⟩ :=
    completeDispatchOutcome_eq_ok (Prod.ext hacc rfl)
  obtain rfl : current = current' := Option.mem_unique hsto hsto'
  have hid := (stored_run before).keyed _ _ hsto
  exact (PrivilegedOperation.transition_iff_keepsRecord hcur hdisp hval hout
    hid.symm).2 (h before _ _ _ _ rest hcalls hacc current hsto)

/-- In a run whose outcomes keep the record, the recorded attempts, the attempts that an operation
counts and its entries into dispatching are as many, and at most one for an operation that is not
idempotent. -/
lemma OutcomesKeepRecord.counts {calls : List PrivilegedCall} (h : OutcomesKeepRecord calls) :
    (∀ id, (run {} calls).attemptTotal id = (run {} calls).attemptCountOf id ∧
      entries id {} calls = (run {} calls).attemptCountOf id) ∧
    ∀ id operation, (run {} calls).operations.lookup id = some operation →
      operation.retryClass = .nonIdempotent → operation.attemptCount ≤ 1 := by
  induction calls using reverseRecOn with
  | nil => exact ⟨fun id => ⟨rfl, rfl⟩, fun _ _ hget => by simp [run] at hget⟩
  | append_singleton calls call ih =>
    have hbef : OutcomesKeepRecord calls := by
      intro before operation expected attemptSequence completedAt rest hcalls
      refine h before operation expected attemptSequence completedAt (rest ++ [call]) ?_
      rw [hcalls, append_assoc, cons_append]
    obtain ⟨hcoun, hone⟩ := ih hbef
    have hwrote : Wrote Transition (run {} calls) ((run {} calls).apply call) :=
      h.wrote (rfl : calls ++ [call] = calls ++ call :: [])
    rw [run_concat]
    refine ⟨fun id => ?_, hwrote.atMostOne hone⟩
    obtain ⟨hent, htotal⟩ := hwrote.attemptCountOf id
    obtain ⟨htotal', hents⟩ := hcoun id
    rw [entries_append]
    omega

/-- A run of the journal is legal exactly when each outcome that it accepts keeps the record of the
dispatch it ends. -/
theorem legal_run_iff_outcomes_keep_record (calls : List PrivilegedCall) :
    LegalRun calls ↔ OutcomesKeepRecord calls := by
  constructor
  · intro h before operation expectedRevision attemptSequence completedAt rest hcalls haccepted
      current hstored
    obtain ⟨-, current', hstored', hcurrent, hdispatching, hvalid, houtcome, hops, -⟩ :=
      completeDispatchOutcome_eq_ok (Prod.ext haccepted rfl)
    obtain rfl : current = current' := Option.mem_unique hstored hstored'
    have hid := (stored_run before).keyed _ _ hstored
    obtain ⟨next, hnext, -, hchange⟩ := (h.step before _ rest hcalls).kept _ _ hstored
    have hafter : ((run {} before).apply (.completeDispatchOutcome operation expectedRevision
        attemptSequence completedAt)).operations.lookup operation.id = some operation := by
      rw [apply, hops, lookup_insert_self]
    obtain rfl : operation = next := Option.mem_unique hafter hnext
    rcases hchange with rfl | htransition
    · simp [hdispatching, isOutcome] at houtcome
    · exact (PrivilegedOperation.transition_iff_keepsRecord hcurrent hdispatching hvalid houtcome
        hid.symm).1 htransition
  · intro h
    refine ⟨fun before call rest hcalls => ?_, fun id operation hlookup hclass => ?_⟩
    · have hpre : OutcomesKeepRecord (before ++ [call]) := by
        intro before' operation expectedRevision attemptSequence completedAt rest' hsplit
        refine h before' operation expectedRevision attemptSequence completedAt (rest' ++ rest) ?_
        rw [hcalls, ← singleton_append, ← append_assoc, hsplit, append_assoc, cons_append]
      refine (h.wrote hcalls).legalStep fun id => ?_
      rw [← run_concat]
      exact (hpre.counts.1 id).1
    · obtain ⟨hcounts, hone⟩ := h.counts
      rw [(hcounts id).2, attemptCountOf_of_lookup hlookup]
      exact hone id operation hlookup hclass

end

end PrivilegedJournal

namespace SwappedIntent

/-- A digest of no interest. -/
local instance sha256 : Sha256Library := ⟨fun _ => 0⟩

def authority (expiresAt : UnixMillis) : PrivilegedAuthority :=
  ⟨⟨"swapped-authority-grant", by decide⟩, expiresAt⟩

/-- A health query that is prepared at 100. -/
def prepared : PrivilegedOperation where
  kind := .runnerHealth
  target := .runner ⟨"swapped-vm", by decide⟩
  payloadDigest := 0
  authority := authority 1000
  idempotency := ⟨⟨"swapped-idempotency-key", by decide⟩, 0⟩
  links := {}
  id := ⟨"swapped-operation", by decide⟩
  state := .prepared
  review := none
  attemptCount := 0
  revision := 0
  createdAt := 100
  updatedAt := 100

/-- The query dispatched at 200. -/
def dispatching : PrivilegedOperation :=
  { prepared with state := .dispatching, attemptCount := 1, revision := 1, updatedAt := 200 }

/-- The query succeeded at 300, with an authority that expires later than the recorded one. -/
def succeeded : PrivilegedOperation :=
  { dispatching with
    authority := authority 5000
    state := .succeeded
    revision := 2
    updatedAt := 300 }

def attempt : PrivilegedDispatchAttempt where
  sequence := 1
  transportOperationId := "swapped-transport-0001"
  wireDigest := 0
  brokerBootId := 1
  guestBootId := 2
  startedAt := 200
  deadlineUnixMs := 5200

def dispatch : List PrivilegedCall :=
  [.prepareWithPayload prepared [0, 0], .beginDispatchWithAttempt dispatching 0 attempt]

def completion : PrivilegedCall := .completeDispatchOutcome succeeded 1 1 300

/-- The outcome of the query replaces its recorded authority, so the run is not legal. -/
theorem run_not_legal : ¬ PrivilegedJournal.LegalRun (dispatch ++ [completion]) := by
  intro h
  obtain ⟨next, hnext, hintent, -⟩ := (h.step dispatch completion [] rfl).kept prepared.id
    dispatching (by decide +kernel)
  obtain rfl : succeeded = next := Option.mem_unique (by decide +kernel) hnext
  have hexpires : (5000 : ℕ) = 1000 :=
    congrArg (fun intent => intent.authority.expiresAt) hintent
  cases hexpires

end SwappedIntent

end GrokDesktop
