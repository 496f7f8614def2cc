import Mathlib.Logic.Basic

/-!
# Programs that call an environment

A `Program` is a sequential computation that may call its environment: it is finished, failed, or
waiting for the reply to one call. Calls are the only points at which other computations can run,
so an asynchronous service is a set of programs.

What one program does is stated with `Program.wp`, the weakest precondition of the program under a
`Contract` that says which calls are allowed and how a ghost state follows the replies.
-/

namespace Resumption

/-- The calls a program may make and the type of the reply to each. -/
structure Interface where
  /-- The calls. -/
  Call : Type
  /-- The replies a call can get. -/
  Reply : Call → Type

/-- A sequential computation that calls its environment. -/
inductive Program (I : Interface) (ε α : Type) where
  /-- Finished with a result. -/
  | done (a : α)
  /-- Finished with an error. -/
  | fail (e : ε)
  /-- Waiting for the reply to a call. -/
  | call (c : I.Call) (k : I.Reply c → Program I ε α)

/-- A call together with the reply it got. -/
abbrev Event (I : Interface) : Type := (c : I.Call) × I.Reply c

namespace Program

variable {I : Interface} {ε α β : Type}

/-- Sequencing: an error of the first program skips the second. -/
def bind : Program I ε α → (α → Program I ε β) → Program I ε β
  | done a, f => f a
  | fail e, _ => fail e
  | call c k, f => call c fun r => (k r).bind f

instance : Monad (Program I ε) where
  pure := done
  bind := bind

/-- Runs the handler when the program fails. -/
def handle : Program I ε α → (ε → Program I ε α) → Program I ε α
  | done a, _ => done a
  | fail e, h => h e
  | call c k, h => call c fun r => (k r).handle h

instance : MonadExceptOf ε (Program I ε) where
  throw := fail
  tryCatch := handle

/-- Turns the outcome of a pure fallible computation into a program. -/
def liftExcept : Except ε α → Program I ε α
  | .ok a => done a
  | .error e => fail e

/-- Turns the error of a program into a value. -/
def attempt : Program I ε α → Program I ε (Except ε α)
  | done a => done (.ok a)
  | fail e => done (.error e)
  | call c k => call c fun r => (k r).attempt

/-- The program with its result forgotten. -/
def void (p : Program I ε α) : Program I ε Unit := p.bind fun _ => done ()

@[simp] lemma pure_eq (a : α) : (pure a : Program I ε α) = done a := rfl

@[simp] lemma bind_eq (p : Program I ε α) (f : α → Program I ε β) : p >>= f = p.bind f := rfl

@[simp] lemma throw_eq (e : ε) : (throw e : Program I ε α) = fail e := rfl

@[simp] lemma done_bind (a : α) (f : α → Program I ε β) : (done a).bind f = f a := rfl

@[simp] lemma fail_bind (e : ε) (f : α → Program I ε β) : (fail e).bind f = fail e := rfl

@[simp] lemma call_bind (c : I.Call) (k : I.Reply c → Program I ε α) (f : α → Program I ε β) :
    (call c k).bind f = call c fun r => (k r).bind f := rfl

@[simp] lemma liftExcept_ok (a : α) : (liftExcept (.ok a) : Program I ε α) = done a := rfl

@[simp] lemma liftExcept_error (e : ε) :
    (liftExcept (.error e) : Program I ε α) = fail e := rfl

/-- Sequencing is associative. -/
theorem bind_assoc {γ : Type} (p : Program I ε α) (f : α → Program I ε β)
    (g : β → Program I ε γ) : (p.bind f).bind g = p.bind fun a => (f a).bind g := by
  induction p with
  | done a => rfl
  | fail e => rfl
  | call c k ih => simp only [call_bind, ih]

end Program

/-! ### Weakest preconditions -/

/-- What a verification of a program knows and demands: a ghost state `σ`, the calls that are
allowed in it, and the ghost states that a call and its reply may lead to. -/
structure Contract (I : Interface) (σ : Type) where
  /-- The calls allowed in a ghost state. -/
  allowed : σ → I.Call → Prop
  /-- The ghost states after a call and its reply. -/
  next : σ → (c : I.Call) → I.Reply c → σ → Prop

namespace Program

variable {I : Interface} {ε α β σ : Type}

/-- The ghost states from which the program makes only allowed calls and ends, with any replies,
in a result and ghost state that satisfy `Q`. -/
def wp (C : Contract I σ) : Program I ε α → (Except ε α → σ → Prop) → σ → Prop
  | done a, Q, s => Q (.ok a) s
  | fail e, Q, s => Q (.error e) s
  | call c k, Q, s => C.allowed s c ∧ ∀ r s', C.next s c r s' → (k r).wp C Q s'

variable {C : Contract I σ} {Q Q' : Except ε α → σ → Prop} {s : σ} {p : Program I ε α}

@[simp] lemma wp_done (a : α) : (done a : Program I ε α).wp C Q s ↔ Q (.ok a) s := Iff.rfl

@[simp] lemma wp_fail (e : ε) : (fail e : Program I ε α).wp C Q s ↔ Q (.error e) s := Iff.rfl

@[simp] lemma wp_call (c : I.Call) (k : I.Reply c → Program I ε α) :
    (call c k).wp C Q s ↔ C.allowed s c ∧ ∀ r s', C.next s c r s' → (k r).wp C Q s' := Iff.rfl

@[simp] lemma wp_liftExcept (x : Except ε α) : (liftExcept x).wp C Q s ↔ Q x s := by
  cases x <;> rfl

/-- The weakest precondition of a sequence. -/
theorem wp_bind (p : Program I ε α) (f : α → Program I ε β) (Q : Except ε β → σ → Prop) :
    (p.bind f).wp C Q s ↔ p.wp C (fun r s' => match r with
      | .ok a => (f a).wp C Q s'
      | .error e => Q (.error e) s') s := by
  induction p generalizing s with
  | done a => rfl
  | fail e => rfl
  | call c k ih => simp only [call_bind, wp_call, ih]

/-- The weakest precondition of a program whose error becomes a value. -/
theorem wp_attempt (p : Program I ε α) (Q : Except ε (Except ε α) → σ → Prop) :
    p.attempt.wp C Q s ↔ p.wp C (fun r => Q (.ok r)) s := by
  induction p generalizing s with
  | done a => rfl
  | fail e => rfl
  | call c k ih => simp only [attempt, wp_call, ih]

/-- A weaker postcondition has a weaker precondition. -/
theorem wp_mono (hp : p.wp C Q s) (h : ∀ r s', Q r s' → Q' r s') :
    p.wp C Q' s := by
  induction p generalizing s with
  | done a => exact h _ _ hp
  | fail e => exact h _ _ hp
  | call c k ih => exact ⟨hp.1, fun r s' hs => ih r (hp.2 r s' hs)⟩

/-- A postcondition that ignores the result holds of the program with its result forgotten. -/
theorem wp_void {post : σ → Prop} (hp : p.wp C (fun _ => post) s) :
    p.void.wp C (fun _ => post) s := by
  rw [void, wp_bind]
  refine wp_mono hp fun r s' h => ?_
  cases r with
  | ok a => exact h
  | error e => exact h

/-- A contract that allows more calls and expects fewer ghost states has a weaker precondition. -/
theorem wp_contract_mono {C' : Contract I σ} (hp : p.wp C Q s)
    (hall : ∀ s c, C.allowed s c → C'.allowed s c)
    (hnext : ∀ s c r s', C'.next s c r s' → C.next s c r s') : p.wp C' Q s := by
  induction p generalizing s with
  | done a => exact hp
  | fail e => exact hp
  | call c k ih =>
    exact ⟨hall s c hp.1, fun r s' hs => ih r (hp.2 r s' (hnext s c r s' hs))⟩

/-- What holds whenever a call is allowed and whenever the program ends holds at its start. -/
theorem wp_invariant {inv : σ → Prop} (hp : p.wp C Q s)
    (hall : ∀ s c, C.allowed s c → inv s) (hend : ∀ r s, Q r s → inv s) : inv s := by
  cases p with
  | done a => exact hend _ _ hp
  | fail e => exact hend _ _ hp
  | call c k => exact hall s c hp.1

/-! ### Calls and results -/

/-- Every call the program can make satisfies `ok`, and every result it can return satisfies
`post`. -/
def Ensures (ok : I.Call → Prop) (post : α → Prop) : Program I ε α → Prop
  | done a => post a
  | fail _ => True
  | call c k => ok c ∧ ∀ r, (k r).Ensures ok post

variable {ok : I.Call → Prop} {post post' : α → Prop}

@[simp] lemma ensures_done (a : α) : (done a : Program I ε α).Ensures ok post ↔ post a := Iff.rfl

@[simp] lemma ensures_fail (e : ε) : (fail e : Program I ε α).Ensures ok post := trivial

@[simp] lemma ensures_call (c : I.Call) (k : I.Reply c → Program I ε α) :
    (call c k).Ensures ok post ↔ ok c ∧ ∀ r, (k r).Ensures ok post := Iff.rfl

@[simp] lemma ensures_liftExcept (x : Except ε α) :
    (liftExcept x : Program I ε α).Ensures ok post ↔ ∀ a, x = .ok a → post a := by
  cases x <;> simp

/-- A sequence ensures what its second part does on the results of the first. -/
@[simp] lemma ensures_bind (p : Program I ε α) (f : α → Program I ε β) (post : β → Prop) :
    (p.bind f).Ensures ok post ↔ p.Ensures ok fun a => (f a).Ensures ok post := by
  induction p with
  | done a => rfl
  | fail e => rfl
  | call c k ih => simp only [call_bind, ensures_call, ih]

@[simp] lemma ensures_ite (b : Prop) [Decidable b] (p q : Program I ε α) :
    (if b then p else q).Ensures ok post ↔ (b → p.Ensures ok post) ∧ (¬ b → q.Ensures ok post) := by
  split <;> simp_all

/-- A weaker postcondition. -/
theorem Ensures.mono (hp : p.Ensures ok post) (h : ∀ a, post a → post' a) :
    p.Ensures ok post' := by
  induction p with
  | done a => exact h a hp
  | fail e => trivial
  | call c k ih => exact ⟨hp.1, fun r => ih r (hp.2 r)⟩

/-- More calls are allowed. -/
theorem Ensures.imp {ok' : I.Call → Prop} (hp : p.Ensures ok post)
    (h : ∀ c, ok c → ok' c) : p.Ensures ok' post := by
  induction p with
  | done a => exact hp
  | fail e => trivial
  | call c k ih => exact ⟨h c hp.1, fun r => ih r (hp.2 r)⟩

/-- The rule of sequence. -/
theorem Ensures.seq {f : α → Program I ε β} {post' : β → Prop}
    (hp : p.Ensures ok post) (hf : ∀ a, post a → (f a).Ensures ok post') :
    (p.bind f).Ensures ok post' :=
  (ensures_bind p f post').2 (hp.mono hf)

/-- Turning an error into a value makes no further call. -/
theorem Ensures.attempt {post : Except ε α → Prop}
    (hp : p.Ensures ok fun a => post (.ok a)) (herr : ∀ e, post (.error e)) :
    p.attempt.Ensures ok post := by
  induction p with
  | done a => exact hp
  | fail e => exact herr e
  | call c k ih => exact ⟨hp.1, fun r => ih r (hp.2 r)⟩

/-- A program whose calls are all allowed in a ghost state and keep it there. -/
theorem Ensures.wp (inv : σ → Prop) (hp : p.Ensures ok post)
    (hall : ∀ s c, inv s → ok c → C.allowed s c)
    (hnext : ∀ s c r s', inv s → ok c → C.next s c r s' → inv s') (hs : inv s) :
    p.wp C (fun r s' => inv s' ∧ ∀ a, r = .ok a → post a) s := by
  induction p generalizing s with
  | done a =>
    refine ⟨hs, ?_⟩
    rintro _ ⟨⟩
    exact hp
  | fail e => exact ⟨hs, fun _ h => nomatch h⟩
  | call c k ih =>
    exact ⟨hall s c hs hp.1, fun r s' hnx => ih r (hp.2 r) (hnext s c r s' hs hp.1 hnx)⟩

/-! ### Running -/

section Run

variable {S : Type} {reply : S → (c : I.Call) → I.Reply c × S}

/-- Runs a program against a function that answers its calls. -/
def run (reply : S → (c : I.Call) → I.Reply c × S) : Program I ε α → S → Except ε α × S
  | done a, s => (.ok a, s)
  | fail e, s => (.error e, s)
  | call c k, s => (k (reply s c).1).run reply (reply s c).2

@[simp] lemma run_liftExcept (x : Except ε α) (s : S) :
    (liftExcept x : Program I ε α).run reply s = (x, s) := by
  cases x <;> rfl

/-- Running a sequence whose first part succeeds. -/
theorem run_bind_ok {f : α → Program I ε β} {s t : S} {a : α}
    (h : p.run reply s = (.ok a, t)) : (p.bind f).run reply s = (f a).run reply t := by
  induction p generalizing s with
  | done b =>
    obtain ⟨hb, rfl⟩ := Prod.mk.inj h
    rw [done_bind, Except.ok.inj hb]
  | fail e =>
    obtain ⟨he, -⟩ := Prod.mk.inj h
    cases he
  | call c k ih => exact ih _ h

/-- A run ends as the weakest precondition says. -/
theorem wp_run {C : Contract I S} {Q : Except ε α → S → Prop}
    (hrep : ∀ s c, C.next s c (reply s c).1 (reply s c).2) {s : S}
    (h : p.wp C Q s) : Q (p.run reply s).1 (p.run reply s).2 := by
  induction p generalizing s with
  | done a => exact h
  | fail e => exact h
  | call c k ih => exact ih _ (h.2 _ _ (hrep s c))

end Run

end Program

end Resumption
