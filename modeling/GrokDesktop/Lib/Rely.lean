import GrokDesktop.Lib.Pool

/-!
# One program among other writers

What one program does to a shared state while other writers change it between its calls. The
relation `rely` says what the other writers may do; a `Contract` built from it demands an invariant
whenever the program makes a call, and follows the replies in a ghost value.

A precondition is stable: it still holds after steps of `rely`, when the invariant and the
postcondition do.
-/

namespace Resumption

variable {I : Interface} {S G ε α : Type}

/-- The contract of a program that shares its state with writers that follow `rely`: before each
answer they may change the state, and the ghost value follows the reply. -/
def relyContract (sys : System I S) (rely : S → S → Prop)
    (follow : G → (c : I.Call) → I.Reply c → G) (inv : S × G → Prop) : Contract I (S × G) where
  allowed σ _ := inv σ
  next σ c r σ' := ∃ s, rely σ.1 s ∧ sys.answers s c r σ'.1 ∧ σ'.2 = follow σ.2 c r

/-- A property that the other writers keep. -/
def Stable (rely : S → S → Prop) (inv : S × G → Prop) : Prop :=
  ∀ s s' g, rely s s' → inv (s, g) → inv (s', g)

variable {sys : System I S} {rely : S → S → Prop} {follow : G → (c : I.Call) → I.Reply c → G}
  {inv : S × G → Prop} {Q : Except ε α → S × G → Prop} {s s' : S} {g : G}

/-- A precondition holds after steps of the other writers. -/
theorem Program.wp_stable (htrans : ∀ a b c, rely a b → rely b c → rely a c)
    (hinv : Stable rely inv) (hQ : ∀ r, Stable rely (Q r)) {p : Program I ε α}
    (hp : p.wp (relyContract sys rely follow inv) Q (s, g)) (hrely : rely s s') :
    p.wp (relyContract sys rely follow inv) Q (s', g) := by
  cases p with
  | done a | fail e => exact hQ _ s s' g hrely hp
  | call c k =>
    refine ⟨hinv s s' g hrely hp.1, ?_⟩
    rintro r σ ⟨s₁, hrely', hans, hfol⟩
    exact hp.2 r σ ⟨s₁, htrans _ _ _ hrely hrely', hans, hfol⟩

/-! ### Progress -/

/-- The result of a program that has ended. -/
def Program.result? : Program I ε α → Option (Except ε α)
  | .done a => some (.ok a)
  | .fail e => some (.error e)
  | .call _ _ => none

/-- A program among other writers gets the listed answers, and from the first program and state
comes to the second ones. The other writers change the state only before answers. -/
inductive Progress (sys : System I S) (rely : S → S → Prop) :
    List (Event I) → Program I ε α → S → Program I ε α → S → Prop
  | here (p : Program I ε α) (s : S) : Progress sys rely [] p s p s
  | answer {events : List (Event I)} {c : I.Call} {k : I.Reply c → Program I ε α} {r : I.Reply c}
      {s s₁ s₂ t : S} {q : Program I ε α} (hrely : rely s s₁) (hanswers : sys.answers s₁ c r s₂)
      (hrest : Progress sys rely events (k r) s₂ q t) :
      Progress sys rely (⟨c, r⟩ :: events) (.call c k) s q t

variable {events : List (Event I)} {p q : Program I ε α} {t : S}

section

variable (h : Progress sys rely events p s q t)
include h

/-- A program that has ended gets no answer. -/
theorem Progress.of_result {r : Except ε α}
    (hp : p.result? = some r) : events = [] ∧ q = p ∧ t = s := by
  cases h with
  | here => exact ⟨rfl, rfl, rfl⟩
  | answer _ _ _ => cases hp

/-- A program that has ended keeps its result. -/
theorem Progress.result_eq {r : Except ε α} (hp : p.result? = some r) : q.result? = some r := by
  rw [(h.of_result hp).2.1, hp]

/-- Progress stays within the calls and results that the program ensures. -/
theorem Progress.ensures {ok : I.Call → Prop} {post : α → Prop}
    (hp : p.Ensures ok post) : q.Ensures ok post := by
  induction h with
  | here => exact hp
  | answer _ _ _ ih => exact ih (hp.2 _)

/-- Progress keeps a precondition that follows the state and a ghost value. -/
theorem Progress.wp_rely (hp : p.wp (relyContract sys rely follow inv) Q (s, g)) :
    q.wp (relyContract sys rely follow inv) Q
      (t, events.foldl (fun g e => follow g e.1 e.2) g) := by
  induction h generalizing g with
  | here => exact hp
  | answer hrely hans _ ih => exact ih (hp.2 _ (_, _) ⟨_, hrely, hans, rfl⟩)

end

/-- A program that waits for an answer is still there or has got it. -/
theorem Progress.of_call {c : I.Call} {k : I.Reply c → Program I ε α}
    (h : Progress sys rely events (.call c k) s q t) :
    (events = [] ∧ q = .call c k ∧ t = s) ∨
      ∃ r rest s₁ s₂, events = ⟨c, r⟩ :: rest ∧ rely s s₁ ∧ sys.answers s₁ c r s₂ ∧
        Progress sys rely rest (k r) s₂ q t := by
  cases h with
  | here => exact .inl ⟨rfl, rfl, rfl⟩
  | answer hrely hans hrest => exact .inr ⟨_, _, _, _, rfl, hrely, hans, hrest⟩

/-- The calls that a run makes, with their replies. -/
def Program.runEvents (reply : S → (c : I.Call) → I.Reply c × S) :
    Program I ε α → S → List (Event I)
  | .done _, _ => []
  | .fail _, _ => []
  | .call c k, s => ⟨c, (reply s c).1⟩ :: (k (reply s c).1).runEvents reply (reply s c).2

/-- A run is progress to its result, without other writers. -/
theorem Progress.of_run {reply : S → (c : I.Call) → I.Reply c × S} (p : Program I ε α) (s : S)
    (hrep : ∀ s c, sys.answers s c (reply s c).1 (reply s c).2) :
    ∃ q, q.result? = some (p.run reply s).1 ∧
      Progress sys Eq (p.runEvents reply s) p s q (p.run reply s).2 := by
  induction p generalizing s with
  | done a => exact ⟨.done a, rfl, .here _ _⟩
  | fail e => exact ⟨.fail e, rfl, .here _ _⟩
  | call c k ih =>
    obtain ⟨q, hq, hprog⟩ := ih _ (reply s c).2
    exact ⟨q, hq, .answer rfl (hrep s c) hprog⟩

@[simp] lemma Program.result?_liftExcept (x : Except ε α) :
    (Program.liftExcept x : Program I ε α).result? = some x := by
  cases x <;> rfl

end Resumption
