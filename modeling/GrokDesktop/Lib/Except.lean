import Mathlib.Logic.Basic

/-!
# Fallible computations

The checks that a fallible function makes one after the other are written in the `Except` monad.
The lemmas here take such a computation apart: a sequence succeeds exactly when each of its parts
does.
-/

namespace Except

open List

variable {ε α β : Type}

variable {x : Except ε α} {b : β}

/-- A sequence succeeds when its first part does and the rest succeeds on the result. -/
theorem bind_eq_ok {f : α → Except ε β} :
    x >>= f = .ok b ↔ ∃ a, x = .ok a ∧ f a = .ok b := by
  cases x with
  | error e => simp [bind, Except.bind]
  | ok a => simp [bind, Except.bind]

@[simp] lemma ok_bind (a : α) (f : α → Except ε β) : (.ok a : Except ε α) >>= f = f a := rfl

@[simp] lemma error_bind (e : ε) (f : α → Except ε β) :
    (.error e : Except ε α) >>= f = .error e := rfl

/-- A check has only one result. -/
@[simp] lemma exists_eq_ok_unit {x : Except ε Unit} : (∃ u, x = .ok u) ↔ x = .ok () :=
  ⟨fun ⟨(), h⟩ => h, fun h => ⟨(), h⟩⟩

@[simp] lemma pure_eq_ok (a : α) : (pure a : Except ε α) = .ok a := rfl

/-- What is returned is the result. -/
lemma return_eq_ok {a b : α} : (pure a : Except ε α) = .ok b ↔ a = b := by
  rw [pure_eq_ok, Except.ok.injEq]

lemma pair_eq_ok {a c : α} {b d : β} :
    (pure (a, b) : Except ε (α × β)) = .ok (c, d) ↔ a = c ∧ b = d := by
  rw [return_eq_ok, Prod.mk.injEq]

/-- Fails with `e` when the condition holds: an early return. -/
def rejectIf (c : Prop) [Decidable c] (e : ε) : Except ε Unit :=
  if c then .error e else .ok ()

@[simp] lemma rejectIf_eq_ok {c : Prop} [Decidable c] {e : ε} {u : Unit} :
    rejectIf c e = .ok u ↔ ¬ c := by
  unfold rejectIf
  split <;> simp_all

/-- The value of an option, or the error `e`. -/
def okOr (o : Option α) (e : ε) : Except ε α :=
  match o with
  | some a => .ok a
  | none => .error e

@[simp] lemma okOr_eq_ok {o : Option α} {e : ε} {a : α} : okOr o e = .ok a ↔ o = some a := by
  cases o <;> simp [okOr]

@[simp] lemma okOr_some (a : α) (e : ε) : okOr (some a) e = .ok a := rfl

@[simp] lemma okOr_none (e : ε) : okOr (none : Option α) e = .error e := rfl

@[simp] lemma toOption_eq_some {a : α} :
    x.toOption = some a ↔ x = .ok a := by
  cases x <;> simp [Except.toOption]

@[simp] lemma mapError_id (x : Except ε α) : x.mapError id = x := by
  cases x <;> rfl

variable {ε' : Type}

@[simp] lemma mapError_ok (a : α) (f : ε → ε') :
    (Except.ok a).mapError f = .ok a := rfl

@[simp] lemma mapError_error (e : ε) (f : ε → ε') :
    (Except.error e : Except ε α).mapError f = .error (f e) := rfl

@[simp] lemma mapError_eq_ok {f : ε → ε'} {a : α} :
    x.mapError f = .ok a ↔ x = .ok a := by
  cases x <;> simp

/-- The result of a map. -/
lemma map_eq_ok {f : α → β} :
    f <$> x = .ok b ↔ ∃ a, x = .ok a ∧ f a = b := by
  cases x <;> simp [Functor.map, Except.map]

lemma isOk_iff : x.isOk = true ↔ ∃ a, x = .ok a := by
  cases x <;> simp [Except.toBool]

/-- The outcome of a transaction on a state: an error leaves the state as it was. -/
def settle {σ : Type} (s : σ) (outcome : Except ε (α × σ)) : Except ε α × σ :=
  match outcome with
  | .ok (a, s') => (.ok a, s')
  | .error e => (.error e, s)

/-- A transaction changes the state only when it succeeds. -/
theorem settle_cases {σ : Type} {s s' : σ} {outcome : Except ε (α × σ)} {result : Except ε α}
    (h : settle s outcome = (result, s')) :
    (∃ a, outcome = .ok (a, s') ∧ result = .ok a) ∨
      (∃ e, outcome = .error e ∧ result = .error e ∧ s' = s) := by
  cases outcome with
  | ok pair =>
    obtain ⟨rfl, rfl⟩ := Prod.mk.inj h
    exact .inl ⟨pair.1, rfl, rfl⟩
  | error e =>
    obtain ⟨rfl, rfl⟩ := Prod.mk.inj h
    exact .inr ⟨e, rfl, rfl, rfl⟩

/-- A transaction fails and changes nothing, or makes all its writes. -/
theorem settle_induction {σ : Type} {s : σ} {outcome : Except ε (α × σ)}
    {P : Except ε α → σ → Prop} (herror : ∀ e, P (.error e) s)
    (hok : ∀ a s', outcome = .ok (a, s') → P (.ok a) s') :
    Function.uncurry P (settle s outcome) := by
  rcases outcome with e | ⟨a, s'⟩
  · exact herror e
  · exact hok a s' rfl

/-- A call that succeeds has made the transaction. -/
theorem settle_eq_ok {σ : Type} {s s' : σ} {a : α} {outcome : Except ε (α × σ)}
    (h : settle s outcome = (.ok a, s')) : outcome = .ok (a, s') := by
  rcases outcome with e | ⟨a', t⟩
  · cases h
  · cases h
    rfl

/-- A program on a state does what a transaction on it does. -/
def Performs {σ : Type} (program : ExceptT ε (StateM σ) Unit) (s : σ) (outcome : Except ε σ) :
    Prop :=
  program.run.run s = match outcome with
    | .ok s' => (.ok (), s')
    | .error e => (.error e, s)

/-- A check first, in both. -/
lemma Performs.check {σ : Type} {s : σ} {f : α → ExceptT ε (StateM σ) Unit}
    {g : α → Except ε σ} (h : ∀ a, Performs (f a) s (g a)) :
    Performs (MonadExcept.ofExcept x >>= f) s (x >>= g) := by
  cases x with
  | error e => rfl
  | ok a => exact h a

/-- What the start of a checked fold satisfies and every successful step keeps holds of its
result. -/
theorem foldlM_induction {σ : Type} {f : σ → α → Except ε σ} {P : List α → σ → Prop} {l : List α}
    {init result : σ} (h : l.foldlM f init = .ok result) (hinit : P [] init)
    (hstep : ∀ done a rest s s', l = done ++ a :: rest → P done s → f s a = .ok s' →
      P (done ++ [a]) s') : P l result := by
  suffices hsuffix : ∀ rest done s, l = done ++ rest → P done s → rest.foldlM f s = .ok result →
      P l result from hsuffix l [] init rfl hinit h
  intro rest
  induction rest with
  | nil =>
    intro done s hl hP hfold
    rw [append_nil] at hl
    rw [hl, ← Except.ok.inj hfold]
    exact hP
  | cons a rest ih =>
    intro done s hl hP hfold
    obtain ⟨s', hs', hrest⟩ := bind_eq_ok.1 hfold
    exact ih (done ++ [a]) s' (by simp [hl]) (hstep done a rest s s' hl hP hs') hrest

/-- A checked fold over entries with different keys, whose steps succeed or not by what is known of
the entry and of its relation to the entries before it. -/
theorem foldlM_pairwise {σ κ : Type} {f : σ → α → Except ε σ} {P : List α → σ → Prop}
    {A : α → Prop} {R : α → α → Prop} {key : α → κ} {l : List α} {init : σ}
    (hnd : (l.map key).Nodup) (hinit : P [] init)
    (hstep : ∀ done a s, a ∈ l → (∀ b ∈ done, key b ≠ key a) → P done s →
      ((∃ s', f s a = .ok s') ↔ A a ∧ ∀ b ∈ done, R b a) ∧
        ∀ s', f s a = .ok s' → P (done ++ [a]) s') :
    ((∃ result, l.foldlM f init = .ok result) ↔ (∀ a ∈ l, A a) ∧ l.Pairwise R) ∧
      ∀ result, l.foldlM f init = .ok result → P l result := by
  suffices hsuffix : ∀ rest done s, l = done ++ rest → P done s →
      ((∃ result, rest.foldlM f s = .ok result) ↔
        (∀ a ∈ rest, A a ∧ ∀ b ∈ done, R b a) ∧ rest.Pairwise R) ∧
      ∀ result, rest.foldlM f s = .ok result → P l result by
    simpa using hsuffix l [] init rfl hinit
  intro rest
  induction rest with
  | nil =>
    intro done s hl hP
    refine ⟨by simp, fun result h => ?_⟩
    rw [append_nil] at hl
    rwa [hl, ← Except.ok.inj h]
  | cons a rest ih =>
    intro done s hl hP
    have hnew : ∀ b ∈ done, key b ≠ key a := by
      rw [hl, map_append, nodup_append] at hnd
      exact fun b hb => hnd.2.2 _ (mem_map_of_mem hb) _ (by simp)
    obtain ⟨hrdy, hnext⟩ := hstep done a s (by simp [hl]) hnew hP
    have hrest := fun s' hs' => ih (done ++ [a]) s' (by simp [hl]) (hnext s' hs')
    simp only [foldlM_cons, bind_eq_ok]
    refine ⟨⟨?_, ?_⟩, ?_⟩
    · rintro ⟨result, s', hs', hfold⟩
      obtain ⟨hall, hpairs⟩ := (hrest s' hs').1.1 ⟨result, hfold⟩
      have ha := hrdy.1 ⟨s', hs'⟩
      refine ⟨?_, pairwise_cons.2 ⟨fun b hb => (hall b hb).2 a (by simp), hpairs⟩⟩
      intro b hb
      rcases mem_cons.1 hb with rfl | hb
      · exact ha
      · exact ⟨(hall b hb).1, fun c hc => (hall b hb).2 c (mem_append_left _ hc)⟩
    · rintro ⟨hall, hpairs⟩
      obtain ⟨hfst, hpairs⟩ := pairwise_cons.1 hpairs
      obtain ⟨s', hs'⟩ := hrdy.2 (hall a (by simp))
      have hlat : ∀ b ∈ rest, A b ∧ ∀ c ∈ done ++ [a], R c b := by
        intro b hb
        obtain ⟨hA, hdone⟩ := hall b (mem_cons_of_mem _ hb)
        refine ⟨hA, fun c hc => ?_⟩
        rcases mem_append.1 hc with hc | hc
        · exact hdone c hc
        · rw [mem_singleton.1 hc]
          exact hfst b hb
      obtain ⟨result, hfold⟩ := (hrest s' hs').1.2 ⟨hlat, hpairs⟩
      exact ⟨result, s', hs', hfold⟩
    · rintro result ⟨s', hs', hfold⟩
      exact (hrest s' hs').2 result hfold

end Except
