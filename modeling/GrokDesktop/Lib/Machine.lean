import Mathlib.Data.List.Basic

/-!
# Machines

A machine has a partial step function on its states, one step for each event. A run is a list of
events, each of them allowed in the state in which it happens.
-/

namespace Machine

variable {σ ε : Type} {step : σ → ε → Option σ} {allowed : σ → ε → Bool}

/-- The state after a list of events, if every one of them is allowed and can happen. -/
def run (step : σ → ε → Option σ) (allowed : σ → ε → Bool) : σ → List ε → Option σ
  | s, [] => some s
  | s, e :: events =>
      if allowed s e then (step s e).bind fun s' => run step allowed s' events else none

/-- The state is reached by a run. -/
def Reaches (step : σ → ε → Option σ) (allowed : σ → ε → Bool) (s s' : σ) : Prop :=
  ∃ events, run step allowed s events = some s'

/-- What every step keeps holds in every state that is reached. -/
theorem Reaches.invariant {P : σ → Prop} {s s' : σ} (h : Reaches step allowed s s') (h₀ : P s)
    (hstep : ∀ s e s', P s → allowed s e = true → step s e = some s' → P s') : P s' := by
  obtain ⟨events, hrun⟩ := h
  induction events generalizing s with
  | nil =>
    obtain rfl := Option.some.inj hrun
    exact h₀
  | cons e events ih =>
    rw [run] at hrun
    split at hrun
    · rename_i hallowed
      obtain ⟨next, hnext, hrest⟩ := Option.bind_eq_some_iff.1 hrun
      exact ih (hstep s e next h₀ hallowed hnext) hrest
    · cases hrun

end Machine
