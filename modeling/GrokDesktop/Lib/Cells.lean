import Mathlib.Data.List.Basic

/-!
# Numbered cells

Values that are made one after the other and are known by their numbers, such as the cells of a
heap, are a list: a new cell gets the number of the cells so far.
-/

namespace List

variable {α : Type} {l : List α} {a b : α} {n m : ℕ}

/-- A cell of a list with a new cell is an old one or the new one. -/
theorem getElem?_concat_eq_some : (l ++ [a])[n]? = some b ↔
    l[n]? = some b ∨ n = l.length ∧ b = a := by
  rcases Nat.lt_trichotomy n l.length with hlt | rfl | hlt
  · simp [getElem?_append_left hlt, Nat.ne_of_lt hlt]
  · simp [eq_comm]
  · have hne : n ≠ l.length := Nat.ne_of_gt hlt
    have hlen : (l ++ [a])[n]? = none := by simp; omega
    have hold : l[n]? = none := by simp; omega
    simp [hlen, hold, hne]

/-- An old cell is still there when a new one is made. -/
theorem getElem?_concat_of_some (h : l[n]? = some b) : (l ++ [a])[n]? = some b :=
  getElem?_concat_eq_some.2 (.inl h)

/-- A cell of a list in which one cell was written. -/
theorem getElem?_set_of_some (h : l[n]? = some b) :
    (l.set n a)[m]? = if m = n then some a else l[m]? := by
  have hlt : n < l.length := (getElem?_eq_some_iff.1 h).1
  by_cases hm : m = n
  · subst hm
    simp [hlt]
  · rw [if_neg hm, getElem?_set_ne (Ne.symm hm)]

/-- A cell of a list in which one cell was changed. -/
theorem getElem?_modify_eq_some {f : α → α} : (l.modify n f)[m]? = some b ↔
    ∃ a, l[m]? = some a ∧ b = if m = n then f a else a := by
  rw [getElem?_modify]
  cases l[m]? with
  | none => simp
  | some a => simp [eq_comm]

end List
