import Mathlib.Algebra.BigOperators.Group.List.Basic
import Mathlib.Algebra.GroupWithZero.Nat
import Mathlib.Data.List.Basic
import Mathlib.Data.String.Basic

/-!
# Splitting text at byte limits

A text is a list of characters whose encodings take one to four bytes each. `splitBytes` cuts off
the longest prefix within a byte limit that ends at a character boundary, and `chunks` repeats it
until nothing is left.
-/

namespace Utf8

/-- The length of the UTF-8 encoding of a list of characters. -/
def byteLen (cs : List Char) : ℕ := (cs.map Char.utf8Size).sum

@[simp] lemma byteLen_nil : byteLen [] = 0 := rfl

@[simp] lemma byteLen_cons (c : Char) (cs : List Char) :
    byteLen (c :: cs) = c.utf8Size + byteLen cs := by
  simp [byteLen]

@[simp] lemma byteLen_append (cs ds : List Char) :
    byteLen (cs ++ ds) = byteLen cs + byteLen ds := by
  simp [byteLen]

/-- The byte length of a string is the byte length of its characters. -/
theorem utf8ByteSize_ofList (cs : List Char) : (String.ofList cs).utf8ByteSize = byteLen cs := by
  induction cs with
  | nil => simp
  | cons c cs ih =>
    rw [← List.singleton_append, String.ofList_append, String.utf8ByteSize_append, ih]
    simp

/-- The bytes of a repeated character. -/
theorem utf8ByteSize_replicate (n : ℕ) (c : Char) :
    (String.ofList (List.replicate n c)).utf8ByteSize = n * c.utf8Size := by
  rw [utf8ByteSize_ofList]
  simp [byteLen]

/-- The bytes of a string are those of its characters. -/
lemma utf8ByteSize_eq (s : String) : s.utf8ByteSize = byteLen s.toList := by
  rw [← utf8ByteSize_ofList, String.ofList_toList]

/-- The longest prefix of at most `max` bytes, and the rest. -/
def splitBytes (max : ℕ) : List Char → List Char × List Char
  | [] => ([], [])
  | c :: cs =>
      if c.utf8Size ≤ max then
        let (chunk, tail) := splitBytes (max - c.utf8Size) cs
        (c :: chunk, tail)
      else ([], c :: cs)

/-- The parts make up the text. -/
theorem splitBytes_append (max : ℕ) (cs : List Char) :
    (splitBytes max cs).1 ++ (splitBytes max cs).2 = cs := by
  induction cs generalizing max with
  | nil => rfl
  | cons c cs ih =>
    simp only [splitBytes]
    split
    · simp [ih]
    · simp

variable {max : ℕ} {cs : List Char}

/-- With room for any character, a non-empty text loses at least one. -/
lemma splitBytes_fst_ne_nil (hmax : 4 ≤ max) (h : cs ≠ []) :
    (splitBytes max cs).1 ≠ [] := by
  cases cs with
  | nil => exact absurd rfl h
  | cons c cs =>
    have := Char.utf8Size_le_four c
    rw [splitBytes, if_pos (by omega)]
    simp

/-- Repeats `splitBytes`, at most `fuel` times, until nothing is left. -/
def chunksFrom (max : ℕ) : ℕ → List Char → List (List Char)
  | 0, _ => []
  | _ + 1, [] => []
  | fuel + 1, c :: cs =>
      let (chunk, tail) := splitBytes max (c :: cs)
      chunk :: chunksFrom max fuel tail

/-- The chunks of at most `max` bytes of a text. A chunk has at least one character, so the loop
ends within as many rounds as there are characters. -/
def chunks (max : ℕ) (cs : List Char) : List (List Char) := chunksFrom max cs.length cs

/-- The chunks are the text in pieces. -/
lemma chunksFrom_flatten (hmax : 4 ≤ max) {fuel : ℕ}
    (hfuel : cs.length ≤ fuel) : (chunksFrom max fuel cs).flatten = cs := by
  induction fuel generalizing cs with
  | zero => simp_all [chunksFrom]
  | succ fuel ih =>
    cases cs with
    | nil => rfl
    | cons c cs =>
      have happ := splitBytes_append max (c :: cs)
      have hne := splitBytes_fst_ne_nil hmax (List.cons_ne_nil c cs)
      have hlen := congrArg List.length happ
      have hpos := List.length_pos_iff.2 hne
      rw [chunksFrom, List.flatten_cons, ih (by simp at hlen hfuel ⊢; omega), happ]

/-- The chunks make up the text. -/
theorem chunks_flatten (hmax : 4 ≤ max) (cs : List Char) :
    (chunks max cs).flatten = cs := chunksFrom_flatten hmax le_rfl

end Utf8
