import Mathlib.Data.Nat.Notation
import Mathlib.Data.String.Basic

/-!
# Hexadecimal text

The lower-case hexadecimal text of a list of bytes.
-/

namespace Hex

/-- A digit of lower-case hexadecimal. -/
def digit (n : ℕ) : Char := "0123456789abcdef".toList.getD (n % 16) '0'

/-- Whether a character is such a digit. -/
def isDigit (c : Char) : Bool := ('0' ≤ c && c ≤ '9') || ('a' ≤ c && c ≤ 'f')

/-- The text of a list of bytes. -/
def encode (bytes : List UInt8) : String :=
  String.ofList (bytes.flatMap fun b => [digit (b.toNat / 16), digit b.toNat])

lemma isDigit_digit (n : ℕ) : isDigit (digit n) = true := by
  have h : ∀ k < 16, isDigit ("0123456789abcdef".toList.getD k '0') = true := by decide
  exact h _ (Nat.mod_lt n (by decide))

/-- A text has two digits for each byte. -/
theorem length_encode (bytes : List UInt8) : (encode bytes).toList.length = 2 * bytes.length := by
  rw [encode, String.toList_ofList]
  induction bytes with
  | nil => rfl
  | cons b bytes ih =>
    simp only [List.flatMap_cons, List.length_append, List.length_cons, List.length_nil]
    omega

lemma isDigit_of_mem_encode {bytes : List UInt8} {c : Char} (h : c ∈ (encode bytes).toList) :
    isDigit c = true := by
  rw [encode, String.toList_ofList, List.mem_flatMap] at h
  obtain ⟨b, -, hc⟩ := h
  rcases List.mem_cons.1 hc with rfl | hc
  · exact isDigit_digit _
  · rw [List.mem_singleton.1 hc]
    exact isDigit_digit _

end Hex
