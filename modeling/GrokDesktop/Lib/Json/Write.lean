import GrokDesktop.Lib.Utf8

/-!
# Compact JSON texts

The text of a JSON string, list or object as a compact writer makes it, and its size in bytes. A
string is escaped character by character: a quote, a backslash and five control characters get two
bytes, the other control characters six, and every other character stands for itself.
-/

namespace JsonText

/-- The texts one after the other, with a separator between two of them. -/
def joined (separator : String) : List String → String
  | [] => ""
  | [text] => text
  | text :: rest => text ++ separator ++ joined separator rest

/-- A lower-case hexadecimal digit. -/
def hexDigit (n : ℕ) : Char := Char.ofNat (if n < 10 then 0x30 + n else 0x57 + n)

/-- The characters that are escaped by a letter or by themselves. -/
def escapes : List (Char × Char) :=
  [('"', '"'), ('\\', '\\'), ('\x08', 'b'), ('\t', 't'), ('\n', 'n'), ('\x0c', 'f'), ('\r', 'r')]

/-- The characters that are written for one character of a string. -/
def escapeChar (c : Char) : List Char :=
  match escapes.lookup c with
  | some letter => ['\\', letter]
  | none =>
      if c.toNat < 0x20 then
        ['\\', 'u', '0', '0', hexDigit (c.toNat / 16), hexDigit (c.toNat % 16)]
      else [c]

def quoted (text : String) : String :=
  "\"" ++ String.ofList (text.toList.flatMap escapeChar) ++ "\""

def list (values : List String) : String := "[" ++ joined "," values ++ "]"

def member (name value : String) : String := quoted name ++ ":" ++ value

def object (members : List String) : String := "\x7b" ++ joined "," members ++ "\x7d"

/-! ## Sizes -/

/-- The bytes that a character takes in a string. -/
def charSize (c : Char) : ℕ :=
  if (escapes.lookup c).isSome then 2 else if c.toNat < 0x20 then 6 else c.utf8Size

/-- The bytes of a text that is written in a string. -/
def escapedSize (text : String) : ℕ := (text.toList.map charSize).sum

lemma utf8Size_hexDigit {n : ℕ} (h : n < 16) : (hexDigit n).utf8Size = 1 := by
  have hall : ∀ m < 16, (hexDigit m).utf8Size = 1 := by decide
  exact hall n h

/-- The bytes of an escaped character. -/
lemma byteLen_escapeChar (c : Char) : Utf8.byteLen (escapeChar c) = charSize c := by
  unfold escapeChar charSize
  cases hlookup : escapes.lookup c with
  | some letter =>
    have hone : ∀ pair ∈ escapes, pair.2.utf8Size = 1 := by decide
    obtain ⟨before, after, hescapes, -⟩ := List.lookup_eq_some_iff.1 hlookup
    have hletter : letter.utf8Size = 1 := hone (c, letter) (by rw [hescapes]; simp)
    have hback : '\\'.utf8Size = 1 := rfl
    simp [hletter, hback]
  | none =>
    by_cases hcontrol : c.toNat < 0x20
    · have hhigh := utf8Size_hexDigit (show c.toNat / 16 < 16 by omega)
      have hlow := utf8Size_hexDigit (show c.toNat % 16 < 16 by omega)
      have hlead : Utf8.byteLen ['\\', 'u', '0', '0'] = 4 := rfl
      simp only [Utf8.byteLen_cons, Utf8.byteLen_nil] at hlead
      simp only [hcontrol, if_true, Utf8.byteLen_cons, Utf8.byteLen_nil, hhigh, hlow,
        Option.isSome_none, Bool.false_eq_true, if_false]
      omega
    · simp [hcontrol]

lemma byteLen_flatMap_escapeChar (cs : List Char) :
    Utf8.byteLen (cs.flatMap escapeChar) = (cs.map charSize).sum := by
  induction cs with
  | nil => rfl
  | cons c cs ih => simp [byteLen_escapeChar, ih]

/-- The bytes of a written string. -/
lemma utf8ByteSize_quoted (text : String) :
    (quoted text).utf8ByteSize = escapedSize text + 2 := by
  have hquote : "\"".utf8ByteSize = 1 := rfl
  rw [quoted, String.utf8ByteSize_append, String.utf8ByteSize_append, hquote,
    Utf8.utf8ByteSize_ofList, byteLen_flatMap_escapeChar, escapedSize]
  omega

/-- The size of texts with a separator between them. -/
theorem utf8ByteSize_joined (separator : String) (texts : List String) :
    (joined separator texts).utf8ByteSize = (texts.map String.utf8ByteSize).sum
      + (texts.length - 1) * separator.utf8ByteSize := by
  induction texts with
  | nil => simp [joined]
  | cons text rest ih =>
    cases rest with
    | nil => simp [joined]
    | cons next rest =>
      simp only [joined, String.utf8ByteSize_append, List.map_cons, List.sum_cons,
        List.length_cons, Nat.add_sub_cancel] at ih ⊢
      rw [Nat.add_one_mul]
      omega

/-- The size of a list of values of the given sizes. -/
def listSize (sizes : List ℕ) : ℕ := sizes.sum + (sizes.length - 1) + 2

/-- The bytes of a written list. -/
lemma utf8ByteSize_list (values : List String) :
    (list values).utf8ByteSize = listSize (values.map String.utf8ByteSize) := by
  have hopen : "[".utf8ByteSize = 1 := rfl
  have hclose : "]".utf8ByteSize = 1 := rfl
  have hcomma : ",".utf8ByteSize = 1 := rfl
  rw [list, String.utf8ByteSize_append, String.utf8ByteSize_append, utf8ByteSize_joined, hcomma,
    listSize, List.length_map]
  omega

/-- No character gets smaller. -/
lemma utf8Size_le_charSize (c : Char) : c.utf8Size ≤ charSize c := by
  unfold charSize
  split
  · rename_i hsome
    have hsmall : ∀ pair ∈ escapes, pair.1.utf8Size ≤ 2 := by decide
    obtain ⟨letter, hletter⟩ := Option.isSome_iff_exists.1 hsome
    obtain ⟨before, after, hescapes, -⟩ := List.lookup_eq_some_iff.1 hletter
    exact hsmall (c, letter) (by rw [hescapes]; simp)
  · have hfour := Char.utf8Size_le_four c
    split
    · omega
    · rfl

/-- Escaping removes no byte. -/
lemma utf8ByteSize_le_escapedSize (text : String) : text.utf8ByteSize ≤ escapedSize text := by
  rw [escapedSize, Utf8.utf8ByteSize_eq]
  induction text.toList with
  | nil => simp
  | cons c cs ih =>
    have hc := utf8Size_le_charSize c
    simp only [Utf8.byteLen_cons, List.map_cons, List.sum_cons]
    omega

end JsonText
