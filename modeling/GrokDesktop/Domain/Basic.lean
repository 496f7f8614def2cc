import Mathlib.Data.List.Basic
import Mathlib.Data.String.Basic

/-!
# Text, integers and identifiers

The pieces of the Rust standard library that the product rules rest on, as functions on the
characters of a string, and the entity identifiers of the domain crate.

Strings are valid UTF-8 in both languages: `String.utf8ByteSize` is Rust's `str::len`. Machine
integers are natural numbers; where the code saturates or checks for overflow the bound is written
out (`u64Max`).
-/

namespace GrokDesktop

/-! ## Machine integers -/

/-- The largest `u32`. -/
def u32Max : ℕ := 2 ^ 32 - 1

/-- The largest `u64`. -/
def u64Max : ℕ := 2 ^ 64 - 1

/-- Milliseconds since the Unix epoch. -/
abbrev UnixMillis : Type := ℕ

/-- `u64::saturating_add`. -/
def saturatingAdd (a b : ℕ) : ℕ := min (a + b) u64Max

/-- `u64::checked_add`. -/
def checkedAdd (a b : ℕ) : Option ℕ := if a + b ≤ u64Max then some (a + b) else none

lemma checkedAdd_eq_some {a b c : ℕ} : checkedAdd a b = some c ↔ a + b ≤ u64Max ∧ a + b = c := by
  unfold checkedAdd
  split <;> simp [*]

/-! ## Text -/

/-- `char::is_control`: the general category `Cc`. -/
def isControl (c : Char) : Bool :=
  c.toNat < 0x20 || (0x7f ≤ c.toNat && c.toNat < 0xa0)

/-- `char::is_whitespace`: the Unicode property `White_Space`. -/
def isWhitespace (c : Char) : Bool :=
  let n := c.toNat
  (9 ≤ n && n ≤ 13) || n = 0x20 || n = 0x85 || n = 0xa0 || n = 0x1680 ||
    (0x2000 ≤ n && n ≤ 0x200a) || n = 0x2028 || n = 0x2029 || n = 0x202f || n = 0x205f ||
    n = 0x3000

/-- The characters of `str::trim`. -/
def trimChars (cs : List Char) : List Char :=
  ((cs.dropWhile isWhitespace).reverse.dropWhile isWhitespace).reverse

/-- `str::trim`. -/
def trim (s : String) : String := String.ofList (trimChars s.toList)

/-- `u8::is_ascii_alphanumeric` on characters. -/
def isAsciiAlphanumeric (c : Char) : Bool :=
  ('0' ≤ c && c ≤ '9') || ('a' ≤ c && c ≤ 'z') || ('A' ≤ c && c ≤ 'Z')

/-- Different numbers have different decimal texts. -/
theorem repr_inj {m n : ℕ} (h : m.repr = n.repr) : m = n := by
  have hdigits := congrArg (fun text => Nat.ofDigitChars 10 text.toList 0) h
  simpa using hdigits

/-! ## Digests -/

/-- A SHA-256 value. -/
abbrev Digest : Type := BitVec 256

/-- The SHA-256 library. -/
class Sha256Library where
  digest : List UInt8 → Digest

def utf8Bytes (text : String) : List UInt8 := text.toUTF8.toList

/-- `to_be_bytes`: the bytes of a number of the given width, most significant first. -/
def bigEndian (width n : ℕ) : List UInt8 :=
  (List.range width).map fun i => UInt8.ofNat (n >>> (8 * (width - 1 - i)))

/-! ## Identifiers -/

/-- Validation error for an entity identifier. -/
inductive IdError where
  | empty
  | tooLong
  | controlCharacter
  deriving DecidableEq

/-- The kinds of entity that have an identifier type of their own. -/
inductive IdKind where
  | project
  | thread
  | run
  | effect
  | conversationTurn
  | message
  | automation
  | automationOccurrence
  | automationSchedulerOwner
  | approval
  | privilegedOperation
  | artifact
  deriving DecidableEq

/-- The transport-safe form of an identifier: `none` when the value is accepted. -/
def idProblem (value : String) : Option IdError :=
  if value.isEmpty then some .empty
  else if 128 < value.utf8ByteSize then some .tooLong
  else if value.toList.any isControl then some .controlCharacter
  else none

/-- An identifier of one kind of entity. Only validated values exist. -/
structure EntityId (kind : IdKind) where
  /-- The stable external representation. -/
  value : String
  /-- The value is non-empty, bounded and printable. -/
  valid : idProblem value = none
  deriving DecidableEq

namespace EntityId

variable {kind : IdKind}

/-- Creates an identifier after validating its transport-safe form. -/
def new (value : String) : Except IdError (EntityId kind) :=
  match h : idProblem value with
  | none => .ok ⟨value, h⟩
  | some e => .error e

@[ext] lemma ext {a b : EntityId kind} (h : a.value = b.value) : a = b := by
  cases a; cases b; cases h; rfl

@[simp] lemma new_value (id : EntityId kind) : new id.value = .ok id := by
  obtain ⟨value, valid⟩ := id
  unfold new
  split
  · rfl
  · simp_all

end EntityId

/-- A locally owned project identifier. -/
abbrev ProjectId : Type := EntityId .project
/-- A conversation thread identifier. -/
abbrev ThreadId : Type := EntityId .thread
/-- An agent run identifier. -/
abbrev RunId : Type := EntityId .run
/-- A durable side-effect intent identifier. -/
abbrev EffectId : Type := EntityId .effect
/-- A durable direct-model conversation turn identifier. -/
abbrev ConversationTurnId : Type := EntityId .conversationTurn
/-- A canonical conversation message identifier. -/
abbrev MessageId : Type := EntityId .message
/-- A durable automation definition identifier. -/
abbrev AutomationId : Type := EntityId .automation
/-- A durable scheduled automation occurrence identifier. -/
abbrev AutomationOccurrenceId : Type := EntityId .automationOccurrence
/-- A daemon process identity used for fenced scheduler ownership. -/
abbrev AutomationSchedulerOwnerId : Type := EntityId .automationSchedulerOwner
/-- An approval request identifier. -/
abbrev ApprovalId : Type := EntityId .approval
/-- A durable privileged-operation journal identifier. -/
abbrev PrivilegedOperationId : Type := EntityId .privilegedOperation
end GrokDesktop
