import GrokDesktop.Domain.Basic
import GrokDesktop.Lib.Utf8
import GrokDesktop.Lib.Except

/-!
# Projects, threads and messages

The workspace entities that own a conversation. A thread carries its immutable ancestry and a
message the record of the message it was copied from; `restore` checks in both cases what can be
checked without the store.
-/

namespace GrokDesktop

open Except

/-! ## Validation -/

/-- Maximum byte length of names and titles. -/
def maxNameBytes : ℕ := 200
/-- Maximum UTF-8 byte length of a canonical conversation message. -/
def maxMessageBytes : ℕ := 1024 * 1024
/-- Maximum byte length of an automation prompt. -/
def maxPromptBytes : ℕ := 64 * 1024
/-- Highest position in a frozen provider context. -/
def maxSourceContextSequence : ℕ := 1000

/-- Invalid workspace entity input or lifecycle operation. -/
inductive WorkspaceError where
  | invalidField (field reason : String)
  | invalidLifecycle (entity : String)
  | clockRegression
  | revisionExhausted
  deriving DecidableEq

/-- The characters that user-visible text must not contain. -/
def unsupportedCharacter (singleLine : Bool) (c : Char) : Bool :=
  c = '\x00' || (singleLine && isControl c) ||
    (!singleLine && isControl c && !(c = '\n' || c = '\r' || c = '\t'))

/-- Checks that a text field is present, bounded and printable. -/
def validateText (field value : String) (minimum maximum : ℕ) (singleLine : Bool) :
    Except WorkspaceError Unit := do
  rejectIf ((trim value).utf8ByteSize < minimum) (.invalidField field "is required")
  rejectIf (maximum < value.utf8ByteSize) (.invalidField field "exceeds the size limit")
  rejectIf (value.toList.any (unsupportedCharacter singleLine))
    (.invalidField field "contains unsupported control characters")

/-- The error of an impossible ancestry or persisted shape. -/
def invalidLineage (field : String) : WorkspaceError :=
  .invalidField field "has invalid immutable lineage"

/-- Repeating a visible character gives a valid text. -/
theorem validateText_replicate {c : Char} {field : String} {n minimum maximum : ℕ}
    {singleLine : Bool} (hspace : isWhitespace c = false)
    (hsupp : unsupportedCharacter singleLine c = false)
    (hmin : minimum ≤ n * c.utf8Size) (hmax : n * c.utf8Size ≤ maximum) :
    validateText field (String.ofList (List.replicate n c)) minimum maximum singleLine
      = .ok () := by
  have hdrop : (List.replicate n c).dropWhile isWhitespace = List.replicate n c := by
    cases n with
    | zero => rfl
    | succ n => simp [hspace]
  have htrim : trim (String.ofList (List.replicate n c)) = String.ofList (List.replicate n c) := by
    simp [trim, trimChars, hdrop]
  simp only [validateText, bind_eq_ok, rejectIf_eq_ok, exists_const, not_lt, htrim,
    Utf8.utf8ByteSize_replicate]
  exact ⟨hmin, hmax, by simp [hsupp]⟩

/-! ## Projects -/

/-- Project lifecycle. -/
inductive ProjectState where
  | active
  | archived
  deriving DecidableEq

/-- Locally owned workspace and conversation container. -/
structure Project where
  id : ProjectId
  name : String
  description : String
  state : ProjectState
  revision : ℕ
  createdAt : UnixMillis
  updatedAt : UnixMillis
  deriving DecidableEq

/-! ## Threads -/

/-- Canonical message author. -/
inductive MessageRole where
  | system
  | user
  | assistant
  deriving DecidableEq

/-- Conversation thread lifecycle. -/
inductive ThreadState where
  | opened
  | archived
  deriving DecidableEq

/-- Explicit operation that created a child conversation thread. -/
inductive ConversationForkKind where
  | branch
  | editAndBranch
  | regenerate
  deriving DecidableEq

/-- Canonical role of the immediate source message for a fork operation. -/
def ConversationForkKind.sourceMessageRole : ConversationForkKind → MessageRole
  | branch | regenerate => .assistant
  | editAndBranch => .user

/-- Immutable reason one conversation thread exists. -/
inductive ConversationThreadOrigin where
  | original
  | fork (parentThreadId : ThreadId) (sourceTurnId : ConversationTurnId)
      (sourceMessageId : MessageId) (kind : ConversationForkKind)
  deriving DecidableEq

/-- Immutable ancestry of one conversation thread. -/
structure ConversationThreadLineage where
  rootThreadId : ThreadId
  origin : ConversationThreadOrigin
  forkDepth : ℕ
  deriving DecidableEq

namespace ConversationThreadLineage

/-- Creates lineage for a new root thread. -/
def original (ownerThreadId : ThreadId) : ConversationThreadLineage where
  rootThreadId := ownerThreadId
  origin := .original
  forkDepth := 0

/-- The ancestry rules that need no other record. -/
def wellFormed (lineage : ConversationThreadLineage) (ownerThreadId : ThreadId) : Bool :=
  match lineage.origin with
  | .original => lineage.rootThreadId = ownerThreadId && lineage.forkDepth = 0
  | .fork parentThreadId _ _ _ =>
      parentThreadId ≠ ownerThreadId && lineage.rootThreadId ≠ ownerThreadId &&
        (1 ≤ lineage.forkDepth && lineage.forkDepth ≤ 64) &&
        decide (lineage.forkDepth = 1) == decide (parentThreadId = lineage.rootThreadId)

/-- Rehydrates lineage after checking every self-contained ancestry rule. -/
def restore (lineage : ConversationThreadLineage) (ownerThreadId : ThreadId) :
    Except WorkspaceError ConversationThreadLineage := do
  rejectIf (!lineage.wellFormed ownerThreadId) (invalidLineage "thread.lineage")
  return lineage

/-- Derives one child lineage from a validated immediate parent. -/
def fork (ownerThreadId parentThreadId : ThreadId) (parentLineage : ConversationThreadLineage)
    (sourceTurnId : ConversationTurnId) (sourceMessageId : MessageId)
    (sourceMessageRole : MessageRole) (kind : ConversationForkKind) :
    Except WorkspaceError ConversationThreadLineage := do
  let _ ← parentLineage.restore parentThreadId
  rejectIf (parentThreadId = ownerThreadId ∨ kind.sourceMessageRole ≠ sourceMessageRole)
    (invalidLineage "thread.lineage")
  rejectIf (¬ parentLineage.forkDepth + 1 ≤ 64) (invalidLineage "thread.fork_depth")
  restore {
    rootThreadId := parentLineage.rootThreadId
    origin := .fork parentThreadId sourceTurnId sourceMessageId kind
    forkDepth := parentLineage.forkDepth + 1 } ownerThreadId

end ConversationThreadLineage

/-- Ordered conversation within a project. -/
structure Thread where
  id : ThreadId
  projectId : ProjectId
  title : String
  state : ThreadState
  lineage : ConversationThreadLineage
  revision : ℕ
  createdAt : UnixMillis
  updatedAt : UnixMillis
  deriving DecidableEq

namespace Thread

/-- Creates an open child thread with lineage derived from its parent. -/
def newFork (id : ThreadId) (projectId : ProjectId) (title : String) (parentThreadId : ThreadId)
    (parentLineage : ConversationThreadLineage) (sourceTurnId : ConversationTurnId)
    (sourceMessageId : MessageId) (sourceMessageRole : MessageRole) (kind : ConversationForkKind)
    (now : UnixMillis) : Except WorkspaceError Thread := do
  validateText "thread.title" title 1 maxNameBytes true
  let lineage ← ConversationThreadLineage.fork id parentThreadId parentLineage sourceTurnId
    sourceMessageId sourceMessageRole kind
  return {
    id := id
    projectId := projectId
    title := title
    state := .opened
    lineage := lineage
    revision := 0
    createdAt := now
    updatedAt := now }

/-- Rehydrates a thread after validating metadata, lifecycle, and lineage. -/
def restore (snapshot : Thread) : Except WorkspaceError Thread := do
  validateText "thread.title" snapshot.title 1 maxNameBytes true
  let _ ← snapshot.lineage.restore snapshot.id
  rejectIf (snapshot.updatedAt < snapshot.createdAt
    ∨ (snapshot.revision = 0
      ∧ (snapshot.state ≠ .opened ∨ snapshot.updatedAt ≠ snapshot.createdAt))
    ∨ (snapshot.state = .archived ∧ snapshot.revision = 0))
    (invalidLineage "thread.persisted_state")
  return snapshot

/-- What the check of a persisted thread says about its ancestry. -/
theorem wellFormed_of_restore {thread : Thread} (h : thread.restore.isOk = true) :
    thread.lineage.wellFormed thread.id = true := by
  obtain ⟨_, h⟩ := isOk_iff.1 h
  simp only [restore, ConversationThreadLineage.restore, bind_eq_ok, rejectIf_eq_ok,
    Bool.not_eq_true, Bool.not_eq_false'] at h
  obtain ⟨_, -, _, ⟨_, hwell, -⟩, -⟩ := h
  exact hwell

/-- The ancestry of a persisted thread is short. -/
theorem forkDepth_le_of_restore {thread : Thread} (h : thread.restore.isOk = true) :
    thread.lineage.forkDepth ≤ 64 := by
  have hwell := wellFormed_of_restore h
  unfold ConversationThreadLineage.wellFormed at hwell
  split at hwell
  all_goals
    simp only [Bool.and_eq_true, decide_eq_true_eq] at hwell
    omega

end Thread

/-! ## Messages -/

/-- Message lifecycle. -/
inductive MessageState where
  | active
  | deleted
  deriving DecidableEq

/-- Exact role one child-owned message plays in a forked context. -/
inductive ConversationMessageDerivationKind where
  | contextCopy
  | sourceAssistantCopy
  | editedUser
  deriving DecidableEq

/-- Immutable source record for one canonical conversation message. -/
inductive ConversationMessageDerivation where
  | original
  | fork (kind : ConversationMessageDerivationKind) (sourceMessageId : MessageId)
      (sourceTurnId : ConversationTurnId) (sourceContextSequence : Option ℕ)
  deriving DecidableEq

namespace ConversationMessageDerivation

/-- The self-contained rules of a derivation. -/
def wellFormed (derivation : ConversationMessageDerivation) (ownerMessageId : MessageId)
    (role : MessageRole) : Bool :=
  match derivation with
  | .original => true
  | .fork .contextCopy sourceMessageId _ (some sequence) =>
      sourceMessageId ≠ ownerMessageId &&
        (1 ≤ sequence && sequence ≤ maxSourceContextSequence)
  | .fork .sourceAssistantCopy sourceMessageId _ none =>
      sourceMessageId ≠ ownerMessageId && role = .assistant
  | .fork .editedUser sourceMessageId _ (some sequence) =>
      sourceMessageId ≠ ownerMessageId && role = .user &&
        (1 ≤ sequence && sequence ≤ maxSourceContextSequence)
  | .fork .. => false

/-- Rehydrates a derivation after validating its self-contained rules. -/
def restore (derivation : ConversationMessageDerivation) (ownerMessageId : MessageId)
    (role : MessageRole) : Except WorkspaceError ConversationMessageDerivation := do
  rejectIf (!derivation.wellFormed ownerMessageId role) (invalidLineage "message.derivation")
  return derivation

/-- Whether this message is an ordinary independently editable row. -/
def isOriginal : ConversationMessageDerivation → Bool
  | .original => true
  | .fork .. => false

lemma isOriginal_iff {derivation : ConversationMessageDerivation} :
    derivation.isOriginal = true ↔ derivation = .original := by
  cases derivation <;> simp [isOriginal]

end ConversationMessageDerivation

/-- One canonical ordered conversation message. -/
structure Message where
  id : MessageId
  threadId : ThreadId
  sequence : ℕ
  role : MessageRole
  content : String
  state : MessageState
  derivation : ConversationMessageDerivation
  revision : ℕ
  createdAt : UnixMillis
  updatedAt : UnixMillis
  deriving DecidableEq

namespace Message

/-- Creates an unsequenced active message for atomic insertion by a store. -/
def new (id : MessageId) (threadId : ThreadId) (role : MessageRole) (content : String)
    (now : UnixMillis) : Except WorkspaceError Message := do
  validateText "message.content" content 1 maxMessageBytes false
  return {
    id := id
    threadId := threadId
    sequence := 0
    role := role
    content := content
    state := .active
    derivation := .original
    revision := 0
    createdAt := now
    updatedAt := now }

/-- Creates one sequenced child-owned message with immutable derivation. -/
def newDerived (id : MessageId) (threadId : ThreadId) (sequence : ℕ) (role : MessageRole)
    (content : String) (sourceMessageId : MessageId) (sourceTurnId : ConversationTurnId)
    (sourceContextSequence : Option ℕ) (kind : ConversationMessageDerivationKind)
    (now : UnixMillis) : Except WorkspaceError Message := do
  rejectIf (sequence = 0) (invalidLineage "message.sequence")
  validateText "message.content" content 1 maxMessageBytes false
  let derivation ← ConversationMessageDerivation.restore
    (.fork kind sourceMessageId sourceTurnId sourceContextSequence) id role
  return {
    id := id
    threadId := threadId
    sequence := sequence
    role := role
    content := content
    state := .active
    derivation := derivation
    revision := 0
    createdAt := now
    updatedAt := now }

/-- Rehydrates a persisted message after validating lifecycle and derivation. -/
def restore (snapshot : Message) : Except WorkspaceError Message := do
  rejectIf (snapshot.sequence = 0 ∨ snapshot.updatedAt < snapshot.createdAt)
    (invalidLineage "message.persisted_state")
  let _ ← snapshot.derivation.restore snapshot.id snapshot.role
  match snapshot.state with
  | .active =>
      validateText "message.content" snapshot.content 1 maxMessageBytes false
      rejectIf (snapshot.revision = 0 ∧ snapshot.updatedAt ≠ snapshot.createdAt)
        (invalidLineage "message.persisted_state")
  | .deleted =>
      rejectIf (snapshot.content ≠ "" ∨ snapshot.revision = 0 ∨ !snapshot.derivation.isOriginal)
        (invalidLineage "message.persisted_state")
  rejectIf (!snapshot.derivation.isOriginal
    ∧ (snapshot.state ≠ .active ∨ snapshot.revision ≠ 0
      ∨ snapshot.updatedAt ≠ snapshot.createdAt)) (invalidLineage "message.persisted_state")
  return snapshot

end Message

end GrokDesktop
