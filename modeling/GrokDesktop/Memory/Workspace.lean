import GrokDesktop.Memory.Turns

/-!
# Workspace operations of the in-memory store

Projects, threads and messages are created under a command key: an exact repetition of the command
returns the entity it created.
-/

namespace GrokDesktop

open Except

variable (s : State)

/-- The entity an exact command created before. -/
def priorCommand (scope : String) (command : MutationCommand) :
    Except StoreError (Option String) := do
  rejectIf (scope ≠ command.scope) .conflict
  match s.workspaceCommands.lookup (scope, command.key) with
  | some record =>
      if record.fingerprint = command.fingerprint then return some record.entityId
      else .error .conflict
  | none => return none

/-- Remembers the entity a command created. -/
def State.recordCommand (command : MutationCommand) (entityId : String) : State :=
  { s with
    workspaceCommands := s.workspaceCommands.insert (command.scope, command.key) {
      fingerprint := command.fingerprint
      entityId := entityId } }

/-- The error of a command whose entity is gone. -/
def missingIdempotentResult : StoreError := .internal "idempotency result is missing"

/-- The error of a stored identifier that is not valid. -/
def invalidStoredId : IdError → StoreError
  | .empty => .internal "invalid stored id: empty"
  | .tooLong => .internal "invalid stored id: too long"
  | .controlCharacter => .internal "invalid stored id: control character"

/-- Replaces the entry of a key whose revision is the expected one by its successor. -/
def revisionedReplace {κ α : Type} [DecidableEq κ] (t : Table κ α) (id : κ) (value : α)
    (expectedRevision : ℕ) (revision : α → ℕ) : Except StoreError (Table κ α) := do
  let current ← okOr (t.lookup id) .notFound
  let nextRevision ← okOr (checkedAdd expectedRevision 1) .conflict
  rejectIf (revision current ≠ expectedRevision ∨ revision value ≠ nextRevision) .conflict
  return t.insert id value

/-- The entity that a repeated command created. -/
def replayedEntity {kind : IdKind} {α : Type} (t : Table (EntityId kind) α) (id : String) :
    Except StoreError α := do
  let id ← (EntityId.new id).mapError invalidStoredId
  okOr (t.lookup id) missingIdempotentResult

/-- Runs a creation unless its command was recorded before. -/
def createOnce {kind : IdKind} {α : Type} (s : State) (scope : String) (command : MutationCommand)
    (t : Table (EntityId kind) α) (create : Except StoreError (α × State)) : StoreResult α :=
  match priorCommand s scope command with
  | .error e => (.error e, s)
  | .ok (some id) => (replayedEntity t id, s)
  | .ok none =>
      match create with
      | .error e => (.error e, s)
      | .ok (a, s') => (.ok a, s')

def createProject (project : Project) (command : MutationCommand) : StoreResult Project :=
  createOnce s "create_project" command s.projects do
    rejectIf (s.projects.contains project.id) .conflict
    return (project, { s with
      projects := s.projects.insert project.id project }.recordCommand command project.id.value)

def createThread (thread : Thread) (command : MutationCommand) : StoreResult Thread :=
  createOnce s "create_thread" command s.threads do
    let project ← okOr (s.projects.lookup thread.projectId) .notFound
    rejectIf (project.state ≠ .active ∨ s.threads.contains thread.id ∨ !thread.restore.isOk
      ∨ thread.lineage.origin ≠ .original) .conflict
    return (thread, { s with
      threads := s.threads.insert thread.id thread }.recordCommand command thread.id.value)

/-- Creates a message at the end of an open thread that has no turn in progress. -/
def createMessage (message : Message) (command : MutationCommand) : StoreResult Message :=
  createOnce s "create_message" command s.messages do
    let thread ← okOr (s.threads.lookup message.threadId) .notFound
    let project ← okOr (s.projects.lookup thread.projectId) .notFound
    rejectIf (thread.state ≠ .opened ∨ project.state ≠ .active ∨ s.messages.contains message.id
      ∨ !message.derivation.isOriginal
      ∨ (s.threadTurns message.threadId).any fun turn => !turn.state.isTerminal) .conflict
    let sequence ← okOr (s.nextSequence message.threadId) (.internal "message sequence exhausted")
    let message := { message with sequence := sequence }
    return (message, { s with
      messages := s.messages.insert message.id message }.recordCommand command message.id.value)

/-- A page of listed values after the one with the given identifier. -/
def afterPosition {α : Type} (values : List α) (after : Option String) (limit : ℕ)
    (id : α → String) : Except StoreError (List α) := do
  let start ← match after with
    | some cursor =>
        (okOr (values.findIdx? fun value => id value = cursor) StoreError.notFound).map (· + 1)
    | none => .ok 0
  return (values.drop start).take limit

/-- Loads a project. -/
def getProject (id : ProjectId) : Except StoreError Project :=
  okOr (s.projects.lookup id) .notFound

/-- Loads a thread. -/
def getThread (id : ThreadId) : Except StoreError Thread :=
  okOr (s.threads.lookup id) .notFound

end GrokDesktop
