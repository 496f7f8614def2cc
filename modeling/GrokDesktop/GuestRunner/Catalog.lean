import Mathlib.Logic.Relation
import GrokDesktop.Domain.Basic
import GrokDesktop.Lib.Except
import GrokDesktop.Lib.Hex
import GrokDesktop.Lib.Table

/-!
# Applying a catalog in the guest runner

The runner takes a signed catalog only if it is not older than the one it has: `ApplyCatalog`
compares the revision and the digest of the offered catalog with the manager's own copy of the
catalog identity, writes the new identity to a file of the state directory, and only then puts the
catalog in force. A restart reads the identity back from the file.

The file is written in several steps. A step that fails ends the call, and a failure after the
rename leaves the new identity in the file and the old one in the manager; the model keeps both.
The verdict of the verifier on the offered bytes, the end of the shutdown of the running adapters
and the end of each step of the write are chosen by the environment.
-/

namespace GrokDesktop.GuestRunner

open Except

/-! ## Digests as text -/

/-- `digestPattern`: sixty-four lower-case hexadecimal digits. -/
def digestPattern (text : String) : Bool :=
  text.toList.length = 64 && text.toList.all Hex.isDigit

/-- The text of a digest that `ApplyCatalog` compares and writes. -/
def digestText [Sha256Library] (data : List UInt8) : String :=
  Hex.encode (bigEndian 32 (Sha256Library.digest data).toNat)

/-- The text of a digest matches the pattern of the loader. -/
theorem digestPattern_digestText [Sha256Library] (data : List UInt8) :
    digestPattern (digestText data) = true := by
  have hleng : (digestText data).toList.length = 64 := by
    rw [digestText, Hex.length_encode, bigEndian, List.length_map, List.length_range]
  simp only [digestPattern, hleng, decide_true, Bool.true_and, List.all_eq_true]
  exact fun c hc => Hex.isDigit_of_mem_encode hc

/-! ## The catalog and its persisted identity -/

/-- `catalogState`: the identity of a catalog, as the state file keeps it. -/
structure CatalogState where
  version : ℕ
  revision : ℕ
  sha256 : String
  deriving DecidableEq

/-- `VerifiedCatalog`: the verifier returns none with revision 0. -/
structure VerifiedCatalog (Bundle : Type) where
  revision : ℕ
  bundles : Table String Bundle
  revision_ne_zero : revision ≠ 0

/-- `loadCatalogState`. An unreadable file is one whose read fails for another reason than that it
does not exist. -/
def loadCatalogState (readable : Bool) (file : Option CatalogState) :
    Except String CatalogState :=
  if !readable then .error "catalog state could not be read"
  else match file with
  | none => .ok { version := 1, revision := 0, sha256 := "" }
  | some state => do
    rejectIf (state.version ≠ 1 ∨ state.revision = 0 ∨ !digestPattern state.sha256)
      "catalog state is invalid"
    pure state

/-- How the steps of one call of `persistCatalogState` end. A rename that reports an error may
have taken effect all the same. -/
structure PersistSteps where
  encoded : Bool
  staged : Bool
  permitted : Bool
  written : Bool
  published : Bool
  renamed : Bool
  opened : Bool
  synchronized : Bool

/-- `persistCatalogState`: the result of the call and the file it leaves. -/
def persistCatalogState (steps : PersistSteps) (state : CatalogState)
    (file : Option CatalogState) : Except String Unit × Option CatalogState :=
  if !steps.encoded then (.error "catalog state could not be encoded", file)
  else if !steps.staged then (.error "catalog state could not be staged", file)
  else if !steps.permitted then (.error "catalog state permissions could not be set", file)
  else if !steps.written then (.error "catalog state could not be persisted", file)
  else if !steps.published then
    (.error "catalog state could not be published", if steps.renamed then some state else file)
  else if !steps.opened then
    (.error "catalog state directory could not be opened", some state)
  else if !steps.synchronized then
    (.error "catalog state directory could not be synchronized", some state)
  else (.ok (), some state)

/-! ## The manager -/

/-- The fields of `Manager` that a catalog update reads and writes. -/
structure Manager (Bundle : Type) where
  closed : Bool
  updating : Bool
  catalog : Option (VerifiedCatalog Bundle)
  catalogID : CatalogState

/-- A running guest: its manager, and the state file. -/
structure Runner (Bundle : Type) where
  manager : Manager Bundle
  file : Option CatalogState

/-- One call of `ApplyCatalog` with what its environment does: the verdict of the verifier, how
the wait for the pending starts and for the running adapters ends, and the steps of the write. -/
structure ApplyCall (Bundle : Type) where
  data : List UInt8
  verified : Except String (VerifiedCatalog Bundle)
  stopped : Except String Unit
  steps : PersistSteps

variable {Bundle : Type}

/-- `NewManager`, on the fields of the catalog. -/
def newManager (readable : Bool) (file : Option CatalogState) :
    Except String (Manager Bundle) := do
  let state ← loadCatalogState readable file
  pure { closed := false, updating := false, catalog := none, catalogID := state }

section Apply

variable [Sha256Library]

/-- The identity under which an offered catalog is persisted. -/
def offeredState (data : List UInt8) (verified : VerifiedCatalog Bundle) : CatalogState :=
  { version := 1, revision := verified.revision, sha256 := digestText data }

/-- The check of `ApplyCatalog` against rollback and reuse of a revision. -/
def rollback (catalogID : CatalogState) (verified : VerifiedCatalog Bundle) (digest : String) :
    Bool :=
  verified.revision < catalogID.revision ||
    (verified.revision = catalogID.revision && catalogID.sha256 ≠ "" &&
      catalogID.sha256 ≠ digest)

/-- The runner with the offered catalog in force and the given file. -/
def Runner.install (runner : Runner Bundle) (data : List UInt8) (verified : VerifiedCatalog Bundle)
    (file : Option CatalogState) : Runner Bundle where
  manager := { runner.manager with
    catalog := some verified
    catalogID := offeredState data verified
    updating := false }
  file := file

/-- The part of `ApplyCatalog` after the adapters have stopped: the write, and on success the new
catalog in force. -/
def publishCatalog (steps : PersistSteps) (data : List UInt8) (verified : VerifiedCatalog Bundle)
    (runner : Runner Bundle) : Except String Unit × Runner Bundle :=
  match persistCatalogState steps (offeredState data verified) runner.file with
  | (.error e, file) => (.error e, { runner with file := file })
  | (.ok (), file) => (.ok (), runner.install data verified file)

/-- `Manager.ApplyCatalog`. -/
def applyCatalog (call : ApplyCall Bundle) (runner : Runner Bundle) :
    Except String Unit × Runner Bundle :=
  match call.verified with
  | .error _ => (.error "catalog verification failed", runner)
  | .ok verified =>
    let manager := runner.manager
    if manager.closed || manager.updating then
      (.error "runner is not accepting a catalog update", runner)
    else if rollback manager.catalogID verified (digestText call.data) then
      (.error "catalog rollback or revision reuse was rejected", runner)
    else if verified.revision = manager.catalogID.revision &&
        manager.catalogID.sha256 = digestText call.data && manager.catalog.isSome then
      (.ok (), runner)
    else match call.stopped with
    | .error e => (.error e, runner)
    | .ok () => publishCatalog call.steps call.data verified runner

/-- What a write can make of the runner: the catalog in force with its identity in the file, an
error with the runner as it was, or an error with the new identity in the file only. -/
theorem publishCatalog_cases (steps : PersistSteps) (data : List UInt8)
    (verified : VerifiedCatalog Bundle) (runner : Runner Bundle) :
    publishCatalog steps data verified runner =
        (.ok (), runner.install data verified (some (offeredState data verified))) ∨
      ∃ e, publishCatalog steps data verified runner = (.error e, runner) ∨
        publishCatalog steps data verified runner =
          (.error e, { runner with file := some (offeredState data verified) }) := by
  -- a failed write leaves the old file or the new one
  unfold publishCatalog persistCatalogState
  split_ifs <;> simp

/-- What a call of `ApplyCatalog` can do: reject the catalog, find it in force already, or go on to
the write of a catalog that the manager's own identity admits. -/
theorem applyCatalog_cases (call : ApplyCall Bundle) (runner : Runner Bundle) :
    (∃ e, applyCatalog call runner = (.error e, runner)) ∨
      ∃ verified, call.verified = .ok verified ∧
        rollback runner.manager.catalogID verified (digestText call.data) = false ∧
        ((applyCatalog call runner = (.ok (), runner) ∧
            verified.revision = runner.manager.catalogID.revision ∧
            runner.manager.catalogID.sha256 = digestText call.data ∧
            runner.manager.catalog.isSome = true) ∨
          applyCatalog call runner =
            publishCatalog call.steps call.data verified runner) := by
  unfold applyCatalog
  cases hver : call.verified with
  | error e => exact .inl ⟨_, rfl⟩
  | ok verified =>
    dsimp only
    split_ifs with hclos hroll hsame
    · exact .inl ⟨_, rfl⟩
    · exact .inl ⟨_, rfl⟩
    · simp only [Bool.and_eq_true, decide_eq_true_eq] at hsame
      exact .inr ⟨verified, rfl, by simpa using hroll,
        .inl ⟨rfl, hsame.1.1, hsame.1.2, hsame.2⟩⟩
    · cases hstop : call.stopped with
      | error e => exact .inl ⟨e, rfl⟩
      | ok u => exact .inr ⟨verified, rfl, by simpa using hroll, .inr rfl⟩

end Apply

end GrokDesktop.GuestRunner
