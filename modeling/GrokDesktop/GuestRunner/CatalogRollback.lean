import GrokDesktop.GuestRunner.Catalog

/-!
# Rollback protection of the catalog

`ApplyCatalog` makes its check against the manager's copy of the catalog identity. The copy is what
the state file holds after a restart and after every call whose write succeeds or fails early. A
write that fails after its rename leaves the file ahead of the copy, and from then on the check
admits catalogs that the file forbids.

The protection holds in every run whose calls are made while the two agree, and a state in which
they do not agree always admits a call that breaks it.
-/

namespace GrokDesktop.GuestRunner

open Except

variable {Bundle : Type}

/-! ## The protection -/

/-- The later file has a revision at least as high as the earlier one, and the same digest when the
revision is the same. -/
def Protects (earlier later : Option CatalogState) : Prop :=
  ∀ a, earlier = some a →
    ∃ b, later = some b ∧ a.revision ≤ b.revision ∧ (a.revision = b.revision → a.sha256 = b.sha256)

lemma Protects.refl (file : Option CatalogState) : Protects file file :=
  fun a ha => ⟨a, ha, le_rfl, fun _ => rfl⟩

lemma Protects.trans {f g h : Option CatalogState} (hfg : Protects f g) (hgh : Protects g h) :
    Protects f h := by
  intro a ha
  obtain ⟨b, hb, hab, hdig⟩ := hfg a ha
  obtain ⟨c, hc, hbc, hdig'⟩ := hgh b hb
  refine ⟨c, hc, hab.trans hbc, fun hac => ?_⟩
  exact (hdig (by omega)).trans (hdig' (by omega))

/-- The manager's identity of the catalog is the one a restart would read from the file. -/
def Agrees (runner : Runner Bundle) : Prop :=
  loadCatalogState true runner.file = .ok runner.manager.catalogID

variable {runner : Runner Bundle} {state : CatalogState} {data : List UInt8}

lemma ne_empty_of_digestPattern {text : String} (h : digestPattern text = true) : text ≠ "" := by
  rintro rfl
  exact absurd h (by decide)

/-- The loader reads the file as it is, or an identity without a catalog when there is none. -/
lemma loadCatalogState_eq_ok {readable : Bool} {file : Option CatalogState}
    (h : loadCatalogState readable file = .ok state) :
    loadCatalogState true file = .ok state ∧
      (file = none ∧ state = { version := 1, revision := 0, sha256 := "" } ∨
        file = some state ∧ state.version = 1 ∧ digestPattern state.sha256 = true) := by
  cases readable with
  | false => simp [loadCatalogState] at h
  | true =>
    refine ⟨h, ?_⟩
    cases file with
    | none =>
      simp only [loadCatalogState, Bool.not_true, Bool.false_eq_true, if_false,
        Except.ok.injEq] at h
      exact .inl ⟨rfl, h.symm⟩
    | some persisted =>
      simp only [loadCatalogState, Bool.not_true, Bool.false_eq_true, if_false, bind_eq_ok,
        rejectIf_eq_ok, return_eq_ok] at h
      obtain ⟨-, hval, rfl⟩ := h
      simp only [not_or, not_not] at hval
      exact .inr ⟨rfl, hval.1, by simpa using hval.2.2⟩

/-- While the manager agrees with the file, the file is absent or holds the manager's identity. -/
lemma Agrees.file_eq (h : Agrees runner) (hfile : runner.file = some state) :
    state = runner.manager.catalogID := by
  obtain ⟨-, ⟨hnone, -⟩ | ⟨hsome, -⟩⟩ := loadCatalogState_eq_ok h
  · rw [hnone] at hfile
    cases hfile
  · exact Option.mem_unique hfile hsome

section

variable [Sha256Library]

/-- After a successful call the file and the manager hold the identity of the offered catalog, and
the catalog in force is the offered one or was in force under that identity before. -/
def InForce (call : ApplyCall Bundle) (before after : Runner Bundle) : Prop :=
  ∃ verified catalog, call.verified = .ok verified ∧
    after.file = some (offeredState call.data verified) ∧
    after.manager.catalogID = offeredState call.data verified ∧
    after.manager.catalog = some catalog ∧ catalog.revision = verified.revision ∧
    (catalog = verified ∨
      before.manager.catalog = some catalog ∧
        before.manager.catalogID = offeredState call.data verified)

/-- One call keeps the file protected, and is followed by the persisted catalog in force when it
succeeds. -/
structure CallProtected (call : ApplyCall Bundle) (runner : Runner Bundle) : Prop where
  file : Protects runner.file (applyCatalog call runner).2.file
  inForce : (applyCatalog call runner).1 = .ok () → InForce call runner (applyCatalog call runner).2

/-- A step of a run: a call of `ApplyCatalog` in a state that meets the guard, or a restart. -/
inductive Step (guard : Runner Bundle → Prop) : Runner Bundle → Runner Bundle → Prop
  | apply (call : ApplyCall Bundle) {runner : Runner Bundle} (hguard : guard runner) :
      Step guard runner (applyCatalog call runner).2
  | restart {runner : Runner Bundle} {readable : Bool} {manager : Manager Bundle}
      (hload : newManager readable runner.file = .ok manager) :
      Step guard runner { manager := manager, file := runner.file }

/-- A run whose calls are all made in states that meet the guard. -/
def Reaches (guard : Runner Bundle → Prop) : Runner Bundle → Runner Bundle → Prop :=
  Relation.ReflTransGen (Step guard)

/-- A runner that has just come up on its state file. -/
def Starts (runner : Runner Bundle) : Prop :=
  ∃ readable, newManager readable runner.file = .ok runner.manager

/-- The protection over every run whose calls meet the guard. -/
structure RollbackProtected (guard : Runner Bundle → Prop) : Prop where
  files : ∀ start earlier later : Runner Bundle, Starts start → Reaches guard start earlier →
    Reaches guard earlier later → Protects earlier.file later.file
  inForce : ∀ start runner : Runner Bundle, Starts start → Reaches guard start runner →
    guard runner → ∀ call, (applyCatalog call runner).1 = .ok () →
      InForce call runner (applyCatalog call runner).2

/-! ## What every run keeps -/

/-- What holds of the manager and the file in every state of every run: a loadable identity, the
catalog in force with its revision, and a file that is not behind the manager. -/
structure Sound (runner : Runner Bundle) : Prop where
  opened : runner.manager.closed = false
  settled : runner.manager.updating = false
  version : runner.manager.catalogID.version = 1
  digest : runner.manager.catalogID.sha256 = "" → runner.manager.catalogID.revision = 0
  revision : ∀ catalog, runner.manager.catalog = some catalog →
    catalog.revision = runner.manager.catalogID.revision
  ahead : Agrees runner ∨
    ∃ state, runner.file = some state ∧ runner.manager.catalogID.revision < state.revision

lemma loadCatalogState_offered (data : List UInt8) (verified : VerifiedCatalog Bundle) :
    loadCatalogState true (some (offeredState data verified)) =
      .ok (offeredState data verified) := by
  have hpatt := digestPattern_digestText data
  simp [loadCatalogState, offeredState, rejectIf, verified.revision_ne_zero, hpatt]

omit [Sha256Library] in
/-- A runner that has just come up is sound, and agrees with its file. -/
lemma sound_of_newManager {readable : Bool} {file : Option CatalogState}
    {manager : Manager Bundle} (h : newManager readable file = .ok manager) :
    Sound { manager := manager, file := file } := by
  obtain ⟨state, hload, hman⟩ := bind_eq_ok.1 h
  obtain rfl := Except.ok.inj hman
  obtain ⟨htrue, hsta⟩ := loadCatalogState_eq_ok hload
  refine ⟨rfl, rfl, ?_, ?_, ?_, .inl htrue⟩
  · rcases hsta with ⟨-, rfl⟩ | ⟨-, hvers, -⟩
    · rfl
    · exact hvers
  · rcases hsta with ⟨-, rfl⟩ | ⟨-, -, hpatt⟩
    · exact fun _ => rfl
    · exact fun hemp => absurd hemp (ne_empty_of_digestPattern hpatt)
  · intro catalog hcat
    cases hcat

variable {verified : VerifiedCatalog Bundle}

/-- The manager's identity admits only catalogs that are not behind it. -/
lemma admitted_of_not_rollback {id : CatalogState}
    (hdig : id.sha256 = "" → id.revision = 0) (hvers : id.version = 1)
    (h : rollback id verified (digestText data) = false) :
    id.revision < verified.revision ∨ id = offeredState data verified := by
  simp only [rollback, Bool.or_eq_false_iff, Bool.and_eq_false_iff, decide_eq_false_iff_not,
    not_lt, not_not] at h
  obtain ⟨hle, (hne | hemp) | hsame⟩ := h
  · exact .inl (lt_of_le_of_ne hle (Ne.symm hne))
  · exact .inl (by have := verified.revision_ne_zero; have := hdig hemp; omega)
  · rcases hle.lt_or_eq with hlt | heq
    · exact .inl hlt
    · refine .inr ?_
      obtain ⟨version, revision, sha256⟩ := id
      dsimp only at hvers heq hsame
      rw [offeredState, hvers, heq, hsame]

/-- A call keeps the runner sound: a write puts into the file an identity that is not behind the
manager's. -/
theorem Sound.applyCatalog (h : Sound runner) (call : ApplyCall Bundle) :
    Sound (applyCatalog call runner).2 := by
  obtain ⟨e, he⟩ | ⟨verified, -, hoffer, ⟨hsame, -⟩ | hpubl⟩ := applyCatalog_cases call runner
  · rw [he]
    exact h
  · rw [hsame]
    exact h
  rw [hpubl]
  obtain hok | ⟨e, hkept | hlate⟩ :=
    publishCatalog_cases call.steps call.data verified runner
  · rw [hok]
    refine ⟨h.opened, rfl, rfl, ?_, ?_, .inl (loadCatalogState_offered call.data verified)⟩
    · intro hemp
      exact absurd hemp (ne_empty_of_digestPattern (digestPattern_digestText call.data))
    · intro catalog hcat
      obtain rfl := Option.some.inj hcat
      rfl
  · rw [hkept]
    exact h
  · rw [hlate]
    refine ⟨h.opened, h.settled, h.version, h.digest, h.revision, ?_⟩
    rcases admitted_of_not_rollback h.digest h.version hoffer with hlt | heq
    · exact .inr ⟨_, rfl, hlt⟩
    · refine .inl ?_
      rw [Agrees, heq]
      exact loadCatalogState_offered call.data verified

/-- Every state of every run is sound. -/
lemma Sound.of_reaches {guard : Runner Bundle → Prop} {start : Runner Bundle}
    (hstart : Starts start) (h : Reaches guard start runner) : Sound runner := by
  induction h with
  | refl =>
    obtain ⟨readable, hload⟩ := hstart
    exact sound_of_newManager hload
  | tail _ hstep ih =>
    cases hstep with
    | apply call _ => exact ih.applyCatalog call
    | restart hload => exact sound_of_newManager hload

/-! ## The protection of one call -/

/-- What the manager's identity admits may replace the file that agrees with it. -/
lemma protects_offered (h : Sound runner) (hagr : Agrees runner)
    (hoffer : rollback runner.manager.catalogID verified (digestText data) = false) :
    Protects runner.file (some (offeredState data verified)) := by
  intro state hsta
  refine ⟨_, rfl, ?_⟩
  rw [hagr.file_eq hsta]
  rcases admitted_of_not_rollback h.digest h.version hoffer with hlt | heq
  · exact ⟨hlt.le, fun hrev => absurd hrev hlt.ne⟩
  · rw [heq]
    exact ⟨le_rfl, fun _ => rfl⟩

/-- A call made while manager and file agree is protected. -/
lemma callProtected_of_agrees (h : Sound runner) (hagr : Agrees runner)
    (call : ApplyCall Bundle) : CallProtected call runner := by
  obtain ⟨e, he⟩ | ⟨verified, hver, hoffer, ⟨hsame, hrev, hdig, hcat⟩ | hpubl⟩ :=
    applyCatalog_cases call runner
  · refine ⟨?_, ?_⟩
    · rw [he]
      exact Protects.refl _
    · rw [he]
      exact fun hok => absurd hok (by simp)
  · have hid : runner.manager.catalogID = offeredState call.data verified := by
      rcases admitted_of_not_rollback h.digest h.version hoffer with hlt | heq
      · omega
      · exact heq
    obtain ⟨catalog, hcat⟩ := Option.isSome_iff_exists.1 hcat
    refine ⟨?_, fun _ => ?_⟩
    · rw [hsame]
      exact Protects.refl _
    · rw [hsame]
      refine ⟨verified, catalog, hver, ?_, hid, hcat, ?_, .inr ⟨hcat, hid⟩⟩
      · obtain ⟨-, ⟨-, hnone⟩ | ⟨hfile, -⟩⟩ := loadCatalogState_eq_ok hagr
        · rw [hnone] at hrev
          exact absurd hrev verified.revision_ne_zero
        · rw [hfile, hid]
      · rw [h.revision catalog hcat, hrev]
  · obtain hok | ⟨e, hkept | hlate⟩ :=
      publishCatalog_cases call.steps call.data verified runner
    · refine ⟨?_, fun _ => ?_⟩
      · rw [hpubl, hok]
        exact protects_offered h hagr hoffer
      · rw [hpubl, hok]
        exact ⟨verified, verified, hver, rfl, rfl, rfl, rfl, .inl rfl⟩
    · refine ⟨?_, ?_⟩
      · rw [hpubl, hkept]
        exact Protects.refl _
      · rw [hpubl, hkept]
        exact fun hok => absurd hok (by simp)
    · refine ⟨?_, ?_⟩
      · rw [hpubl, hlate]
        exact protects_offered h hagr hoffer
      · rw [hpubl, hlate]
        exact fun hok => absurd hok (by simp)

/-- The protection holds in every run whose calls are made while manager and file agree. -/
lemma rollbackProtected_agrees : RollbackProtected (Agrees : Runner Bundle → Prop) where
  files start earlier later hstart hearlier hlater := by
    have hsound : ∀ runner, Reaches Agrees earlier runner → Sound runner := fun runner hrunn =>
      Sound.of_reaches hstart (hearlier.trans hrunn)
    induction hlater with
    | refl => exact Protects.refl _
    | tail hreach hstep ih =>
      refine ih.trans ?_
      cases hstep with
      | apply call hagr => exact (callProtected_of_agrees (hsound _ hreach) hagr call).file
      | restart _ => exact Protects.refl _
  inForce start runner hstart hrunn hagrees call :=
    (callProtected_of_agrees (Sound.of_reaches hstart hrunn) hagrees call).inForce

/-! ## When the file is ahead -/

/-- Every step of the write succeeds. -/
def PersistSteps.all : PersistSteps where
  encoded := true
  staged := true
  permitted := true
  written := true
  published := true
  renamed := true
  opened := true
  synchronized := true

/-- While the file is ahead of the manager, a catalog with the file's revision and another digest is
admitted, and written over it. -/
lemma not_callProtected_of_ahead (h : Sound runner) (hfile : runner.file = some state)
    (hahead : runner.manager.catalogID.revision < state.revision)
    (hdata : digestText data ≠ state.sha256) : ∃ call, ¬ CallProtected call runner := by
  let verified : VerifiedCatalog Bundle :=
    { revision := state.revision, bundles := ∅, revision_ne_zero := by omega }
  let call : ApplyCall Bundle :=
    { data := data, verified := .ok verified, stopped := .ok (), steps := .all }
  refine ⟨call, fun hcall => ?_⟩
  have happly : (applyCatalog call runner).2.file = some (offeredState data verified) := by
    have hlow : ¬ state.revision < runner.manager.catalogID.revision := by omega
    have hoth : state.revision ≠ runner.manager.catalogID.revision := by omega
    simp [applyCatalog, call, verified, h.opened, h.settled, rollback, hlow, hoth,
      publishCatalog, persistCatalogState, PersistSteps.all, Runner.install]
  obtain ⟨later, hlat, -, hdig⟩ := hcall.file state hfile
  rw [happly] at hlat
  obtain rfl := Option.some.inj hlat
  exact hdata (hdig rfl).symm

/-- The catalog is protected against rollback in every run whose calls are made while the manager's
identity is the one in the file, and in every state of every run the calls are all protected exactly
when it is. -/
theorem catalog_rollback_protection (hdigests : ∃ a b : List UInt8, digestText a ≠ digestText b) :
    RollbackProtected (Agrees : Runner Bundle → Prop) ∧
      ∀ start runner : Runner Bundle, Starts start → Reaches (fun _ => True) start runner →
        ((∀ call, CallProtected call runner) ↔ Agrees runner) := by
  refine ⟨rollbackProtected_agrees, fun start runner hstart hrunner => ?_⟩
  have hsound := Sound.of_reaches hstart hrunner
  refine ⟨fun hall => ?_, fun hagr call => callProtected_of_agrees hsound hagr call⟩
  rcases hsound.ahead with hagr | ⟨state, hfile, hahead⟩
  · exact hagr
  · obtain ⟨a, b, hab⟩ := hdigests
    have hoth : ∃ data, digestText data ≠ state.sha256 := by
      by_cases ha : digestText a = state.sha256
      · exact ⟨b, fun hb => hab (ha.trans hb.symm)⟩
      · exact ⟨a, ha⟩
    obtain ⟨data, hdata⟩ := hoth
    obtain ⟨call, hcall⟩ := not_callProtected_of_ahead hsound hfile hahead hdata
    exact absurd (hall call) hcall

end

/-! ## A write that fails after its rename -/

namespace UnsyncedDirectory

/-- A stand-in for the hash that tells the two sample catalogs apart. -/
local instance sha256 : Sha256Library := ⟨fun data => BitVec.ofNat 256 data.length⟩

/-- A call that offers a catalog of the given revision and size. -/
def offer (revision size : ℕ) (h : revision ≠ 0) (steps : PersistSteps) : ApplyCall Unit where
  data := List.replicate size 0
  verified := .ok { revision := revision, bundles := ∅, revision_ne_zero := h }
  stopped := .ok ()
  steps := steps

/-- A runner without a state file. -/
def fresh : Runner Unit where
  manager :=
    { closed := false
      updating := false
      catalog := none
      catalogID := { version := 1, revision := 0, sha256 := "" } }
  file := none

lemma starts_fresh : Starts fresh := ⟨true, rfl⟩

/-- The runner after revision 2 was renamed into place and the directory could not be synchronized:
the call has failed. -/
def ahead : Runner Unit :=
  (applyCatalog (offer 2 2 (by decide) { PersistSteps.all with synchronized := false }) fresh).2

/-- The runner after revision 1 was offered to it. -/
def rolledBack : Runner Unit := (applyCatalog (offer 1 1 (by decide) .all) ahead).2

lemma reaches_ahead : Reaches (fun _ => True) fresh ahead :=
  .single (.apply _ trivial)

lemma reaches_rolledBack : Reaches (fun _ => True) ahead rolledBack :=
  .single (.apply _ trivial)

/-- Revision 2 was in the file, and revision 1 is written over it. -/
theorem revision_rolled_back : ¬ RollbackProtected (fun _ : Runner Unit => True) := by
  intro h
  obtain ⟨state, hsta, hle, -⟩ :=
    h.files fresh ahead rolledBack starts_fresh reaches_ahead reaches_rolledBack _ rfl
  obtain rfl := Option.some.inj hsta
  exact absurd hle (by decide)

/-- The runner after revision 1 was persisted. -/
def persisted : Runner Unit := (applyCatalog (offer 1 1 (by decide) .all) fresh).2

/-- A call whose write fails. -/
def unwritten : ApplyCall Unit := offer 2 2 (by decide) { PersistSteps.all with written := false }

lemma reaches_unwritten : Reaches (fun _ => True) fresh (applyCatalog unwritten persisted).2 :=
  .tail (.single (.apply _ trivial)) (.apply _ trivial)

/-- The protection after revision 1 was persisted and a call for revision 2 has failed. -/
theorem catalog_rollback_protection_persisted :
    (∃ a b : List UInt8, digestText a ≠ digestText b) ∧
      persisted.file.map CatalogState.revision = some 1 ∧
      (applyCatalog unwritten persisted).1.isOk = false ∧
      ((∀ call, CallProtected call (applyCatalog unwritten persisted).2) ↔
        Agrees (applyCatalog unwritten persisted).2) := by
  have hdigests : ∃ a b : List UInt8, digestText a ≠ digestText b := ⟨[], [0], by decide +kernel⟩
  exact ⟨hdigests, rfl, by decide +kernel,
    (catalog_rollback_protection hdigests).2 fresh _ starts_fresh reaches_unwritten⟩

end UnsyncedDirectory

end GrokDesktop.GuestRunner
