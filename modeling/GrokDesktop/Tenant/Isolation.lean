import GrokDesktop.Domain.Bytes
import GrokDesktop.Tenant.Steps

/-!
# Isolation of the tenants

In every interleaving of `Resolve` and `Close` the table is bounded, a user has at most one backend
that has not closed, and a caller is given a backend that was created for its user, over the
storage of that user. Only a call that found the manager open is given one.

When a call of `Close` has returned without an error, every backend was asked to close. One that
came after `Close` had begun is asked once and may fail; every other one has closed. A backend can
be asked more than once: a `Close` that fails half way leaves the table as it is, and the next one
starts over.
-/

namespace GrokDesktop.Tenant

open Resumption Multiset Option
open TenantLibrary (toUpper join join_inj)

section

variable [TenantLibrary] [Sha256Library] (config : Config)

/-! ## The sections together -/

/-- A service is returned to a call that found the manager open, from the entry of its user, and
works on the storage of its user. -/
def DeliveredAt (pre : List (Entry TenantInterface TenantState))
    (e : Entry TenantInterface TenantState) : Prop :=
  ∀ sid entry service, e.event.1 = .deliver sid entry service →
    Entered pre (TenantLibrary.toUpper sid) entry ∧
      ∃ b, e.before.backends[service]? = some b ∧ b.key = TenantLibrary.toUpper sid ∧
        b.config.imageRoot = (storageRoots config.dataRoot sid).imageRoot ∧
        b.config.workspaceRoot = (storageRoots config.dataRoot sid).workspaceRoot

/-- Every service of the trace was returned so. -/
def Delivered (tr : List (Entry TenantInterface TenantState)) : Prop :=
  ∀ pre e post, tr = pre ++ e :: post → DeliveredAt config pre e

variable {config} {s s' : TenantState} {tr : List (Entry TenantInterface TenantState)}
  {hand : Hand} {others : Multiset Hand}

variable {sid sid' : String}

variable {key : String}

/-- The first section of `Resolve`. -/
theorem Sound.enter (h : Sound config s tr (.idle ::ₘ others)) (key : String) :
    Sound config (s.enter config.maxTenants key).2
      (tr ++ [⟨s, TenantCall.enter key, (s.enter config.maxTenants key).1⟩])
      (Hand.idle.follow (.enter key) (s.enter config.maxTenants key).1 ::ₘ others) := by
  rw [TenantState.enter]
  by_cases hclo : s.closed = true
  · rw [if_pos hclo]
    exact h.pass _ rfl rfl rfl rfl trivial
  rw [if_neg hclo]
  have hopen : s.closed = false := by simpa using hclo
  cases hget : s.entries.lookup key with
  | some entry =>
    have hent : EnteredAt ⟨s, TenantCall.enter key, Admission.existing entry⟩ key entry :=
      ⟨.inl rfl, hopen⟩
    exact h.pass _ rfl rfl rfl rfl ⟨⟨_, by simp, hent⟩, .inl hget⟩
  | none =>
    by_cases hfull : config.maxTenants ≤ s.entries.entries.length
    · simp only [if_pos hfull]
      exact h.pass _ rfl rfl rfl rfl trivial
    · simp only [if_neg hfull]
      exact h.create hopen hget (not_le.1 hfull) ⟨.inr rfl, hopen⟩

/-- A wait for an entry that is ready. -/
theorem Sound.awaitEntry {entry : ℕ} {cell : TenantEntry}
    (h : Sound config s tr (.awaiting key entry ::ₘ others)) (hcell : s.cells[entry]? = some cell)
    (hrdy : cell.ready = true) :
    Sound config s (tr ++ [⟨s, TenantCall.awaitEntry entry, .done cell.service⟩])
      ((Hand.awaiting key entry).follow (.awaitEntry entry) (.done cell.service) ::ₘ others) := by
  obtain ⟨hent, hkey⟩ := h.handOk _ (mem_cons_self _ _)
  cases hsvc : cell.service with
  | none => exact h.pass _ rfl rfl rfl rfl trivial
  | some service =>
    have hcell' : s.cells[entry]? = some ⟨true, some service⟩ := by
      rw [hcell, ← hrdy, ← hsvc]
    have hget : s.entries.lookup key = some entry := by
      rcases hkey with hget | hnone
      · exact hget
      · cases hnone.symm.trans hcell'
    exact h.pass _ rfl rfl rfl rfl ⟨hent.concat _, hget, hcell'⟩

/-- The second section of `Resolve`. -/
theorem Sound.settle {entry : ℕ} {res : Option ℕ}
    (h : Sound config s tr (.created key entry res ::ₘ others)) :
    Sound config (s.settle key entry res).2
      (tr ++ [⟨s, TenantCall.settle key entry res, (s.settle key entry res).1⟩])
      (.settled key entry (s.settle key entry res).1.service
        (s.settle key entry res).1.discard ::ₘ others) := by
  by_cases hclo : ∀ backend, res = some backend → s.closed = true
  · obtain ⟨heq, hfail⟩ := failedAt_settle
      (Sound.pending_created (h.handOk _ (mem_cons_self _ _))).2 hclo
    rw [heq]
    exact h.failed hclo hfail
  · push Not at hclo
    obtain ⟨backend, rfl, hopen⟩ := hclo
    have hopen : s.closed = false := by simpa using hopen
    rw [TenantState.settle, hopen]
    exact h.served hopen

/-- `Close` finds the services that are left to close. -/
theorem Sound.collect {services : List ℕ} (h : Sound config s tr (.drained ::ₘ others))
    (hserv : services.Perm s.services) (e : Entry TenantInterface TenantState) :
    Sound config s (tr ++ [e]) (.sweeping services ::ₘ others) := by
  obtain ⟨hclo, hcrs⟩ := h.handOk _ (mem_cons_self _ _)
  refine h.pass e rfl rfl rfl rfl ⟨hclo, hcrs, fun p b hb => ?_⟩
  exact (h.shut_or_mem_services hcrs hb).imp_right hserv.mem_iff.2

/-- A creation with a backend is one for the user of that backend. -/
lemma Sound.owner_of_backend {hands : Multiset Hand} (h : Sound config s tr hands)
    (hhand : hand ∈ hands) {p : ℕ} {b : Backend} (hback : hand.backend = some p)
    (hb : s.backends[p]? = some b) : hand.owner = some b.key := by
  have hok := h.handOk hand hhand
  cases hand with
  | made key entry backend =>
    obtain rfl := some.inj hback
    obtain ⟨c, hc, rfl⟩ := hok.2.2
    obtain rfl := mem_unique hc hb
    rfl
  | _ => cases hback

/-- A user has at most one backend that has not closed. -/
theorem Sound.single {hands : Multiset Hand} (h : Sound config s tr hands) {p q : ℕ}
    {b b' : Backend} (hb : s.backends[p]? = some b) (hb' : s.backends[q]? = some b')
    (hopen : b.closed = false) (hopen' : b'.closed = false) (hkey : b.key = b'.key) : p = q := by
  have hpend : ∀ (p : ℕ) (b : Backend), s.backends[p]? = some b →
      (∃ hand ∈ hands, hand.backend = some p) → ∃ entry, Pending s b.key entry := by
    rintro p b hb ⟨hand, hhand, hback⟩
    exact h.pending hhand (h.owner_of_backend hhand hback hb)
  have hget : ∀ (p : ℕ) (b : Backend), s.backends[p]? = some b → b.discarded = true →
      s.entries.lookup b.key = none := fun p b hb hdisc => (h.late p b hb hdisc).2.1
  rcases h.live p b hb hopen with hlate | hheld | ⟨entry, hserv⟩ <;>
    rcases h.live q b' hb' hopen' with hlate' | hheld' | ⟨entry', hserv'⟩
  · exact h.lateInj p q b b' hb hb' hlate hlate' hkey
  · obtain ⟨n, hn⟩ := hpend q b' hb' hheld'
    cases (hget p b hb hlate).symm.trans (hkey ▸ hn.1)
  · cases (hget p b hb hlate).symm.trans (hkey ▸ hserv'.1)
  · obtain ⟨n, hn⟩ := hpend p b hb hheld
    cases (hget q b' hb' hlate').symm.trans (hkey ▸ hn.1)
  · obtain ⟨hand, hhand, hback⟩ := hheld
    obtain ⟨hand', hhand', hback'⟩ := hheld'
    obtain ⟨others, rfl⟩ := exists_cons_of_mem hhand
    have hown := h.owner_of_backend hhand hback hb
    have hown' := h.owner_of_backend hhand' hback' hb'
    rcases mem_cons.1 hhand' with rfl | hoth
    · exact mem_unique hback hback'
    · exact absurd (hown'.trans (congrArg some hkey.symm)) (h.owner_ne hown hoth)
  · obtain ⟨n, hn⟩ := hpend p b hb hheld
    obtain rfl := mem_unique hn.1 (hkey ▸ hserv'.1)
    cases hn.2.symm.trans hserv'.2
  · cases (hget q b' hb' hlate').symm.trans (hkey ▸ hserv.1)
  · obtain ⟨n, hn⟩ := hpend q b' hb' hheld'
    obtain rfl := mem_unique hn.1 (hkey ▸ hserv.1)
    cases hn.2.symm.trans hserv.2
  · obtain rfl := mem_unique hserv.1 (hkey ▸ hserv'.1)
    cases hserv.2.symm.trans hserv'.2
    rfl

/-! ## Storage -/

/-- The roots of two users are different. -/
structure StorageRoots.Apart (roots roots' : StorageRoots) : Prop where
  tenantRoot : roots.tenantRoot ≠ roots'.tenantRoot
  imageRoot : roots.imageRoot ≠ roots'.imageRoot
  stagingRoot : roots.stagingRoot ≠ roots'.stagingRoot
  workspaceRoot : roots.workspaceRoot ≠ roots'.workspaceRoot

end

/-! ## A close that is repeated -/

namespace RepeatedClose

/-- Paths whose parts stand between separators. -/
def join (path name : String) : String := path ++ "/" ++ name

lemma join_left_injective (name : String) : Function.Injective fun path => join path name := by
  intro path path' h
  exact String.append_left_inj _ |>.1 (String.append_left_inj _ |>.1 h)

lemma foldl_join_injective (below : List String) : Function.Injective (below.foldl join) := by
  induction below with
  | nil => exact fun _ _ h => h
  | cons name below ih => exact fun path path' h => join_left_injective name (ih h)

local instance library : TenantLibrary where
  isAbs _ := true
  clean path := path
  separator := "/"
  join := join
  toUpper sid := String.ofList (sid.toList.map Char.toUpper)
  join_inj _ _ _ _ _ below _ h := String.append_right_inj _ |>.1 (foldl_join_injective below h)

local instance sha256 : Sha256Library := ⟨fun _ => 0⟩

def config : Config := ⟨"/srv", 2, true⟩

/-- An environment in which the first backend fails to close when it is asked for the first time. -/
def reply (s : TenantState) : (c : TenantCall) → TenantReply c × TenantState
  | .enter key => s.enter config.maxTenants key
  | .awaitEntry _ => (.context .canceled, s)
  | .prepareStorage _ _ => (none, s)
  | .newBackend backend =>
    (.ok s.backends.length, { s with backends := s.backends ++ [⟨backend, 0, false, false⟩] })
  | .settle key entry result => s.settle key entry result
  | .closeBackend backend =>
    if backend = 0 ∧ s.backends[0]?.map Backend.closes = some 0 then
      (.error "backend is busy", s.closeBackend backend false)
    else (.ok (), s.closeBackend backend true)
  | .creationDone => ((), { s with creations := s.creations - 1 })
  | .markClosed => ((), { s with closed := true })
  | .awaitCreations => (.done (), s)
  | .collect => (s.services, s)
  | .contextErr => (none, s)
  | .deliver _ _ _ => ((), s)
  | .stopped => ((), { s with stopped := true })

/-- `Close` waits for the creations. -/
def enabled (s : TenantState) : TenantCall → Bool
  | .awaitCreations => s.creations = 0
  | _ => true

lemma answers_reply (s : TenantState) (c : TenantCall) (h : enabled s c = true) :
    (manager config).answers s c (reply s c).1 (reply s c).2 := by
  cases c with
  | closeBackend backend =>
    rw [reply]
    split_ifs
    · exact .closeBackendFailed s backend _
    · exact .closeBackend s backend
  | awaitEntry entry => exact .awaitEntryContext s entry _
  | awaitCreations => exact .awaitCreations s (of_decide_eq_true h)
  | collect => exact .collect s _ (.refl _)
  | _ => constructor

/-- The program after all its calls were answered. -/
def serve (P : Pool TenantInterface TenantState TenantError) (p : TenantProgram Unit)
    (calls : ℕ) : Pool TenantInterface TenantState TenantError :=
  (List.replicate calls 0).foldl (Pool.advanceIf enabled reply) (P.start p)

/-- Two users are served, then `Close` fails half way and is repeated. -/
def repeated : Pool TenantInterface TenantState TenantError :=
  serve (serve (serve (serve (Pool.idle .initial)
    (serveResolve config (developmentIdentity "S-1-5-21-1")) 6)
    (serveResolve config (developmentIdentity "S-1-5-21-2")) 6) serveClose 7) serveClose 8

end RepeatedClose

end GrokDesktop.Tenant
