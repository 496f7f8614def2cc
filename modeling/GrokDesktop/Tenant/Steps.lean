import GrokDesktop.Tenant.Invariant

/-!
# The sections of the tenant manager keep the invariant

One lemma for each section and each answer of the environment that changes the state.
-/

namespace GrokDesktop.Tenant

open Resumption Table Multiset

/-! ## How the state changes -/

section States

variable {s : TenantState} {key key' : String} {entry entry' backend : ℕ}

lemma evolves_addEntry (hopen : s.closed = false) (hnew : s.entries.lookup key = none) :
    Evolves s (s.addEntry key) where
  keyed _ _ h := h.imp (lookup_insert_of_new hnew) List.getElem?_concat_of_some
  serves _ _ _ h := ⟨lookup_insert_of_new hnew h.1, List.getElem?_concat_of_some h.2⟩
  discarded _ h := h
  closed h := h
  drained h := by simp [hopen] at h
  shut h := by simp [hopen] at h

lemma pending_addEntry_self (s : TenantState) (key : String) :
    Pending (s.addEntry key) key s.cells.length := by
  refine ⟨lookup_insert_self _ _ _, ?_⟩
  exact List.getElem?_concat_eq_some.2 (.inr ⟨rfl, rfl⟩)

lemma Pending.addEntry (h : Pending s key' entry) (hnew : s.entries.lookup key = none) :
    Pending (s.addEntry key) key' entry :=
  ⟨lookup_insert_of_new hnew h.1, List.getElem?_concat_of_some h.2⟩

/-- The entry is taken out without a service, and the backend of its creation is discarded. -/
structure FailedAt (s s' : TenantState) (key : String) (entry : ℕ) (result : Option ℕ) : Prop where
  lookup : ∀ key', s'.entries.lookup key' = if key' = key then none else s.entries.lookup key'
  size : s'.entries.entries.length ≤ s.entries.entries.length
  cells : ∀ n : ℕ, s'.cells[n]? = if n = entry then some ⟨true, none⟩ else s.cells[n]?
  backends : ∀ (p : ℕ) (b' : Backend), s'.backends[p]? = some b' ↔ ∃ b, s.backends[p]? = some b ∧
    b' = if result = some p then { b with discarded := true } else b
  closed : s'.closed = s.closed
  creations : s'.creations = s.creations
  stopped : s'.stopped = s.stopped

/-- A creation that fails, or ends after `Close` has begun. -/
theorem failedAt_settle {result : Option ℕ} (h : Pending s key entry)
    (hclo : ∀ backend, result = some backend → s.closed = true) :
    s.settle key entry result = (⟨none, result⟩, (s.settle key entry result).2) ∧
      FailedAt s (s.settle key entry result).2 key entry result := by
  obtain ⟨hget, hcell⟩ := h
  cases result with
  | none =>
    refine ⟨rfl, ?_⟩
    simp only [TenantState.settle, TenantState.dropEntry, TenantState.setEntry, hget]
    exact ⟨lookup_erase _ _, length_erase_le _ _,
      fun n => List.getElem?_set_of_some hcell, by simp, rfl, rfl, rfl⟩
  | some backend =>
    have hclo := hclo backend rfl
    simp only [TenantState.settle, TenantState.dropEntry, TenantState.setEntry,
      TenantState.discard, hget, hclo, if_true, true_and]
    refine ⟨lookup_erase _ _, length_erase_le _ _,
      fun n => List.getElem?_set_of_some hcell, fun p b' => ?_, hclo.symm, rfl, rfl⟩
    rw [List.getElem?_modify_eq_some]
    simp [eq_comm]

namespace FailedAt

variable {s' : TenantState} {result : Option ℕ}

variable (h : FailedAt s s' key entry result)
include h

lemma lookup_of_ne (hne : key' ≠ key) :
    s'.entries.lookup key' = s.entries.lookup key' := by
  rw [h.lookup, if_neg hne]

lemma cells_of_ne (hne : entry' ≠ entry) :
    s'.cells[entry']? = s.cells[entry']? := by
  rw [h.cells, if_neg hne]

lemma lookup_eq_some (hkey : s'.entries.lookup key' = some entry') :
    key' ≠ key ∧ s.entries.lookup key' = some entry' := by
  rw [h.lookup] at hkey
  split_ifs at hkey with hne
  exact ⟨hne, hkey⟩

lemma evolves (hpend : Pending s key entry) (hcrs : s.creations ≠ 0) : Evolves s s' where
  keyed key' n hkeyed := by
    by_cases hn : n = entry
    · right
      rw [h.cells, if_pos hn]
    · refine hkeyed.imp (fun hget => ?_) fun hcell => (h.cells_of_ne hn).trans hcell
      rw [h.lookup_of_ne (by rintro rfl; simp_all [hpend.1]), hget]
  serves key' n b hserves := by
    have hn : n ≠ entry := by
      rintro rfl
      cases hpend.2.symm.trans hserves.2
    have hkey : key' ≠ key := by
      rintro rfl
      exact hn (Option.mem_unique hserves.1 hpend.1)
    exact ⟨(h.lookup_of_ne hkey).trans hserves.1, (h.cells_of_ne hn).trans hserves.2⟩
  discarded p hdiscarded := by
    obtain ⟨b, hb, hdiscarded⟩ := hdiscarded
    refine ⟨_, (h.backends p _).2 ⟨b, hb, rfl⟩, ?_⟩
    split_ifs
    · rfl
    · exact hdiscarded
  closed hclosed := h.closed.trans hclosed
  drained _ h0 := absurd h0 hcrs
  shut _ h0 := absurd h0 hcrs

end FailedAt

/-- A backend after another one was asked to close. -/
theorem closeBackend_eq_some {ok : Bool} {p : ℕ} {b' : Backend} :
    (s.closeBackend backend ok).backends[p]? = some b' ↔ ∃ b, s.backends[p]? = some b ∧
      b' = if p = backend then { b with closes := b.closes + 1, closed := b.closed || ok } else b :=
  List.getElem?_modify_eq_some

lemma evolves_closeBackend (ok : Bool) : Evolves s (s.closeBackend backend ok) where
  keyed _ _ h := h
  serves _ _ _ h := h
  discarded p h := by
    obtain ⟨b, hb, hdisc⟩ := h
    refine ⟨_, closeBackend_eq_some.2 ⟨b, hb, rfl⟩, ?_⟩
    split_ifs <;> exact hdisc
  closed h := h
  drained _ h := h
  shut _ _ p b' hb' := by
    obtain ⟨b, hb, rfl⟩ := closeBackend_eq_some.1 hb'
    refine ⟨b, hb, fun hshut => ?_⟩
    split_ifs
    · refine ⟨Nat.le_add_left _ _, hshut.2.imp_right fun hclo => ?_⟩
      simp [hclo]
    · exact hshut

end States

/-! ## The sections -/

section Sections

variable [TenantLibrary] [Sha256Library] {cfg : Config} {s : TenantState}
  {tr : List (Entry TenantInterface TenantState)} {others : Multiset Hand} {key : String}
  {entry : ℕ} {e : Entry TenantInterface TenantState}

namespace Sound

/-- The number of an entry is below the count of the entries that were made. -/
lemma entry_lt (h : Sound cfg s tr others) (hkey : s.entries.lookup key = some entry) :
    entry < s.cells.length := by
  rcases h.cell key entry hkey with hpend | ⟨backend, b, hserv, -⟩
  · exact (List.getElem?_eq_some_iff.1 hpend.2).1
  · exact (List.getElem?_eq_some_iff.1 hserv.2).1

/-- `Resolve` makes an entry. -/
theorem create (h : Sound cfg s tr (.idle ::ₘ others)) (hopen : s.closed = false)
    (hnew : s.entries.lookup key = none) (hroom : s.entries.entries.length < cfg.maxTenants)
    (he : EnteredAt e key s.cells.length) :
    Sound cfg (s.addEntry key) (tr ++ [e]) (.creating key s.cells.length ::ₘ others) where
  handOk := by
    refine h.handOk_cons e (evolves_addEntry hopen hnew) ?_
      (fun _ _ _ _ _ hp => hp.addEntry hnew)
    exact ⟨⟨e, by simp, he⟩, pending_addEntry_self s key⟩
  size := by
    change (s.entries.insert key s.cells.length).entries.length ≤ cfg.maxTenants
    rw [AList.entries_insert_of_notMem (AList.lookup_eq_none.1 hnew)]
    exact hroom
  inj p q n hp hq := by
    rcases lookup_insert_cases hp with hp' | ⟨hp', hn⟩ <;>
      rcases lookup_insert_cases hq with hq' | ⟨hq', hn'⟩
    · exact h.inj p q n hp' hq'
    · exact absurd (h.entry_lt hp') (by omega)
    · exact absurd (h.entry_lt hq') (by omega)
    · rw [hp', hq']
  cell p n hp := by
    rcases lookup_insert_cases hp with hp | ⟨rfl, rfl⟩
    · refine (h.cell p n hp).imp (fun hp => hp.addEntry hnew) ?_
      rintro ⟨backend, b, hserves, hb⟩
      exact ⟨backend, b, (evolves_addEntry hopen hnew).serves p n backend hserves, hb⟩
    · exact .inl (pending_addEntry_self s p)
  configured := h.configured
  closes := h.closes
  live backend b hb hclosed := by
    refine (h.live_cons (fun hnone => by cases hnone) hb hclosed).imp_right (.imp_right ?_)
    rintro ⟨n, hserves⟩
    exact ⟨n, (evolves_addEntry hopen hnew).serves _ n backend hserves⟩
  late backend b hb hdiscarded := by
    have hclosed := (h.late backend b hb hdiscarded).1
    simp [hopen] at hclosed
  lateInj := h.lateInj
  distinct key' := by
    by_cases hkey : key' = key
    · subst hkey
      -- a call that creates an entry of this key would have found it in the table
      have hzero : others.countP (fun hand => hand.owner = some key') = 0 := by
        refine countP_eq_zero.2 fun other hother howner => ?_
        obtain ⟨n, hpend⟩ := h.pending (mem_cons_of_mem hother) howner
        simp [hpend.1] at hnew
      rw [countP_cons, hzero]
      split_ifs <;> simp
    · have hle := h.distinct key'
      rw [countP_cons] at hle ⊢
      rw [if_neg (by simpa [Hand.owner] using Ne.symm hkey)]
      omega
  count := by
    change s.creations + 1 = _
    rw [h.count, countP_cons, countP_cons]
    simp [Hand.counted]
  stopped hstopped := by
    have hclosed := (h.stopped hstopped).1
    simp [hopen] at hclosed

/-! ## A new backend -/

/-- The factory returns a backend. -/
theorem newBackend {backend : BackendConfig}
    (h : Sound cfg s tr
      (.creating (TenantLibrary.toUpper backend.currentUserSid) entry ::ₘ others))
    (hcfg : backend = backendConfig cfg backend.currentUserSid) :
    Sound cfg { s with backends := s.backends ++ [⟨backend, 0, false, false⟩] } (tr ++ [e])
      (.made (TenantLibrary.toUpper backend.currentUserSid) entry s.backends.length ::ₘ
        others) := by
  have hcrs := h.creations_ne_zero (mem_cons_self _ _) rfl
  have hhand := h.handOk _ (mem_cons_self _ _)
  have hevo : Evolves s { s with backends := s.backends ++ [⟨backend, 0, false, false⟩] } :=
    { Evolves.refl s with
      discarded := fun p ⟨b, hb, hdisc⟩ =>
        ⟨b, List.getElem?_concat_of_some hb, hdisc⟩
      shut := fun _ h0 => absurd h0 hcrs }
  constructor
  case handOk =>
    refine h.handOk_cons e hevo ?_ (fun _ _ _ _ _ hp => hp) ?_
    · exact ⟨hhand.1.concat e, hhand.2, backend, List.getElem?_concat_eq_some.2 (.inr ⟨rfl, rfl⟩),
        rfl⟩
    · rintro other - key' p - ⟨c, hc, hkey⟩
      exact ⟨c, List.getElem?_concat_of_some hc, hkey⟩
  case size => exact h.size
  case inj => exact h.inj
  case cell =>
    intro key' n hget
    refine (h.cell key' n hget).imp_right ?_
    rintro ⟨p, b, hserv, hb, hkey⟩
    exact ⟨p, b, hserv, List.getElem?_concat_of_some hb, hkey⟩
  case configured =>
    intro p b hb
    rcases List.getElem?_concat_eq_some.1 hb with hb | ⟨-, rfl⟩
    · exact h.configured p b hb
    · exact hcfg
  case closes =>
    intro p b hb hclo
    rcases List.getElem?_concat_eq_some.1 hb with hb | ⟨-, rfl⟩
    · exact h.closes p b hb hclo
    · cases hclo
  case live =>
    intro p b hb hclo
    rcases List.getElem?_concat_eq_some.1 hb with hb | ⟨rfl, -⟩
    · exact h.live_cons (fun hnone => by cases hnone) hb hclo
    · exact .inr (.inl ⟨_, mem_cons_self _ _, rfl⟩)
  case late =>
    intro p b hb hdisc
    rcases List.getElem?_concat_eq_some.1 hb with hb | ⟨-, rfl⟩
    · exact h.late_cons (fun hnone => by cases hnone) hb hdisc
    · cases hdisc
  case lateInj =>
    intro p q b b' hb hb' hdisc hdisc'
    rcases List.getElem?_concat_eq_some.1 hb with hb | ⟨-, rfl⟩
    · rcases List.getElem?_concat_eq_some.1 hb' with hb' | ⟨-, rfl⟩
      · exact h.lateInj p q b b' hb hb' hdisc hdisc'
      · cases hdisc'
    · cases hdisc
  case distinct => exact h.distinct_cons fun _ hkey => hkey
  case count => exact h.count_cons rfl
  case stopped =>
    intro hstop
    exact absurd (h.stopped hstop).2.1 hcrs

/-! ## The end of a creation -/

omit [Sha256Library] in
lemma pending_created {result : Option ℕ} (h : HandOk s tr (.created key entry result)) :
    Entered tr key entry ∧ Pending s key entry := by
  cases result with
  | none => exact h
  | some backend => exact ⟨h.1, h.2.1⟩

/-- A creation fails, or ends after `Close` has begun. -/
theorem failed {s' : TenantState} {result : Option ℕ}
    (h : Sound cfg s tr (.created key entry result ::ₘ others))
    (hclo : ∀ backend, result = some backend → s.closed = true)
    (hfail : FailedAt s s' key entry result) :
    Sound cfg s' (tr ++ [e]) (.settled key entry none result ::ₘ others) := by
  have hself := mem_cons_self (Hand.created key entry result) others
  have hhand := h.handOk _ hself
  obtain ⟨hentered, hpend⟩ := pending_created hhand
  have hown : (Hand.created key entry result).owner = some key := by cases result <;> rfl
  have hback : (Hand.created key entry result).backend = result := by cases result <;> rfl
  have hmade : ∀ p, result = some p → Made s key p := by
    rintro p rfl
    exact hhand.2.2
  have hkey : ∀ p b, result = some p → s.backends[p]? = some b → b.key = key := by
    intro p b hp hb
    obtain ⟨c, hc, rfl⟩ := hmade p hp
    rw [hb] at hc
    rw [Option.some.inj hc]
    rfl
  have hcrs := h.creations_ne_zero hself (Hand.counted_of_owner hown)
  have hevo := hfail.evolves hpend hcrs
  have hent : ∀ key' n, key' ≠ key → s.entries.lookup key' = some n → n ≠ entry := by
    rintro key' _ hne hget rfl
    exact hne (h.inj _ _ _ hget hpend.1)
  -- a user with a discarded backend has no entry, and this one has
  have hlate : ∀ (q : ℕ) (c : Backend), s.backends[q]? = some c → c.discarded = true →
      c.key ≠ key := by
    rintro q c hc hdisc rfl
    cases (h.late q c hc hdisc).2.1.symm.trans hpend.1
  constructor
  case handOk =>
    refine h.handOk_cons e hevo
      ⟨hentered.concat e, fun _ hb => (by cases hb), ?_⟩ ?_ ?_
    · intro p hp
      obtain ⟨c, hc, -⟩ := hmade p hp
      exact ⟨_, (hfail.backends p _).2 ⟨_, hc, rfl⟩, by rw [if_pos hp]⟩
    · intro other hoth key' n hkey' hpend'
      have hne : key' ≠ key := by
        rintro rfl
        exact h.owner_ne hown hoth hkey'
      exact ⟨(hfail.lookup_of_ne hne).trans hpend'.1,
        (hfail.cells_of_ne (hent key' n hne hpend'.1)).trans hpend'.2⟩
    · rintro other hoth key' p hp ⟨c, hc, hkey'⟩
      have hne : result ≠ some p := fun hres =>
        h.backend_ne (hback.trans hres) hoth hp
      exact ⟨c, (hfail.backends p _).2 ⟨_, hc, by rw [if_neg hne]⟩, hkey'⟩
  case size => exact hfail.size.trans h.size
  case inj =>
    intro p q n hp hq
    exact h.inj p q n (hfail.lookup_eq_some hp).2 (hfail.lookup_eq_some hq).2
  case cell =>
    intro key' n hget'
    obtain ⟨hne, hget⟩ := hfail.lookup_eq_some hget'
    have hn := hfail.cells_of_ne (hent key' n hne hget)
    rcases h.cell key' n hget with hpend' | ⟨p, b, hserv, hb, hbkey, hdisc⟩
    · exact .inl ⟨hget', hn.trans hpend'.2⟩
    · have hp : result ≠ some p := fun hres => hne (hbkey.symm.trans (hkey p b hres hb))
      exact .inr ⟨p, b, ⟨hget', hn.trans hserv.2⟩,
        (hfail.backends p b).2 ⟨b, hb, by rw [if_neg hp]⟩, hbkey, hdisc⟩
  case configured =>
    intro p b' hb'
    obtain ⟨b, hb, rfl⟩ := (hfail.backends p b').1 hb'
    have hcfg := h.configured p b hb
    split_ifs <;> exact hcfg
  case closes =>
    intro p b' hb' hclo'
    obtain ⟨b, hb, rfl⟩ := (hfail.backends p b').1 hb'
    have hclos := h.closes p b hb
    split_ifs at hclo' ⊢ <;> exact hclos hclo'
  case live =>
    intro p b' hb' hopen
    obtain ⟨b, hb, rfl⟩ := (hfail.backends p b').1 hb'
    by_cases hp : result = some p
    · rw [if_pos hp]
      exact .inl rfl
    · rw [if_neg hp] at hopen ⊢
      refine (h.live_cons (fun hheld => ?_) hb hopen).imp_right (.imp_right ?_)
      · exact absurd (hback.symm.trans hheld) hp
      · rintro ⟨n, hserv⟩
        exact ⟨n, hevo.serves _ n p hserv⟩
  case late =>
    intro p b' hb' hdisc
    obtain ⟨b, hb, rfl⟩ := (hfail.backends p b').1 hb'
    by_cases hp : result = some p
    · rw [if_pos hp]
      refine ⟨hfail.closed.trans (hclo p hp), ?_, .inr ⟨_, mem_cons_self _ _, hp⟩⟩
      exact (hfail.lookup _).trans (if_pos (hkey p b hp hb))
    · rw [if_neg hp] at hdisc ⊢
      obtain ⟨hclo', hnone, hclos⟩ :=
        h.late_cons (fun hnone => by cases result <;> cases hnone) hb hdisc
      refine ⟨hfail.closed.trans hclo', ?_, hclos⟩
      rw [hfail.lookup, hnone, ite_self]
  case lateInj =>
    intro p q b' c' hb' hc' hdisc hdisc' hkeys
    obtain ⟨b, hb, rfl⟩ := (hfail.backends p b').1 hb'
    obtain ⟨c, hc, rfl⟩ := (hfail.backends q c').1 hc'
    by_cases hp : result = some p <;> by_cases hq : result = some q
    · exact Option.mem_unique hp hq
    · rw [if_pos hp, if_neg hq] at hkeys
      rw [if_neg hq] at hdisc'
      exact absurd (hkeys.symm.trans (hkey p b hp hb)) (hlate q c hc hdisc')
    · rw [if_neg hp, if_pos hq] at hkeys
      rw [if_neg hp] at hdisc
      exact absurd (hkeys.trans (hkey q c hq hc)) (hlate p b hb hdisc)
    · rw [if_neg hp] at hkeys hdisc
      rw [if_neg hq] at hkeys hdisc'
      exact h.lateInj p q b c hb hc hdisc hdisc' hkeys
  case distinct =>
    exact h.distinct_cons fun _ hnone => by cases hnone
  case count =>
    rw [hfail.creations]
    exact h.count_cons (by rw [Hand.counted_of_owner hown]; rfl)
  case stopped =>
    intro hstop
    exact absurd (h.stopped (hfail.stopped.symm.trans hstop)).2.1 hcrs

/-- A creation ends with a backend while the manager is open. -/
theorem served {backend : ℕ} (h : Sound cfg s tr (.made key entry backend ::ₘ others))
    (hopen : s.closed = false) :
    Sound cfg (s.setEntry entry (some backend)) (tr ++ [e])
      (.settled key entry (some backend) none ::ₘ others) := by
  have hself := mem_cons_self (Hand.made key entry backend) others
  obtain ⟨hent, hpend, hmade⟩ := h.handOk _ hself
  have hcells (n : ℕ) : (s.setEntry entry (some backend)).cells[n]? =
      if n = entry then some ⟨true, some backend⟩ else s.cells[n]? :=
    List.getElem?_set_of_some hpend.2
  have hserv : Serves (s.setEntry entry (some backend)) key entry backend :=
    ⟨hpend.1, (hcells entry).trans (if_pos rfl)⟩
  have hkeep : ∀ (n : ℕ) (x : TenantEntry), s.cells[n]? = some x → x.ready = true →
      (s.setEntry entry (some backend)).cells[n]? = some x := by
    intro n x hx hrdy
    have hn : n ≠ entry := by
      rintro rfl
      obtain rfl := Option.mem_unique hpend.2 hx
      cases hrdy
    rw [hcells, if_neg hn, hx]
  have hevo : Evolves s (s.setEntry entry (some backend)) :=
    { Evolves.refl s with
      keyed := fun _ n hkeyed => hkeyed.imp_right fun hcell => hkeep n _ hcell rfl
      serves := fun _ n _ hserv => ⟨hserv.1, hkeep n _ hserv.2 rfl⟩ }
  have hoth : ∀ key' n, key' ≠ key → s.entries.lookup key' = some n → n ≠ entry := by
    rintro key' _ hne hget rfl
    exact hne (h.inj _ _ _ hget hpend.1)
  constructor
  case handOk =>
    refine h.handOk_cons e hevo ⟨hent.concat e, ?_, fun _ hb => (by cases hb)⟩ ?_
    · rintro _ ⟨⟩
      exact hserv
    · intro other hmem key' n hkey' hpend'
      have hne : key' ≠ key := by
        rintro rfl
        exact h.owner_ne rfl hmem hkey'
      refine ⟨hpend'.1, ?_⟩
      rw [hcells, if_neg (hoth key' n hne hpend'.1), hpend'.2]
  case size => exact h.size
  case inj => exact h.inj
  case cell =>
    intro key' n hget
    by_cases hkey : key' = key
    · subst hkey
      obtain rfl := Option.mem_unique hpend.1 hget
      obtain ⟨c, hc, hkey⟩ := hmade
      exact .inr ⟨backend, _, hserv, hc, hkey, rfl⟩
    · refine (h.cell key' n hget).imp (fun hpend' => ⟨hget, ?_⟩) ?_
      · rw [hcells, if_neg (hoth key' n hkey hget), hpend'.2]
      · rintro ⟨p, b, hserv', hb⟩
        exact ⟨p, b, hevo.serves _ _ _ hserv', hb⟩
  case configured => exact h.configured
  case closes => exact h.closes
  case live =>
    intro p b hb hclo
    rcases h.live p b hb hclo with hdisc | hheld | ⟨n, hserv'⟩
    · exact .inl hdisc
    · by_cases hp : p = backend
      · subst hp
        obtain ⟨c, hc, rfl⟩ := hmade
        obtain rfl := Option.mem_unique hc hb
        exact .inr (.inr ⟨entry, hserv⟩)
      · exact .inr (.inl (Hand.held_cons hheld fun hback =>
          absurd (Option.some.inj hback).symm hp))
    · exact .inr (.inr ⟨n, hevo.serves _ _ _ hserv'⟩)
  case late =>
    intro p b hb hdisc
    have hclo := (h.late p b hb hdisc).1
    simp [hopen] at hclo
  case lateInj => exact h.lateInj
  case distinct => exact h.distinct_cons fun _ hnone => by cases hnone
  case count => exact h.count_cons rfl
  case stopped => exact h.stopped

/-- A call that the wait group counted is over. -/
theorem creationDone {service : Option ℕ} {hand' : Hand}
    (h : Sound cfg s tr (.settled key entry service none ::ₘ others))
    (hown : hand'.owner = none) (hcnt : hand'.counted = false)
    (hok : HandOk { s with creations := s.creations - 1 } (tr ++ [e]) hand') :
    Sound cfg { s with creations := s.creations - 1 } (tr ++ [e]) (hand' ::ₘ others) := by
  have hcrs := h.creations_ne_zero (mem_cons_self _ _) rfl
  have hevo : Evolves s { s with creations := s.creations - 1 } :=
    { Evolves.refl s with
      drained := fun _ h0 => absurd h0 hcrs
      shut := fun _ h0 => absurd h0 hcrs }
  refine { h with handOk := ?_, live := ?_, late := ?_, distinct := ?_, count := ?_, stopped := ?_ }
  · exact h.handOk_cons e hevo hok
  · exact fun _ _ => h.live_cons fun hnone => by cases hnone
  · exact fun _ _ => h.late_cons fun hnone => by cases hnone
  · exact h.distinct_cons fun _ hkey => by cases hown.symm.trans hkey
  · rw [h.count, countP_cons, countP_cons, hcnt]
    simp [Hand.counted]
  · exact fun hstop => absurd (h.stopped hstop).2.1 hcrs

/-! ## The end of the manager -/

/-- `Close` stops the manager. -/
theorem markClosed (h : Sound cfg s tr (.idle ::ₘ others)) :
    Sound cfg { s with closed := true } (tr ++ [e]) (.closing ::ₘ others) := by
  have hevo : Evolves s { s with closed := true } :=
    { Evolves.refl s with closed := fun _ => rfl }
  refine { h with handOk := ?_, live := ?_, late := ?_, distinct := ?_, count := ?_, stopped := ?_ }
  · exact h.handOk_cons e hevo rfl
  · exact fun _ _ => h.live_cons fun hnone => by cases hnone
  · intro p b hb hdisc
    exact ⟨rfl, (h.late_cons (fun hnone => by cases hnone) hb hdisc).2⟩
  · exact h.distinct_cons fun _ hkey => hkey
  · exact h.count_cons rfl
  · exact fun hstop => ⟨rfl, (h.stopped hstop).2⟩

/-- A backend is asked to close. -/
theorem closeBackend {hand hand' : Hand} {backend : ℕ} {ok : Bool}
    (h : Sound cfg s tr (hand ::ₘ others)) (hown : hand'.owner = none)
    (hcnt : hand'.counted = hand.counted) (hback : hand.backend = none)
    (hdiscards : ∀ p, p ≠ backend → hand.discards = some p → hand'.discards = some p)
    (hmade : ∀ other ∈ others, other.backend ≠ some backend)
    (hok : HandOk (s.closeBackend backend ok) (tr ++ [e]) hand') :
    Sound cfg (s.closeBackend backend ok) (tr ++ [e]) (hand' ::ₘ others) := by
  have hevo : Evolves s (s.closeBackend backend ok) := evolves_closeBackend ok
  constructor
  case handOk =>
    refine h.handOk_cons e hevo hok (fun _ _ _ _ _ hp => hp) ?_
    rintro other hoth key' p hp ⟨c, hc, hkey⟩
    have hne : p ≠ backend := by
      rintro rfl
      exact hmade other hoth hp
    exact ⟨c, closeBackend_eq_some.2 ⟨_, hc, by rw [if_neg hne]⟩, hkey⟩
  case size => exact h.size
  case inj => exact h.inj
  case cell =>
    intro key' n hget
    refine (h.cell key' n hget).imp_right ?_
    rintro ⟨p, b, hserv, hb, hkey, hdisc⟩
    refine ⟨p, _, hserv, closeBackend_eq_some.2 ⟨b, hb, rfl⟩, ?_⟩
    split_ifs <;> exact ⟨hkey, hdisc⟩
  case configured =>
    intro p b' hb'
    obtain ⟨b, hb, rfl⟩ := closeBackend_eq_some.1 hb'
    have hcfg := h.configured p b hb
    split_ifs <;> exact hcfg
  case closes =>
    intro p b' hb' hclo
    obtain ⟨b, hb, rfl⟩ := closeBackend_eq_some.1 hb'
    have hclos := h.closes p b hb
    split_ifs at hclo ⊢
    · exact Nat.le_add_left _ _
    · exact hclos hclo
  case live =>
    intro p b' hb' hopen
    obtain ⟨b, hb, rfl⟩ := closeBackend_eq_some.1 hb'
    have hopen' : b.closed = false := by
      split_ifs at hopen
      · exact (Bool.or_eq_false_iff.1 hopen).1
      · exact hopen
    have hkeep : hand.backend = some p → hand'.backend = some p :=
      fun hsome => by cases hback.symm.trans hsome
    have hlive := h.live_cons hkeep hb hopen'
    split_ifs <;> exact hlive
  case late =>
    intro p b' hb' hdisc
    obtain ⟨b, hb, rfl⟩ := closeBackend_eq_some.1 hb'
    have hdisc' : b.discarded = true := by
      split_ifs at hdisc <;> exact hdisc
    by_cases hp : p = backend
    · obtain ⟨hclo, hnone, -⟩ := h.late p b hb hdisc'
      rw [if_pos hp]
      exact ⟨hclo, hnone, .inl (Nat.le_add_left _ _)⟩
    · rw [if_neg hp]
      exact h.late_cons (hdiscards p hp) hb hdisc'
  case lateInj =>
    intro p q b' c' hb' hc' hdisc hdisc' hkeys
    obtain ⟨b, hb, rfl⟩ := closeBackend_eq_some.1 hb'
    obtain ⟨c, hc, rfl⟩ := closeBackend_eq_some.1 hc'
    have hinj := h.lateInj p q b c hb hc
    split_ifs at hdisc hdisc' hkeys <;> exact hinj hdisc hdisc' hkeys
  case distinct => exact h.distinct_cons fun _ hkey => by cases hown.symm.trans hkey
  case count => exact h.count_cons hcnt
  case stopped =>
    intro hstop
    obtain ⟨hclo, hcrs, hshut⟩ := h.stopped hstop
    refine ⟨hclo, hcrs, fun p b' hb' => ?_⟩
    obtain ⟨b, hb, hkeep⟩ := hevo.shut hclo hcrs p b' hb'
    exact hkeep (hshut p b hb)

/-- When no creation is under way in a closed manager, the backends that are not shut are in the
table. -/
theorem shut_or_mem_services (h : Sound cfg s tr others) (h0 : s.creations = 0) {p : ℕ}
    {b : Backend} (hb : s.backends[p]? = some b) : Shut b ∨ p ∈ s.services := by
  have hnone : ∀ hand ∈ others, hand.counted ≠ true := fun hand hhand hcnt =>
    h.creations_ne_zero hhand hcnt h0
  cases hclo : b.closed with
  | true => exact .inl ⟨h.closes p b hb hclo, .inr hclo⟩
  | false =>
    rcases h.live p b hb hclo with hdisc | ⟨hand, hhand, hback⟩ | ⟨entry, hserv⟩
    · rcases (h.late p b hb hdisc).2.2 with hclos | ⟨hand, hhand, hdiscards⟩
      · exact .inl ⟨hclos, .inl hdisc⟩
      · exact absurd (Hand.counted_of_discards hdiscards) (hnone hand hhand)
    · exact absurd (Hand.counted_of_backend hback) (hnone hand hhand)
    · refine .inr (List.mem_filterMap.2 ⟨⟨b.key, entry⟩, AList.mem_lookup_iff.1 hserv.1, ?_⟩)
      simp [hserv.2]

end Sound

end Sections

end GrokDesktop.Tenant
