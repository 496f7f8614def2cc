import GrokDesktop.Tenant.Calls

/-!
# The state of the tenant manager and the hands of its calls

The invariant relates the state to what the running calls have in hand. An entry is pending while
one call creates it, and serves a backend of its user afterwards. A backend is in the hand of its
creation, in an entry, or discarded because it came after `Close`. The wait group counts the calls
with a creation in hand.
-/

namespace GrokDesktop.Tenant

open Resumption Multiset

/-! ## Entries and backends -/

section Predicates

/-- The entry is under the key and its backend is being created. -/
def Pending (s : TenantState) (key : String) (entry : ℕ) : Prop :=
  s.entries.lookup key = some entry ∧ s.cells[entry]? = some ⟨false, none⟩

/-- The entry is under the key and has the backend. -/
def Serves (s : TenantState) (key : String) (entry backend : ℕ) : Prop :=
  s.entries.lookup key = some entry ∧ s.cells[entry]? = some ⟨true, some backend⟩

/-- The entry is under the key, or its creation has failed. -/
def Keyed (s : TenantState) (key : String) (entry : ℕ) : Prop :=
  s.entries.lookup key = some entry ∨ s.cells[entry]? = some ⟨true, none⟩

/-- The backend came too late. -/
def Discarded (s : TenantState) (backend : ℕ) : Prop :=
  ∃ b, s.backends[backend]? = some b ∧ b.discarded = true

/-- The backend was asked to close, and has closed unless it was discarded. -/
def Shut (b : Backend) : Prop := 1 ≤ b.closes ∧ (b.discarded = true ∨ b.closed = true)

variable [TenantLibrary]

def Backend.key (b : Backend) : String := TenantLibrary.toUpper b.config.currentUserSid

/-- The backend is new, and of the user with the key. -/
def Made (s : TenantState) (key : String) (backend : ℕ) : Prop :=
  ∃ config, s.backends[backend]? = some ⟨config, 0, false, false⟩ ∧
    TenantLibrary.toUpper config.currentUserSid = key

end Predicates

/-- The manager was open when a call of `Resolve` for the key found or made the entry. -/
def EnteredAt (e : Entry TenantInterface TenantState) (key : String) (entry : ℕ) : Prop :=
  (e.event = ⟨.enter key, .existing entry⟩ ∨ e.event = ⟨.enter key, .create entry⟩) ∧
    e.before.closed = false

/-- A call of the trace entered so. -/
def Entered (tr : List (Entry TenantInterface TenantState)) (key : String) (entry : ℕ) : Prop :=
  ∃ e ∈ tr, EnteredAt e key entry

lemma Entered.concat {tr : List (Entry TenantInterface TenantState)} {key : String} {entry : ℕ}
    (h : Entered tr key entry) (e : Entry TenantInterface TenantState) :
    Entered (tr ++ [e]) key entry := by
  obtain ⟨e', he', hat⟩ := h
  exact ⟨e', List.mem_append_left _ he', hat⟩

namespace Hand

/-- The key whose entry the call creates. -/
def owner : Hand → Option String
  | creating key _ => some key
  | made key _ _ => some key
  | _ => none

/-- Whether the wait group counts the call. -/
def counted : Hand → Bool
  | creating _ _ => true
  | made _ _ _ => true
  | settled _ _ _ _ => true
  | _ => false

/-- The backend that no entry has yet. -/
def backend : Hand → Option ℕ
  | made _ _ backend => some backend
  | _ => none

/-- The backend that the call is about to close because it came too late. -/
def discards : Hand → Option ℕ
  | settled _ _ _ discard => discard
  | _ => none

variable {hand : Hand}

lemma counted_of_owner {key : String} (h : hand.owner = some key) :
    hand.counted = true := by
  cases hand <;> first
    | rfl
    | cases h

lemma counted_of_backend {b : ℕ} (h : hand.backend = some b) :
    hand.counted = true := by
  cases hand <;> first
    | rfl
    | cases h

lemma counted_of_discards {b : ℕ} (h : hand.discards = some b) :
    hand.counted = true := by
  cases hand <;> first
    | rfl
    | cases h

/-- What one of the calls has in hand is still in a hand when one call goes on, if that call keeps
it. -/
theorem held_cons {f : Hand → Option ℕ} {hand hand' : Hand} {others : Multiset Hand} {b : ℕ}
    (h : ∃ x ∈ hand ::ₘ others, f x = some b) (hkeep : f hand = some b → f hand' = some b) :
    ∃ x ∈ hand' ::ₘ others, f x = some b := by
  obtain ⟨x, hx, hf⟩ := h
  rcases mem_cons.1 hx with rfl | hx
  · exact ⟨hand', mem_cons_self _ _, hkeep hf⟩
  · exact ⟨x, mem_cons_of_mem hx, hf⟩

end Hand

/-- How the state may change under a running call. -/
structure Evolves (s s' : TenantState) : Prop where
  keyed : ∀ key entry, Keyed s key entry → Keyed s' key entry
  serves : ∀ key entry backend, Serves s key entry backend → Serves s' key entry backend
  discarded : ∀ backend, Discarded s backend → Discarded s' backend
  closed : s.closed = true → s'.closed = true
  drained : s.closed = true → s.creations = 0 → s'.creations = 0
  shut : s.closed = true → s.creations = 0 → ∀ (backend : ℕ) (b' : Backend),
    s'.backends[backend]? = some b' → ∃ b, s.backends[backend]? = some b ∧ (Shut b → Shut b')

/-- A state evolves into itself. -/
lemma Evolves.refl (s : TenantState) : Evolves s s where
  keyed _ _ h := h
  serves _ _ _ h := h
  discarded _ h := h
  closed h := h
  drained _ h := h
  shut _ _ _ b hb := ⟨b, hb, id⟩

section

variable [TenantLibrary]

/-- What the state says of what a call has in hand. -/
def HandOk (s : TenantState) (tr : List (Entry TenantInterface TenantState)) : Hand → Prop
  | .idle => True
  | .awaiting key entry => Entered tr key entry ∧ Keyed s key entry
  | .creating key entry => Entered tr key entry ∧ Pending s key entry
  | .made key entry backend => Entered tr key entry ∧ Pending s key entry ∧ Made s key backend
  | .settled key entry service discard => Entered tr key entry ∧
      (∀ b, service = some b → Serves s key entry b) ∧ ∀ b, discard = some b → Discarded s b
  | .holding key entry service => Entered tr key entry ∧ Serves s key entry service
  | .closing => s.closed = true
  | .drained => s.closed = true ∧ s.creations = 0
  | .sweeping rest => s.closed = true ∧ s.creations = 0 ∧
      ∀ backend b, s.backends[backend]? = some b → Shut b ∨ backend ∈ rest

variable {tr : List (Entry TenantInterface TenantState)}

/-- A longer trace keeps what is in hand. -/
lemma HandOk.concat {s : TenantState}
    {hand : Hand} (h : HandOk s tr hand) (e : Entry TenantInterface TenantState) :
    HandOk s (tr ++ [e]) hand := by
  cases hand with
  | awaiting key entry => exact ⟨h.1.concat e, h.2⟩
  | creating key entry => exact ⟨h.1.concat e, h.2⟩
  | made key entry backend => exact ⟨h.1.concat e, h.2⟩
  | settled key entry service discard => exact ⟨h.1.concat e, h.2⟩
  | holding key entry service => exact ⟨h.1.concat e, h.2⟩
  | idle => exact h
  | closing => exact h
  | drained => exact h
  | sweeping rest => exact h

/-- What is in hand stays so when the state changes, if the entry and the backend of a creation are
not touched. -/
lemma HandOk.evolve {s s' : TenantState} {hand : Hand} (h : HandOk s tr hand) (he : Evolves s s')
    (hpend : ∀ key entry, hand.owner = some key → Pending s key entry → Pending s' key entry)
    (hmade : ∀ key backend, hand.backend = some backend → Made s key backend →
      Made s' key backend) : HandOk s' tr hand := by
  cases hand with
  | idle => trivial
  | awaiting key entry => exact ⟨h.1, he.keyed key entry h.2⟩
  | creating key entry => exact ⟨h.1, hpend key entry rfl h.2⟩
  | made key entry backend =>
    exact ⟨h.1, hpend key entry rfl h.2.1, hmade key backend rfl h.2.2⟩
  | settled key entry service discard =>
    exact ⟨h.1, fun b hb => he.serves key entry b (h.2.1 b hb),
      fun b hb => he.discarded b (h.2.2 b hb)⟩
  | holding key entry service => exact ⟨h.1, he.serves key entry service h.2⟩
  | closing => exact he.closed h
  | drained => exact ⟨he.closed h.1, he.drained h.1 h.2⟩
  | sweeping rest =>
    refine ⟨he.closed h.1, he.drained h.1 h.2.1, fun backend b' hb' => ?_⟩
    obtain ⟨b, hb, hshut⟩ := he.shut h.1 h.2.1 backend b' hb'
    exact (h.2.2 backend b hb).imp_left hshut

variable [Sha256Library] (config : Config)

/-- What holds of the state, the calls so far, and what the running calls have in hand. -/
structure Sound (s : TenantState) (tr : List (Entry TenantInterface TenantState))
    (hands : Multiset Hand) : Prop where
  handOk : ∀ hand ∈ hands, HandOk s tr hand
  size : s.entries.entries.length ≤ config.maxTenants
  inj : ∀ key key' entry, s.entries.lookup key = some entry →
    s.entries.lookup key' = some entry → key = key'
  /-- An entry is pending, or has a backend of its user. -/
  cell : ∀ key entry, s.entries.lookup key = some entry → Pending s key entry ∨
    ∃ backend b, Serves s key entry backend ∧ s.backends[backend]? = some b ∧ b.key = key ∧
      b.discarded = false
  configured : ∀ (backend : ℕ) (b : Backend), s.backends[backend]? = some b →
    b.config = backendConfig config b.config.currentUserSid
  closes : ∀ (backend : ℕ) (b : Backend), s.backends[backend]? = some b → b.closed = true →
    1 ≤ b.closes
  /-- A backend that has not closed is discarded, in the hand of its creation, or in an entry. -/
  live : ∀ (backend : ℕ) (b : Backend), s.backends[backend]? = some b → b.closed = false →
    b.discarded = true ∨ (∃ hand ∈ hands, hand.backend = some backend) ∨
      ∃ entry, Serves s b.key entry backend
  /-- A backend is discarded when the manager is closed, and its user has no entry any more. -/
  late : ∀ (backend : ℕ) (b : Backend), s.backends[backend]? = some b → b.discarded = true →
    s.closed = true ∧ s.entries.lookup b.key = none ∧
      (1 ≤ b.closes ∨ ∃ hand ∈ hands, hand.discards = some backend)
  lateInj : ∀ (p q : ℕ) (b b' : Backend), s.backends[p]? = some b → s.backends[q]? = some b' →
    b.discarded = true → b'.discarded = true → b.key = b'.key → p = q
  /-- One call creates the entry of a key. -/
  distinct : ∀ key, hands.countP (fun hand => hand.owner = some key) ≤ 1
  count : s.creations = hands.countP fun hand => hand.counted = true
  stopped : s.stopped = true → s.closed = true ∧ s.creations = 0 ∧
    ∀ (backend : ℕ) (b : Backend), s.backends[backend]? = some b → Shut b

namespace Sound

variable {config} {s s' : TenantState} {tr : List (Entry TenantInterface TenantState)}
  {hand hand' : Hand} {hands others : Multiset Hand}

/-- While a creation is in a hand, the wait group counts it. -/
theorem creations_ne_zero (h : Sound config s tr hands) (hmem : hand ∈ hands)
    (hcnt : hand.counted = true) : s.creations ≠ 0 := by
  rw [h.count]
  exact (countP_pos_of_mem hmem hcnt).ne'

/-- Only one call creates the entry of a key. -/
theorem owner_ne (h : Sound config s tr (hand ::ₘ others)) {key : String}
    (hown : hand.owner = some key) {other : Hand} (hoth : other ∈ others) :
    other.owner ≠ some key := by
  intro hkey
  have hle := h.distinct key
  rw [countP_cons, if_pos hown] at hle
  have hpos : 0 < others.countP (fun hand => hand.owner = some key) :=
    countP_pos_of_mem hoth hkey
  omega

/-- The entry that a call creates is pending. -/
theorem pending (h : Sound config s tr hands) (hmem : hand ∈ hands) {key : String}
    (hown : hand.owner = some key) : ∃ entry, Pending s key entry := by
  have hok := h.handOk hand hmem
  cases hand with
  | creating key' entry =>
    obtain rfl := Option.some.inj hown
    exact ⟨entry, hok.2⟩
  | made key' entry backend =>
    obtain rfl := Option.some.inj hown
    exact ⟨entry, hok.2.1⟩
  | _ => cases hown

section

variable (h : Sound config s tr (hand ::ₘ others))
include h

/-- Two creations have different backends. -/
theorem backend_ne {backend : ℕ}
    (hback : hand.backend = some backend) {other : Hand} (hoth : other ∈ others) :
    other.backend ≠ some backend := by
  intro hback'
  have hok := h.handOk hand (mem_cons_self _ _)
  have hok' := h.handOk other (mem_cons_of_mem hoth)
  have hne := fun key (hown : hand.owner = some key) => h.owner_ne hown hoth
  cases hand with
  | made key entry b =>
    cases other with
    | made key' entry' b' =>
      obtain rfl := Option.some.inj hback
      obtain rfl := Option.some.inj hback'
      obtain ⟨c, hc, rfl⟩ := hok.2.2
      obtain ⟨c', hc', rfl⟩ := hok'.2.2
      rw [hc] at hc'
      obtain rfl := (Backend.mk.inj (Option.some.inj hc')).1
      exact hne _ rfl rfl
    | _ => cases hback'
  | _ => cases hback

/-! The parts of the invariant that are about the hands, when one call goes on. -/

lemma handOk_cons (e : Entry TenantInterface TenantState) (he : Evolves s s')
    (hok : HandOk s' (tr ++ [e]) hand')
    (hpend : ∀ other ∈ others, ∀ key entry, other.owner = some key → Pending s key entry →
      Pending s' key entry := by exact fun _ _ _ _ _ h => h)
    (hmade : ∀ other ∈ others, ∀ key backend, other.backend = some backend → Made s key backend →
      Made s' key backend := by exact fun _ _ _ _ _ h => h) :
    ∀ other ∈ hand' ::ₘ others, HandOk s' (tr ++ [e]) other := by
  intro other hother
  rcases mem_cons.1 hother with rfl | hother
  · exact hok
  · exact ((h.handOk other (mem_cons_of_mem hother)).concat e).evolve he
      (hpend other hother) (hmade other hother)

lemma distinct_cons
    (hown : ∀ key, hand'.owner = some key → hand.owner = some key) (key : String) :
    (hand' ::ₘ others).countP (fun hand => hand.owner = some key) ≤ 1 := by
  have hle := h.distinct key
  rw [countP_cons] at hle ⊢
  by_cases hkey : hand'.owner = some key
  · rw [if_pos (hown key hkey)] at hle
    rwa [if_pos hkey]
  · rw [if_neg hkey]
    omega

lemma count_cons (hcnt : hand'.counted = hand.counted) :
    s.creations = (hand' ::ₘ others).countP fun hand => hand.counted = true := by
  rw [h.count, countP_cons, countP_cons, hcnt]

lemma live_cons {p : ℕ} {b : Backend}
    (hkeep : hand.backend = some p → hand'.backend = some p) (hb : s.backends[p]? = some b)
    (hopen : b.closed = false) :
    b.discarded = true ∨ (∃ x ∈ hand' ::ₘ others, x.backend = some p) ∨
      ∃ entry, Serves s b.key entry p :=
  (h.live p b hb hopen).imp_right fun hor => hor.imp_left fun hheld => Hand.held_cons hheld hkeep

lemma late_cons {p : ℕ} {b : Backend}
    (hkeep : hand.discards = some p → hand'.discards = some p) (hb : s.backends[p]? = some b)
    (hdisc : b.discarded = true) :
    s.closed = true ∧ s.entries.lookup b.key = none ∧
      (1 ≤ b.closes ∨ ∃ x ∈ hand' ::ₘ others, x.discards = some p) := by
  obtain ⟨hclo, hnone, hclos⟩ := h.late p b hb hdisc
  exact ⟨hclo, hnone, hclos.imp_right fun hheld => Hand.held_cons hheld hkeep⟩

/-- A call goes on without a change of the state. -/
theorem pass (e : Entry TenantInterface TenantState)
    (hown : hand'.owner = hand.owner) (hcnt : hand'.counted = hand.counted)
    (hback : hand'.backend = hand.backend) (hdisc : hand'.discards = hand.discards)
    (hok : HandOk s (tr ++ [e]) hand') : Sound config s (tr ++ [e]) (hand' ::ₘ others) :=
  { h with
    handOk := h.handOk_cons e (.refl s) hok
    live := fun _ _ => h.live_cons hback.trans
    late := fun _ _ => h.late_cons hdisc.trans
    distinct := h.distinct_cons fun _ hkey => hown.symm.trans hkey
    count := h.count_cons hcnt }

end

lemma initial : Sound config .initial [] 0 where
  handOk hand h := by simp at h
  size := by simp [TenantState.initial]
  inj key key' entry h := by simp [TenantState.initial] at h
  cell key entry h := by simp [TenantState.initial] at h
  configured backend b h := by simp [TenantState.initial] at h
  closes backend b h := by simp [TenantState.initial] at h
  live backend b h := by simp [TenantState.initial] at h
  late backend b h := by simp [TenantState.initial] at h
  lateInj p q b b' h := by simp [TenantState.initial] at h
  distinct key := by simp
  count := rfl
  stopped h := by cases h

end Sound

end

end GrokDesktop.Tenant
