import Mathlib.Algebra.BigOperators.Group.List.Basic
import Mathlib.Data.List.AList
import Mathlib.Data.List.Sort

/-!
# Tables

A hash map is modelled by an association list without duplicate keys, `AList`. What the model reads
from a map does not depend on the order of its entries: a lookup, a search for an entry, a maximum,
or a list that is sorted before it is used.
-/

/-- A finite map from keys to values. -/
abbrev Table (κ α : Type) : Type := AList fun _ : κ => α

namespace Table

open AList List

variable {κ α β : Type} [DecidableEq κ]

/-- The values of a table, in the order of its entries. -/
def values (t : Table κ α) : List α := t.entries.map Sigma.snd

/-- Whether the table has a value for the key. -/
def contains (t : Table κ α) (k : κ) : Bool := (t.lookup k).isSome

/-- Inserts a list of values under the keys they carry. -/
def insertAll (t : Table κ α) (key : α → κ) (vs : List α) : Table κ α :=
  vs.foldl (fun t v => t.insert (key v) v) t

def insertEntries (t t' : Table κ α) : Table κ α :=
  t'.entries.foldl (fun t entry => t.insert entry.1 entry.2) t

variable {t t' : Table κ α} {k k' : κ} {v w : α} {vs : List α} {entries : List (κ × α)}

/-- Looking up a key after an insertion. -/
theorem lookup_insert (t : Table κ α) (k k' : κ) (v : α) :
    (t.insert k v).lookup k' = if k' = k then some v else t.lookup k' := by
  split
  · subst k'
    exact AList.lookup_insert t
  · exact AList.lookup_insert_ne ‹_›

@[simp] lemma lookup_insert_self (t : Table κ α) (k : κ) (v : α) :
    (t.insert k v).lookup k = some v := AList.lookup_insert t

@[simp] lemma lookup_insert_of_ne (t : Table κ α) (v : α) (h : k' ≠ k) :
    (t.insert k v).lookup k' = t.lookup k' := AList.lookup_insert_ne h

/-- A key with a value. -/
lemma contains_iff : t.contains k = true ↔ ∃ v, t.lookup k = some v := by
  simp [contains, Option.isSome_iff_exists]

lemma contains_eq_false : t.contains k = false ↔ t.lookup k = none := by
  simp [contains]

/-- An insertion under a new key keeps what the table had. -/
theorem lookup_insert_of_new (hk : t.lookup k = none)
    (h : t.lookup k' = some w) : (t.insert k v).lookup k' = some w := by
  rw [lookup_insert_of_ne _ _ (by rintro rfl; simp [hk] at h), h]

/-- Looking up a key after another one was erased. -/
theorem lookup_erase (t : Table κ α) (k k' : κ) :
    (t.erase k).lookup k' = if k' = k then none else t.lookup k' := by
  split
  · subst k'
    exact AList.lookup_erase k t
  · exact AList.lookup_erase_ne ‹_›

lemma length_erase_le (t : Table κ α) (k : κ) :
    (t.erase k).entries.length ≤ t.entries.length :=
  (kerase_sublist k t.entries).length_le

/-- The values of a table are the results of its lookups. -/
theorem mem_values : v ∈ t.values ↔ ∃ k, t.lookup k = some v := by
  simp only [values, mem_map]
  constructor
  · rintro ⟨⟨k, w⟩, hmem, rfl⟩
    exact ⟨k, mem_lookup_iff.2 hmem⟩
  · rintro ⟨k, hk⟩
    exact ⟨⟨k, v⟩, mem_lookup_iff.1 hk, rfl⟩

variable {key : α → κ}

/-- Values that are stored under their own keys have different ones. -/
theorem nodup_map_values (h : ∀ k v, t.lookup k = some v → key v = k) :
    (t.values.map key).Nodup := by
  rw [values, map_map]
  have hkeys : t.entries.map (key ∘ Sigma.snd) = t.entries.keys := by
    refine map_congr_left fun entry hent => ?_
    exact h entry.1 entry.2 (mem_lookup_iff.2 hent)
  rw [hkeys]
  exact t.nodupKeys

/-- A predicate that holds of one entry only selects that entry. -/
theorem filter_entries_eq_singleton {p : (Sigma fun _ : κ => α) → Bool}
    (hk : t.lookup k = some v) (hp : p ⟨k, v⟩ = true)
    (hunique : ∀ k' v', t.lookup k' = some v' → p ⟨k', v'⟩ = true → k' = k) :
    t.entries.filter p = [⟨k, v⟩] := by
  have hmem : ∀ entry, entry ∈ t.entries.filter p ↔ entry ∈ [(⟨k, v⟩ : Sigma fun _ : κ => α)] := by
    rintro ⟨k', v'⟩
    rw [mem_filter, mem_singleton]
    constructor
    · rintro ⟨hent, hp'⟩
      have hget : t.lookup k' = some v' := mem_lookup_iff.2 hent
      obtain rfl := hunique k' v' hget hp'
      rw [Option.mem_unique hget hk]
    · intro heq
      rw [heq]
      exact ⟨mem_lookup_iff.1 hk, hp⟩
  exact perm_singleton.1
    ((perm_ext_iff_of_nodup (t.nodupKeys.nodup.filter p) (nodup_singleton _)).2 hmem)

/-- The entries of a table that satisfy a predicate. -/
def keep (t : Table κ α) (p : κ → α → Bool) : Table κ α :=
  ⟨t.entries.filter fun entry => p entry.1 entry.2, t.nodupKeys.sublist List.filter_sublist⟩

/-- Looking up a key among the kept entries. -/
theorem lookup_keep_eq_some {p : κ → α → Bool} :
    (t.keep p).lookup k = some v ↔ t.lookup k = some v ∧ p k v = true := by
  change v ∈ (t.keep p).lookup k ↔ v ∈ t.lookup k ∧ _
  rw [mem_lookup_iff, mem_lookup_iff]
  simp [keep]

/-- The second table has every entry of the first one. -/
def Extends (t t' : Table κ α) : Prop := ∀ k v, t.lookup k = some v → t'.lookup k = some v

@[refl] lemma Extends.refl (t : Table κ α) : t.Extends t := fun _ _ h => h

/-- An insertion under a new key extends the table. -/
theorem Extends.insert (v : α) (hk : t.lookup k = none) :
    t.Extends (t.insert k v) :=
  fun _ _ h => lookup_insert_of_new hk h

/-- An extension keeps the keys. -/
lemma Extends.contains (h : t.Extends t') (hk : t.contains k = true) : t'.contains k = true := by
  obtain ⟨v, hv⟩ := contains_iff.1 hk
  exact contains_iff.2 ⟨v, h k v hv⟩

/-- An entry of a table with one more entry is an old one or the new one. -/
theorem lookup_insert_cases (h : (t.insert k v).lookup k' = some w) :
    t.lookup k' = some w ∨ k' = k ∧ w = v := by
  rw [lookup_insert] at h
  split at h
  · rename_i hk
    exact .inr ⟨hk, (Option.some.inj h).symm⟩
  · exact .inl h

/-- An entry of a table with a list of entries is an old one or one of the list. -/
theorem lookup_foldl_insert_cases (t : Table κ α)
    (h : (entries.foldl (fun t entry => t.insert entry.1 entry.2) t).lookup k = some v) :
    t.lookup k = some v ∨ (k, v) ∈ entries := by
  induction entries generalizing t with
  | nil => exact .inl h
  | cons entry entries ih =>
    rcases ih _ h with h | h
    · rw [lookup_insert] at h
      split at h
      · rename_i hk
        rw [← Option.some.inj h, hk]
        exact .inr mem_cons_self
      · exact .inl h
    · exact .inr (mem_cons_of_mem _ h)

/-- Inserting entries with other keys changes nothing at a key. -/
lemma lookup_foldl_insert_of_notMem (t : Table κ α) (h : k ∉ entries.map Prod.fst) :
    (entries.foldl (fun t entry => t.insert entry.1 entry.2) t).lookup k = t.lookup k := by
  induction entries generalizing t with
  | nil => rfl
  | cons entry entries ih =>
    simp only [map_cons, mem_cons, not_or] at h
    exact (ih _ h.2).trans (lookup_insert_of_ne t _ h.1)

/-- Inserting entries with distinct keys makes each of them an entry of the table. -/
theorem lookup_foldl_insert_of_mem (t : Table κ α) (h : (k, v) ∈ entries)
    (hnd : (entries.map Prod.fst).Nodup) :
    (entries.foldl (fun t entry => t.insert entry.1 entry.2) t).lookup k = some v := by
  induction entries generalizing t with
  | nil => cases h
  | cons entry entries ih =>
    simp only [map_cons, nodup_cons] at hnd
    rcases mem_cons.1 h with rfl | h
    · exact (lookup_foldl_insert_of_notMem _ hnd.1).trans (lookup_insert_self t _ _)
    · exact ih _ h hnd.2

/-- Inserting entries under new keys extends the table. -/
theorem Extends.foldl_insert (h : ∀ k ∈ entries.map Prod.fst, t.lookup k = none) :
    t.Extends (entries.foldl (fun t entry => t.insert entry.1 entry.2) t) := by
  intro k v hk
  rw [lookup_foldl_insert_of_notMem t, hk]
  intro hmem
  rw [h k hmem] at hk
  cases hk

/-- Inserting values is inserting the entries they make. -/
lemma insertAll_eq (t : Table κ α) (key : α → κ) (vs : List α) :
    t.insertAll key vs =
      (vs.map fun v => (key v, v)).foldl (fun t entry => t.insert entry.1 entry.2) t := by
  rw [insertAll, foldl_map]

/-- Inserting values with distinct keys makes each of them the value of its key. -/
theorem lookup_insertAll_of_mem (t : Table κ α) (key : α → κ) (hv : v ∈ vs)
    (hnd : (vs.map key).Nodup) : (t.insertAll key vs).lookup (key v) = some v := by
  rw [insertAll_eq]
  refine lookup_foldl_insert_of_mem t (mem_map_of_mem hv) ?_
  rw [map_map]
  exact hnd

/-- An entry of a table with a list of values is an old one or one of the list. -/
theorem lookup_insertAll_cases (t : Table κ α) (key : α → κ)
    (h : (t.insertAll key vs).lookup k = some v) : t.lookup k = some v ∨ (v ∈ vs ∧ key v = k) := by
  rw [insertAll_eq] at h
  refine (lookup_foldl_insert_cases t h).imp_right fun hmem => ?_
  obtain ⟨w, hw, heq⟩ := mem_map.1 hmem
  obtain ⟨hkey, rfl⟩ := Prod.mk.inj heq
  exact ⟨hw, hkey⟩

/-- Inserting values under new keys extends the table. -/
theorem Extends.insertAll (key : α → κ) (h : ∀ v ∈ vs, t.lookup (key v) = none) :
    t.Extends (t.insertAll key vs) := by
  rw [insertAll_eq]
  exact .foldl_insert (by simpa using h)

/-- The record of an optional link: none without a link, and the linked one otherwise. -/
inductive Linked (t : Table κ α) : Option κ → Option α → Prop
  | absent : Linked t none none
  | present {k : κ} {v : α} (h : t.lookup k = some v) : Linked t (some k) (some v)

variable {record : Option α}

/-- A link leads to an entry. -/
theorem Linked.exists_lookup (h : t.Linked (some k) record) :
    ∃ v, t.lookup k = some v := by
  cases h with
  | present hk => exact ⟨_, hk⟩

/-- A link made of the key of its record. -/
theorem Linked.of_map
    (h : ∀ v, record = some v → t.lookup (key v) = some v) : t.Linked (record.map key) record := by
  cases record with
  | none => exact .absent
  | some v => exact .present (h v rfl)

/-- A table that has the linked entry links it as well. -/
theorem Linked.mono {link : Option κ} (h : t.Linked link record)
    (hkeep : ∀ k v, link = some k → t.lookup k = some v → t'.lookup k = some v) :
    t'.Linked link record := by
  cases h with
  | absent => exact .absent
  | present hk => exact .present (hkeep _ _ rfl hk)

/-- Tables with the same lookups have the same values. -/
theorem values_perm (h : ∀ k, t.lookup k = t'.lookup k) :
    t.values.Perm t'.values := by
  refine Perm.map _ (lookup_ext t.nodupKeys t'.nodupKeys fun k v => ?_)
  have hk : dlookup k t.entries = dlookup k t'.entries := h k
  rw [hk]

/-- The values after an insertion are the new value and those of the other keys. -/
lemma exists_others (t : Table κ α) (k : κ) :
    ∃ others, (∀ v, values (t.insert k v) = v :: others) ∧
      t.values.Perm ((t.lookup k).toList ++ others) := by
  refine ⟨values (t.erase k), fun v => ?_, ?_⟩
  · rfl
  · cases hk : t.lookup k with
    | none =>
      have hnot : k ∉ t.entries.keys := fun hmem => by
        simpa [hk] using lookup_isSome.2 (mem_keys.1 hmem)
      simp only [Option.toList_none, nil_append, values]
      rw [show (t.erase k).entries = t.entries from kerase_of_notMem_keys hnot]
    | some v =>
      have hsame : ∀ k', t.lookup k' = (t.insert k v : Table κ α).lookup k' := by
        intro k'
        rw [lookup_insert]
        split
        · subst k'
          exact hk
        · rfl
      refine (values_perm hsame).trans ?_
      rfl

/-- Two values with a property that at most one value has are the same. -/
theorem eq_of_countP_le_one {l : List α} {p : α → Bool} (hle : l.countP p ≤ 1) {a b : α}
    (ha : a ∈ l) (hb : b ∈ l) (hpa : p a = true) (hpb : p b = true) : a = b := by
  rw [countP_eq_length_filter] at hle
  have hmem : a ∈ l.filter p := mem_filter.2 ⟨ha, hpa⟩
  have hmem' : b ∈ l.filter p := mem_filter.2 ⟨hb, hpb⟩
  obtain ⟨x, hx⟩ : ∃ x, l.filter p = [x] :=
    length_eq_one_iff.1 (le_antisymm hle (length_pos_of_mem hmem))
  rw [hx, mem_singleton] at hmem hmem'
  rw [hmem, hmem']

/-- How an insertion changes the number of values with a property. -/
theorem countP_values_insert (t : Table κ α) (k : κ) (v : α) (p : α → Bool) :
    (values (t.insert k v)).countP p + (t.lookup k).toList.countP p =
      t.values.countP p + [v].countP p := by
  obtain ⟨others, hinsert, hperm⟩ := t.exists_others k
  rw [hinsert, hperm.countP_eq, countP_append, countP_cons, countP_singleton]
  omega

/-- Inserting values under new and distinct keys adds them to the values. -/
theorem values_insertAll_perm (hnew : ∀ v ∈ vs, t.lookup (key v) = none)
    (hnd : (vs.map key).Nodup) :
    (t.insertAll key vs).values.Perm (t.values ++ vs) := by
  induction vs generalizing t with
  | nil => simp [insertAll]
  | cons v vs ih =>
    simp only [mem_cons, forall_eq_or_imp] at hnew
    simp only [map_cons, nodup_cons, mem_map, not_exists, not_and] at hnd
    obtain ⟨others, hinsert, hperm⟩ := t.exists_others (key v)
    rw [hnew.1] at hperm
    have hrest : ∀ w ∈ vs, (t.insert (key v) v).lookup (key w) = none := by
      intro w hw
      rw [lookup_insert_of_ne _ _ (hnd.1 w hw)]
      exact hnew.2 w hw
    refine (ih hrest hnd.2).trans ?_
    rw [hinsert]
    refine Perm.trans ?_ perm_middle.symm
    exact (hperm.symm.append_right vs).cons v

/-- Inserting the entries of a table overrides those of the same keys. -/
theorem lookup_insertEntries (t t' : Table κ α) (k : κ) :
    (t.insertEntries t').lookup k = (t'.lookup k).or (t.lookup k) := by
  have hfold : t.insertEntries t' = (t'.entries.map fun entry => (entry.1, entry.2)).foldl
      (fun t entry => t.insert entry.1 entry.2) t := by
    rw [insertEntries, foldl_map]
  have hkeys : (t'.entries.map fun entry => (entry.1, entry.2)).map Prod.fst = t'.entries.keys := by
    rw [map_map]
    rfl
  rw [hfold]
  cases hk : t'.lookup k with
  | none =>
    refine lookup_foldl_insert_of_notMem t ?_
    rw [hkeys]
    exact lookup_eq_none.1 hk
  | some v =>
    refine lookup_foldl_insert_of_mem t ?_ (hkeys ▸ t'.nodupKeys)
    exact mem_map.2 ⟨⟨k, v⟩, mem_lookup_iff.1 hk, rfl⟩

end Table
