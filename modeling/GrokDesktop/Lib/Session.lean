import Mathlib.Data.List.Induction
import Mathlib.Data.List.Nodup
import GrokDesktop.Lib.Pool

/-!
# Sessions of a pool

When every program of a pool opens a session of its own with its first call and names that session
in every later call, the calls of one session in the trace of a run are the calls of one program,
in its order. What holds of the calls of one program then holds of every session of every
interleaving.
-/

namespace Resumption

open List

variable {I : Interface} {S ε α : Type}

/-! ### The calls of one program -/

/-- The program gets the listed answers and goes on as the second program. -/
inductive Program.Gets : Program I ε α → List (Event I) → Program I ε α → Prop
  | here (p : Program I ε α) : Gets p [] p
  | answer {c : I.Call} {k : I.Reply c → Program I ε α} {r : I.Reply c} {events : List (Event I)}
      {q : Program I ε α} (h : Gets (k r) events q) : Gets (.call c k) (⟨c, r⟩ :: events) q

namespace Program.Gets

variable {p q : Program I ε α} {events later : List (Event I)} {c : I.Call}
  {k : I.Reply c → Program I ε α}

/-- One more answer. -/
theorem concat (h : p.Gets events (.call c k)) (r : I.Reply c) :
    p.Gets (events ++ [⟨c, r⟩]) (k r) := by
  generalize hq : Program.call c k = q at h
  induction h with
  | here p =>
    subst hq
    exact .answer (.here _)
  | answer _ ih => exact .answer (ih hq)

/-- The first part of the answers. -/
theorem split (h : p.Gets (events ++ later) q) : ∃ m, p.Gets events m ∧ m.Gets later q := by
  induction events generalizing p with
  | nil => exact ⟨p, .here p, h⟩
  | cons e events ih =>
    cases h with
    | answer h =>
      obtain ⟨m, hm, hq⟩ := ih h
      exact ⟨m, .answer hm, hq⟩

/-- A precondition that follows the answers holds after them. -/
theorem wp {C : Contract I G} (follow : G → Event I → G) {Q : Except ε α → G → Prop} {g : G}
    (hnext : ∀ g c r, C.next g c r (follow g ⟨c, r⟩)) (h : p.Gets events q) (hp : p.wp C Q g) :
    q.wp C Q (events.foldl follow g) := by
  induction h generalizing g with
  | here p => exact hp
  | answer _ ih => exact ih (hp.2 _ _ (hnext _ _ _))

end Program.Gets

/-! ### Sessions -/

/-- Which calls open a session and which calls name one. -/
structure Sessions (I : Interface) where
  /-- The session that an answered call opens. -/
  opens : Event I → Option ℕ
  /-- The session that a call names. -/
  names : I.Call → Option ℕ

namespace Sessions

variable (X : Sessions I)

/-- The session of an answered call. -/
def session (e : Event I) : Option ℕ := (X.opens e).or (X.names e.1)

/-- The answered calls of one session, oldest first. -/
def eventsOf (t : ℕ) (tr : List (Entry I S)) : List (Event I) :=
  (tr.map Entry.event).filter fun e => X.session e = some t

/-- The events of a session. -/
lemma mem_eventsOf {t : ℕ} {tr : List (Entry I S)} {e : Event I} :
    e ∈ X.eventsOf t tr ↔ (∃ a ∈ tr, a.event = e) ∧ X.session e = some t := by
  simp [eventsOf]

/-- The calls of a session with one more call of the pool. -/
lemma eventsOf_concat (t : ℕ) (tr : List (Entry I S)) (e : Entry I S) :
    X.eventsOf t (tr ++ [e]) =
      if X.session e.event = some t then X.eventsOf t tr ++ [e.event] else X.eventsOf t tr := by
  by_cases h : X.session e.event = some t <;> simp [eventsOf, h]

/-- Every call names the session and opens none. -/
def Within (t : ℕ) (p : Program I ε α) : Prop :=
  p.Ensures (fun c => X.names c = some t ∧ ∀ r, X.opens ⟨c, r⟩ = none) fun _ => True

/-- The program opens a session with its first call and stays within it. -/
def Opening : Program I ε α → Prop
  | .call c k => ∀ r, ∃ t, X.opens ⟨c, r⟩ = some t ∧ X.Within t (k r)
  | _ => False

/-- The system opens sessions with numbers that were not used before. -/
structure Numbered (sys : System I S) (count : S → ℕ) : Prop where
  opened : ∀ s c r s' t, sys.answers s c r s' → X.opens ⟨c, r⟩ = some t →
    t = count s ∧ count s' = count s + 1
  kept : ∀ s c r s', sys.answers s c r s' → X.opens ⟨c, r⟩ = none → count s' = count s

/-- The programs of a pool with the sessions they have opened. -/
structure Separated (count : S → ℕ) (client : Program I ε Unit → Prop) (P : Pool I S ε)
    (hs : List (Program I ε Unit × Option ℕ)) : Prop where
  tasks : hs.map Prod.fst = P.tasks
  fresh : ∀ p, (p, none) ∈ hs → client p
  opened : ∀ p t, (p, some t) ∈ hs → t < count P.state ∧ X.Within t p ∧
    ∃ p₀, client p₀ ∧ p₀.Gets (X.eventsOf t P.trace) p
  distinct : (hs.filterMap Prod.snd).Nodup
  unused : ∀ t, count P.state ≤ t → X.eventsOf t P.trace = []
  run : ∀ t, X.eventsOf t P.trace = [] ∨
    ∃ p₀ q, client p₀ ∧ p₀.Gets (X.eventsOf t P.trace) q

variable {X} {sys : System I S} {count : S → ℕ} {client : Program I ε Unit → Prop}

/-- Every pool step keeps the sessions apart. -/
theorem Separated.step (hcli : ∀ p, client p → X.Opening p) (hnum : X.Numbered sys count)
    {P Q : Pool I S ε} {hs : List (Program I ε Unit × Option ℕ)}
    (h : X.Separated count client P hs) (hstep : P.Step sys client Q) :
    ∃ hs', X.Separated count client Q hs' := by
  cases hstep with
  | spawn p hp =>
    refine ⟨(p, none) :: hs, by simpa using h.tasks, ?_, ?_, by simpa using h.distinct,
      h.unused, h.run⟩
    · rintro q hq
      rcases mem_cons.1 hq with hq | hq
      · rw [(Prod.mk.inj hq).1]
        exact hp
      · exact h.fresh q hq
    · rintro q t hq
      exact h.opened q t (by simpa using hq)
  | drop hsub =>
    have htasks := h.tasks
    dsimp only at htasks
    rw [← htasks, sublist_map_iff] at hsub
    obtain ⟨hs', hsub', rfl⟩ := hsub
    exact ⟨hs', rfl, fun p hp => h.fresh p (hsub'.subset hp),
      fun p t hp => h.opened p t (hsub'.subset hp), (hsub'.filterMap _).nodup h.distinct,
      h.unused, h.run⟩
  | @answer s s' ts us tr c k r hans =>
    obtain ⟨l, l', rfl, rfl, hl'⟩ := map_eq_append_iff.1 h.tasks
    obtain ⟨⟨p, held⟩, l'', rfl, rfl, rfl⟩ := map_eq_cons_iff.1 hl'
    -- the session of the answered call: a new one, or the one that the program holds
    obtain ⟨t, hsess, hgets, hwith, hlt, hle, hoth⟩ : ∃ t, X.session ⟨c, r⟩ = some t ∧
        (∃ p₀, client p₀ ∧ p₀.Gets (X.eventsOf t tr ++ [⟨c, r⟩]) (k r)) ∧ X.Within t (k r) ∧
        t < count s' ∧ count s ≤ count s' ∧ ∀ p t', (p, some t') ∈ l ++ l'' → t' ≠ t := by
      cases held with
      | none =>
        have hp : client (.call c k) := h.fresh _ (by simp)
        obtain ⟨t, ht, hwith⟩ := hcli _ hp r
        obtain ⟨rfl, hcnt⟩ := hnum.opened s c r s' t hans ht
        refine ⟨_, by simp [session, ht], ⟨_, hp, ?_⟩, hwith, by omega, by omega, ?_⟩
        · rw [show X.eventsOf (count s) tr = [] from h.unused _ le_rfl]
          exact .answer (.here _)
        · intro p t' hmem
          have := (h.opened p t' (by grind)).1
          dsimp only at this
          omega
      | some t =>
        obtain ⟨hlt, hwith, p₀, hp₀, hgets⟩ := h.opened (.call c k) t (by simp)
        obtain ⟨⟨hnames, hopens⟩, hrest⟩ := hwith
        have hcnt := hnum.kept s c r s' hans (hopens r)
        refine ⟨t, by simp [session, hopens r, hnames], ⟨p₀, hp₀, hgets.concat r⟩, hrest r,
          by simpa [hcnt] using hlt, by omega, ?_⟩
        rintro p t' hmem rfl
        have hdist := h.distinct
        rw [filterMap_append, filterMap_cons_some (f := Prod.snd) rfl,
          nodup_middle, ← filterMap_append, nodup_cons] at hdist
        exact hdist.1 (mem_filterMap.2 ⟨_, hmem, rfl⟩)
    have hsame : ∀ t', t' ≠ t → X.eventsOf t' (tr ++ [⟨s, c, r⟩]) = X.eventsOf t' tr := by
      intro t' hne
      rw [eventsOf_concat, hsess, if_neg (by simpa using hne.symm)]
    have hnew : X.eventsOf t (tr ++ [⟨s, c, r⟩]) = X.eventsOf t tr ++ [⟨c, r⟩] := by
      rw [eventsOf_concat, if_pos hsess]
    refine ⟨l ++ (k r, some t) :: l'', by simp, ?_, ?_, ?_, ?_, ?_⟩
    · exact fun q hq => h.fresh q (by grind)
    · intro q t' hq
      by_cases heq : (q, some t') = (k r, some t)
      · obtain ⟨rfl, ht⟩ := Prod.mk.inj heq
        obtain rfl := Option.some.inj ht
        exact ⟨hlt, hwith, hnew ▸ hgets⟩
      · have hmem : (q, some t') ∈ l ++ l'' := by grind
        obtain ⟨hlt', hwith', hgets'⟩ := h.opened q t' (by grind)
        exact ⟨Nat.lt_of_lt_of_le hlt' hle, hwith', (hsame t' (hoth q t' hmem)).symm ▸ hgets'⟩
    · have hsub : (l ++ l'').Sublist (l ++ (.call c k, held) :: l'') :=
        Sublist.append_left (sublist_cons_self _ _) l
      rw [filterMap_append, filterMap_cons_some (f := Prod.snd) rfl, nodup_middle,
        ← filterMap_append, nodup_cons]
      refine ⟨fun hmem => ?_, (hsub.filterMap _).nodup h.distinct⟩
      obtain ⟨⟨q, _⟩, hq, rfl⟩ := mem_filterMap.1 hmem
      exact hoth q t hq rfl
    · intro t' ht'
      rw [hsame t' (by dsimp only at ht'; omega)]
      exact h.unused t' (le_trans hle ht')
    · intro t'
      by_cases heq : t' = t
      · subst heq
        obtain ⟨p₀, hp₀, hgets⟩ := hgets
        exact .inr ⟨p₀, k r, hp₀, hnew ▸ hgets⟩
      · rw [hsame t' heq]
        exact h.run t'

end Sessions

variable {X : Sessions I} {sys : System I S} {count : S → ℕ} {client : Program I ε Unit → Prop}
  {s₀ : S} {P : Pool I S ε} {Q : Except ε α → List (Event I) → Prop}

/-- The calls of each session of a run are the calls of one of its programs. -/
theorem Pool.Reachable.session (h : Pool.Reachable sys client s₀ P)
    (hcli : ∀ p, client p → X.Opening p)
    (hnum : X.Numbered sys count) (t : ℕ) :
    X.eventsOf t P.trace = [] ∨ ∃ p q, client p ∧ p.Gets (X.eventsOf t P.trace) q := by
  have hsep : ∃ hs, X.Separated count client P hs := by
    refine h.invariant (J := fun P => ∃ hs, X.Separated count client P hs) ?_ ?_
    · exact ⟨[], rfl, by simp, by simp, by simp, fun _ _ => rfl, fun _ => .inl rfl⟩
    · rintro P Q ⟨hs, hP⟩ hstep
      exact hP.step hcli hnum hstep
  obtain ⟨hs, hsep⟩ := hsep
  exact hsep.run t

/-! ### Calls that depend on the earlier calls of their session -/

/-- Each call must be allowed after the earlier calls of the program. -/
def historyContract (allowed : List (Event I) → I.Call → Prop) : Contract I (List (Event I)) where
  allowed := allowed
  next h c r h' := h' = h ++ [⟨c, r⟩]

/-- A call that its history allows. -/
lemma Program.wp_history {allowed : List (Event I) → I.Call → Prop} {c : I.Call}
    {f : I.Reply c → Program I ε α} {h : List (Event I)} (hall : allowed h c)
    (hrest : ∀ r, (f r).wp (historyContract allowed) Q (h ++ [⟨c, r⟩])) :
    ((Program.call c Program.done).bind f).wp (historyContract allowed) Q h := by
  refine ⟨hall, ?_⟩
  rintro r _ rfl
  exact hrest r

/-- A call of a program is allowed after the answers before it. -/
theorem Program.Gets.allowed {allowed : List (Event I) → I.Call → Prop} {p q : Program I ε α}
    {before after : List (Event I)} {e : Event I}
    (h : p.Gets (before ++ e :: after) q) (hp : p.wp (historyContract allowed) Q []) :
    allowed before e.1 := by
  obtain ⟨m, hm, hlat⟩ := h.split
  have hwp := hm.wp (fun h e => h ++ [e]) (fun _ _ _ => rfl) hp
  rw [foldl_append_eq_append, ← flatMap_def, flatMap_singleton'] at hwp
  cases hlat with
  | answer _ => exact hwp.1

/-- In every run a call is allowed after the earlier calls of its session. -/
theorem Pool.Reachable.allowed_after_session {allowed : List (Event I) → I.Call → Prop}
    (h : Pool.Reachable sys client s₀ P)
    (hcli : ∀ p, client p → X.Opening p) (hnum : X.Numbered sys count)
    (hwp : ∀ p, client p → p.wp (historyContract allowed) (fun _ _ => True) [])
    {pre post : List (Entry I S)} {e : Entry I S} (htr : P.trace = pre ++ e :: post) {t : ℕ}
    (ht : X.session e.event = some t) : allowed (X.eventsOf t pre) e.event.1 := by
  have hevs : X.eventsOf t P.trace =
      X.eventsOf t pre ++ e.event :: X.eventsOf t post := by
    rw [htr]
    simp [Sessions.eventsOf, ht]
  rcases h.session hcli hnum t with hnil | ⟨p, q, hp, hgets⟩
  · simp [hnil] at hevs
  · rw [hevs] at hgets
    exact hgets.allowed (hwp p hp)

end Resumption
