import Mathlib.Data.List.Count
import Mathlib.Data.Set.Basic
import Mathlib.Logic.Relation
import GrokDesktop.Lib.Program

/-!
# Pools of concurrent programs

The concurrent behaviour of a set of programs is a `Pool`: the shared state, the programs still
running, and the calls made so far. A pool step starts a program, answers one call, or drops
running programs (a cancelled task, or a crash, which drops them all). The order in which calls
are answered is arbitrary, so a fact about every reachable pool is a fact about every
interleaving.

Two rules turn facts about the text of one program into facts about every run of a pool.

* `Pool.Reachable.spent_lt_granted`: if every program makes the calls that *spend* a permission
  only after its own call was *granted* that permission, and uses each grant once, then in every
  run each spending call has an earlier grant of its own.
* `Pool.Reachable.exists_mark`: if every program makes certain calls only after another call of
  its own, then in every run those calls come after such a call.
-/

namespace Resumption

open List

variable {I : Interface} {S ε τ : Type}

/-- The places where a list extended by one element can be cut before an element: in the old list,
or before the new element. -/
theorem concat_eq_append_cons {α : Type} {l pre post : List α} {a b : α}
    (h : l ++ [a] = pre ++ b :: post) :
    (pre = l ∧ b = a) ∨ ∃ post', l = pre ++ b :: post' := by
  rcases eq_nil_or_concat post with rfl | ⟨post', c, rfl⟩
  · obtain ⟨hl, ha⟩ := append_inj' h rfl
    exact Or.inl ⟨hl.symm, (cons.inj ha).1.symm⟩
  · rw [concat_eq_append, ← cons_append, ← append_assoc] at h
    exact Or.inr ⟨post', (append_inj' h rfl).1⟩

/-- Two elements of a kind that has no earlier element of that kind are the same. -/
theorem eq_of_not_earlier {α : Type} {l : List α} {Q : α → Prop}
    (h : ∀ pre b post, l = pre ++ b :: post → Q b → ∀ a ∈ pre, ¬ Q a) {a b : α} (ha : a ∈ l)
    (hb : b ∈ l) (hQa : Q a) (hQb : Q b) : a = b := by
  obtain ⟨pre, post, rfl⟩ := append_of_mem hb
  rcases mem_append.1 ha with ha | ha
  · exact absurd hQa (h pre b post rfl hQb a ha)
  · rcases mem_cons.1 ha with rfl | ha
    · rfl
    · obtain ⟨mid, post, rfl⟩ := append_of_mem ha
      exact absurd hQb (h (pre ++ b :: mid) a post (by simp) hQa b (by simp))

/-- How the environment answers calls: the replies and new states it may choose. -/
structure System (I : Interface) (S : Type) where
  /-- In state `s` the call `c` may get the reply `r` and lead to the state `s'`. -/
  answers : S → (c : I.Call) → I.Reply c → S → Prop

/-- One answered call of a run, with the shared state before it. -/
structure Entry (I : Interface) (S : Type) where
  /-- The state in which the call was made. -/
  before : S
  /-- The call and its reply. -/
  event : Event I

/-- The shared state, the running programs and the calls answered so far, oldest first. -/
structure Pool (I : Interface) (S ε : Type) where
  /-- The shared state. -/
  state : S
  /-- The running programs. -/
  tasks : List (Program I ε Unit)
  /-- The answered calls, oldest first. -/
  trace : List (Entry I S)

variable {sys : System I S} {client : Program I ε Unit → Prop} {s₀ : S} {P Q : Pool I S ε}
  {e : Entry I S} {α β : Type} {p : Program I ε α}

namespace Pool

/-- The pool with nothing running in the state `s`. -/
def idle (s : S) : Pool I S ε := ⟨s, [], []⟩

/-- One step of a pool whose programs are taken from `client`. -/
inductive Step (sys : System I S) (client : Program I ε Unit → Prop) :
    Pool I S ε → Pool I S ε → Prop
  /-- A client starts a program. -/
  | spawn {s ts tr} (p : Program I ε Unit) (hp : client p) :
      Step sys client ⟨s, ts, tr⟩ ⟨s, p :: ts, tr⟩
  /-- One call of one running program is answered. -/
  | answer {s s' ts us tr} (c : I.Call) (k : I.Reply c → Program I ε Unit) (r : I.Reply c)
      (h : sys.answers s c r s') :
      Step sys client ⟨s, ts ++ .call c k :: us, tr⟩ ⟨s', ts ++ k r :: us, tr ++ [⟨s, c, r⟩]⟩
  /-- Running programs are dropped. -/
  | drop {s ts ts' tr} (h : ts'.Sublist ts) : Step sys client ⟨s, ts, tr⟩ ⟨s, ts', tr⟩

/-- The pools reachable from the idle pool in the state `s₀`. -/
def Reachable (sys : System I S) (client : Program I ε Unit → Prop) (s₀ : S)
    (P : Pool I S ε) : Prop :=
  Relation.ReflTransGen (Step sys client) (idle s₀) P

/-- A property of pools that holds initially and is kept by every step holds of every reachable
pool. -/
theorem Reachable.invariant {J : Pool I S ε → Prop} (h : Reachable sys client s₀ P)
    (h₀ : J (idle s₀)) (hstep : ∀ P Q, J P → Step sys client P Q → J Q) : J P := by
  induction h with
  | refl => exact h₀
  | tail _ hs ih => exact hstep _ _ ih hs

/-- A property of the shared state and the trace that is kept by every answer holds in every
reachable pool, and held before every call of its trace. -/
theorem Reachable.trace_invariant {K : S → List (Entry I S) → Prop}
    (h : Reachable sys client s₀ P) (h₀ : K s₀ [])
    (hans : ∀ s tr c r s', K s tr → sys.answers s c r s' → K s' (tr ++ [⟨s, c, r⟩])) :
    K P.state P.trace ∧ ∀ pre e post, P.trace = pre ++ e :: post → K e.before pre := by
  refine h.invariant (J := fun P => K P.state P.trace ∧
    ∀ pre e post, P.trace = pre ++ e :: post → K e.before pre) ⟨h₀, by simp [idle]⟩ ?_
  rintro P Q ⟨hs, htr⟩ hstep
  cases hstep with
  | spawn p hp => exact ⟨hs, htr⟩
  | drop h => exact ⟨hs, htr⟩
  | answer c k r h =>
    refine ⟨hans _ _ _ _ _ hs h, fun pre e post heq => ?_⟩
    obtain ⟨rfl, rfl⟩ | ⟨post', rfl⟩ := concat_eq_append_cons heq
    · exact hs
    · exact htr pre e post' rfl

/-- Every call of the trace was answered by the system. -/
theorem Reachable.answered (h : Reachable sys client s₀ P) (he : e ∈ P.trace) :
    ∃ s', sys.answers e.before e.event.1 e.event.2 s' := by
  refine (h.trace_invariant (K := fun _ tr => ∀ e ∈ tr,
    ∃ s', sys.answers e.before e.event.1 e.event.2 s') (by simp) ?_).1 e he
  intro s tr c r s' htr hans e he
  rcases mem_append.1 he with he | he
  · exact htr e he
  · obtain rfl := mem_singleton.1 he
    exact ⟨s', hans⟩

/-! ### Schedules -/

/-- Answers the pending call of one task as the given function does. -/
def advance (reply : S → (c : I.Call) → I.Reply c × S) (P : Pool I S ε) (i : ℕ) : Pool I S ε :=
  match P.tasks.drop i with
  | .call c k :: us =>
      ⟨(reply P.state c).2, P.tasks.take i ++ k (reply P.state c).1 :: us,
        P.trace ++ [⟨P.state, c, (reply P.state c).1⟩]⟩
  | _ => P

/-- A pool with one more task. -/
def start (P : Pool I S ε) (p : Program I ε Unit) : Pool I S ε := ⟨P.state, p :: P.tasks, P.trace⟩

/-- Another client task may start at any time. -/
lemma Reachable.start (h : Reachable sys client s₀ P) {p : Program I ε Unit} (hp : client p) :
    Reachable sys client s₀ (P.start p) :=
  .tail h (.spawn p hp)

/-- Answering the calls of tasks in any order stays within the reachable pools. -/
theorem Reachable.advance {reply : S → (c : I.Call) → I.Reply c × S}
    (hrep : ∀ s c, sys.answers s c (reply s c).1 (reply s c).2)
    (h : Reachable sys client s₀ P) (order : List ℕ) :
    Reachable sys client s₀ (order.foldl (Pool.advance reply) P) := by
  induction order generalizing P with
  | nil => exact h
  | cons i order ih =>
    refine ih ?_
    unfold Pool.advance
    split
    · rename_i c k us heq
      obtain ⟨s, ts, tr⟩ := P
      have hts : ts = ts.take i ++ .call c k :: us := by rw [← heq, take_append_drop]
      refine .tail h ?_
      nth_rewrite 1 [hts]
      exact .answer c k _ (hrep s c)
    · exact h

end Pool

/-! ### Permissions -/

/-- Permissions that programs are granted by replies and spend with calls. -/
structure Permission (I : Interface) (τ : Type) where
  /-- The permission an answered call grants. -/
  grants : Event I → Option τ
  /-- The permission a call spends. -/
  spends : I.Call → Option τ

namespace Permission

variable (A : Permission I τ)

/-- The permission held after an answered call. -/
def after (held : Option τ) (e : Event I) : Option τ :=
  match A.grants e with
  | some t => some t
  | none => if (A.spends e.1).isSome then none else held

/-- Each spending call needs the permission it spends. -/
def contract : Contract I (Option τ) where
  allowed held c := ∀ t, A.spends c = some t → held = some t
  next held c r held' := held' = A.after held ⟨c, r⟩

/-- The program makes each spending call only after a reply of its own granted the permission and
before spending it otherwise. -/
def Honours {α : Type} (p : Program I ε α) (held : Option τ) : Prop :=
  p.wp A.contract (fun _ _ => True) held

/-- A program none of whose calls grants or spends honours the permission, whatever it holds. -/
theorem Honours.of_ensures {ok : I.Call → Prop} {post : α → Prop}
    (hp : p.Ensures ok post) (hok : ∀ c, ok c → A.spends c = none ∧ ∀ r, A.grants ⟨c, r⟩ = none)
    {held : Option τ} : p.wp A.contract (fun r held' => held' = held ∧ ∀ a, r = .ok a → post a)
      held := by
  refine hp.wp (fun held' => held' = held) ?_ ?_ rfl
  · intro _ c _ hc t ht
    simp [(hok c hc).1] at ht
  · rintro _ c r _ rfl hc rfl
    simp [after, (hok c hc).1, (hok c hc).2 r]

variable [DecidableEq τ]

/-- The number of grants of `t` in a trace. -/
def granted (t : τ) (tr : List (Entry I S)) : ℕ := tr.countP fun e => A.grants e.event = some t

/-- The number of calls of a trace that spend `t`. -/
def spent (t : τ) (tr : List (Entry I S)) : ℕ := tr.countP fun e => A.spends e.event.1 = some t

/-- Each spending call of the trace has an earlier grant of its own. -/
def Covered (tr : List (Entry I S)) : Prop :=
  ∀ pre e post, tr = pre ++ e :: post → ∀ t, A.spends e.event.1 = some t →
    A.spent t pre < A.granted t pre

/-- The running programs of a pool can be given permissions that they honour, and what they hold
together is covered by the grants that have not been spent. -/
def Accounts (P : Pool I S ε) : Prop :=
  ∃ hs : List (Program I ε Unit × Option τ), hs.map Prod.fst = P.tasks ∧
    (∀ x ∈ hs, A.Honours x.1 x.2) ∧
    (∀ t, (hs.map Prod.snd).count (some t) + A.spent t P.trace ≤ A.granted t P.trace) ∧
    A.Covered P.trace

/-- Extending a covered trace by one call keeps it covered when the call spends only what is
granted and unspent. -/
theorem Covered.concat {tr : List (Entry I S)} (h : A.Covered tr)
    (he : ∀ t, A.spends e.event.1 = some t → A.spent t tr < A.granted t tr) :
    A.Covered (tr ++ [e]) := by
  intro pre e' post heq t ht
  obtain ⟨rfl, rfl⟩ | ⟨post', rfl⟩ := concat_eq_append_cons heq
  · exact he t ht
  · exact h pre e' post' rfl t ht

/-- What holding a permission before a call and after it adds to the account. -/
lemma count_after_le (held : Option τ) (e : Event I) (t : τ)
    (h : ∀ t, A.spends e.1 = some t → held = some t) :
    [A.after held e].count (some t) + (if A.spends e.1 = some t then 1 else 0) ≤
      [held].count (some t) + (if A.grants e = some t then 1 else 0) := by
  cases hs : A.spends e.1 <;> cases hg : A.grants e <;> simp_all [after]
  all_goals grind

/-- Every step keeps the accounts. -/
lemma Accounts.step (hcli : ∀ p, client p → A.Honours p none) (h : A.Accounts P)
    (hstep : P.Step sys client Q) : A.Accounts Q := by
  obtain ⟨hs, htasks, hhon, hcnt, hcov⟩ := h
  cases hstep with
  | spawn p hp =>
    refine ⟨(p, none) :: hs, by simpa using htasks, ?_, by simpa using hcnt, hcov⟩
    intro x hx
    rcases mem_cons.1 hx with rfl | hx
    · exact hcli p hp
    · exact hhon x hx
  | drop hsub =>
    dsimp only at htasks
    rw [← htasks, sublist_map_iff] at hsub
    obtain ⟨hs', hsub', rfl⟩ := hsub
    refine ⟨hs', rfl, fun x hx => hhon x (hsub'.subset hx), fun t => ?_, hcov⟩
    have hle := (hsub'.map Prod.snd).count_le (some t)
    have := hcnt t
    dsimp only at this ⊢
    omega
  | @answer s s' ts us tr c k r hans =>
    -- the account splits at the task whose call is answered
    obtain ⟨l, l', rfl, rfl, hl'⟩ := map_eq_append_iff.1 htasks
    obtain ⟨⟨p, held⟩, l'', rfl, rfl, rfl⟩ := map_eq_cons_iff.1 hl'
    have hhere : A.Honours (.call c k) held := hhon (.call c k, held) (by simp)
    refine ⟨l ++ (k r, A.after held ⟨c, r⟩) :: l'', by simp, ?_, fun t => ?_, ?_⟩
    · intro x hx
      rcases mem_append.1 hx with hx | hx
      · exact hhon x (by simp [hx])
      · rcases mem_cons.1 hx with rfl | hx
        · exact hhere.2 r _ rfl
        · exact hhon x (by simp [hx])
    · have hc := hcnt t
      have hle := A.count_after_le held ⟨c, r⟩ t hhere.1
      simp only [map_append, map_cons, count_append, granted, spent, countP_append,
        countP_singleton, count_cons, decide_eq_true_eq] at hc hle ⊢
      omega
    · refine hcov.concat A fun t ht => ?_
      have hc := hcnt t
      have hheld : held = some t := hhere.1 t ht
      simp only [map_append, map_cons, count_append, hheld, count_cons_self] at hc
      dsimp only at hc ⊢
      omega

end Permission

namespace Pool

variable [DecidableEq τ] {A : Permission I τ}

variable (h : Reachable sys client s₀ P)
include h

/-- If every client program honours the permission, then the account is kept in every run. -/
lemma Reachable.accounts (hcli : ∀ p, client p → A.Honours p none) : A.Accounts P := by
  refine h.invariant ⟨[], rfl, by simp, by simp [idle, Permission.spent], ?_⟩
    (fun P Q hP hstep => hP.step A hcli hstep)
  intro pre e post hnil
  simp [idle] at hnil

/-- If every client program honours the permission, then no more is spent than granted. -/
theorem Reachable.spent_le_granted (hcli : ∀ p, client p → A.Honours p none) (t : τ) :
    A.spent t P.trace ≤ A.granted t P.trace := by
  obtain ⟨hs, -, -, hcnt, -⟩ := h.accounts hcli
  exact Nat.le_of_add_left_le (hcnt t)

/-- If every client program honours the permission, then in every run each spending call is
preceded by more grants than spending calls of its permission. -/
theorem Reachable.spent_lt_granted
    (hcli : ∀ p, client p → A.Honours p none) {pre post : List (Entry I S)}
    (htr : P.trace = pre ++ e :: post) {t : τ}
    (ht : A.spends e.event.1 = some t) : A.spent t pre < A.granted t pre := by
  obtain ⟨hs, -, -, -, hcovered⟩ := h.accounts hcli
  exact hcovered pre e post htr t ht

/-- If a permission is granted only when a latch closes, and the latch never opens again, then it is
granted at most once, and the latch is closed after that. -/
theorem Reachable.granted_le_one {latch : S → Prop} {t : τ}
    (hstable : ∀ s c r s', sys.answers s c r s' → latch s → latch s')
    (hgrant : ∀ s c r s', sys.answers s c r s' → A.grants ⟨c, r⟩ = some t → ¬ latch s ∧ latch s') :
    (A.granted t P.trace ≤ 1 ∧ (0 < A.granted t P.trace → latch P.state)) ∧
      ∀ pre e post, P.trace = pre ++ e :: post →
        A.granted t pre ≤ 1 ∧ (0 < A.granted t pre → latch e.before) := by
  refine h.trace_invariant
    (K := fun s tr => A.granted t tr ≤ 1 ∧ (0 < A.granted t tr → latch s))
    (by simp [Permission.granted])
    fun s tr c r s' ⟨hle, hlatch⟩ hans => ?_
  simp only [Permission.granted, countP_append, countP_singleton, decide_eq_true_eq]
  simp only [Permission.granted] at hle hlatch
  split
  · rename_i hg
    obtain ⟨hopen, hclo⟩ := hgrant s c r s' hans hg
    have hzero := Nat.eq_zero_of_not_pos fun hpos => hopen (hlatch hpos)
    exact ⟨by omega, fun _ => hclo⟩
  · exact ⟨by omega, fun hpos => hstable s c r s' hans (hlatch (by omega))⟩

end Pool

/-! ### Calls that follow other calls -/

/-- Calls that a program makes only after another call of its own: `marks` says which events count
as the earlier call, `needs` which calls must come after one. -/
structure Precedence (I : Interface) (τ : Type) where
  /-- The subject an answered call marks. -/
  marks : Event I → Option τ
  /-- The subject a call needs marked. -/
  needs : I.Call → Option τ

namespace Precedence

variable (B : Precedence I τ)

/-- A call may need only what is marked. -/
def contract : Contract I (Set τ) where
  allowed marked c := ∀ t, B.needs c = some t → t ∈ marked
  next marked c r marked' := marked' = {t | t ∈ marked ∨ B.marks ⟨c, r⟩ = some t}

/-- The program makes a call that needs a mark only after marking it. -/
def Respects {α : Type} (p : Program I ε α) (marked : Set τ) : Prop :=
  p.wp B.contract (fun _ _ => True) marked

/-- The subjects marked in a trace. -/
def marked (tr : List (Entry I S)) : Set τ := {t | ∃ e ∈ tr, B.marks e.event = some t}

/-- More marks allow more. -/
theorem Respects.mono {m m' : Set τ} (h : B.Respects p m) (hm : m ⊆ m') : B.Respects p m' := by
  induction p generalizing m m' with
  | done a => trivial
  | fail e => trivial
  | call c k ih =>
    refine ⟨fun t ht => hm (h.1 t ht), ?_⟩
    rintro r _ rfl
    refine ih r (h.2 r _ rfl) ?_
    rintro t (ht | ht)
    · exact Or.inl (hm ht)
    · exact Or.inr ht

variable {m : Set τ}

/-- The rule of sequence. -/
theorem Respects.bind {f : α → Program I ε β} (hp : B.Respects p m)
    (hf : ∀ a, B.Respects (f a) m) : B.Respects (p.bind f) m := by
  induction p generalizing m with
  | done a => exact hf a
  | fail e => trivial
  | call c k ih =>
    refine ⟨hp.1, ?_⟩
    rintro r _ rfl
    exact ih r (hp.2 r _ rfl) fun a => (hf a).mono B fun t => Or.inl

/-- Turning an error into a value makes no further call. -/
theorem Respects.attempt (hp : B.Respects p m) :
    B.Respects p.attempt m :=
  (Program.wp_attempt p _).2 hp

/-- A program whose calls need only what is marked already. -/
theorem Respects.of_ensures {ok : I.Call → Prop} {post : α → Prop}
    (hp : p.Ensures ok post) (hok : ∀ c, ok c → ∀ t, B.needs c = some t → t ∈ m) :
    B.Respects p m := by
  refine Program.wp_mono (hp.wp (fun m' => m ⊆ m') ?_ ?_ subset_rfl) fun _ _ _ => trivial
  · exact fun m' c hm hc t ht => hm (hok c hc t ht)
  · rintro m' c r _ hm - rfl t ht
    exact Or.inl (hm ht)

/-- Every running program respects the precedence from the marks of the trace on, and every call
of the trace that needs a mark comes after it. -/
def Ordered (P : Pool I S ε) : Prop :=
  (∀ p ∈ P.tasks, B.Respects p (B.marked P.trace)) ∧
    ∀ pre e post, P.trace = pre ++ e :: post → ∀ t, B.needs e.event.1 = some t → t ∈ B.marked pre

/-- The marks of a trace extended by one call. -/
lemma marked_concat (tr : List (Entry I S)) (e : Entry I S) :
    B.marked (tr ++ [e]) = {t | t ∈ B.marked tr ∨ B.marks e.event = some t} := by
  simp only [marked, Set.mem_ofPred_eq, mem_append, mem_singleton, or_and_right,
    exists_or, exists_eq_left]

/-- Every step keeps the order. -/
lemma Ordered.step (hcli : ∀ p, client p → B.Respects p ∅) (h : B.Ordered P)
    (hstep : P.Step sys client Q) : B.Ordered Q := by
  obtain ⟨htasks, hneeds⟩ := h
  cases hstep with
  | spawn p hp =>
    refine ⟨fun q hq => ?_, hneeds⟩
    rcases mem_cons.1 hq with rfl | hq
    · exact (hcli _ hp).mono B (Set.empty_subset _)
    · exact htasks q hq
  | drop hsub => exact ⟨fun q hq => htasks q (hsub.subset hq), hneeds⟩
  | @answer s s' ts us tr c k r hans =>
    have hhere : B.Respects (.call c k) (B.marked tr) := htasks _ (by simp)
    have hoth : ∀ q, q ∈ ts ∨ q ∈ us → B.Respects q (B.marked (tr ++ [⟨s, c, r⟩])) := by
      intro q hq
      refine (htasks q (by grind)).mono B ?_
      rw [marked_concat]
      exact fun t => Or.inl
    refine ⟨fun q hq => ?_, fun pre e post heq t ht => ?_⟩
    · rcases mem_append.1 hq with hq | hq
      · exact hoth q (Or.inl hq)
      · rcases mem_cons.1 hq with rfl | hq
        · exact hhere.2 r _ (B.marked_concat _ _)
        · exact hoth q (Or.inr hq)
    · obtain ⟨rfl, rfl⟩ | ⟨post', rfl⟩ := concat_eq_append_cons heq
      · exact hhere.1 t ht
      · exact hneeds pre e post' rfl t ht

end Precedence

/-- If every client program respects the precedence, then in every run a call that needs a mark
comes after an event that makes it. -/
theorem Pool.Reachable.exists_mark {B : Precedence I τ} (h : Reachable sys client s₀ P)
    (hcli : ∀ p, client p → B.Respects p ∅) {pre post : List (Entry I S)}
    (htr : P.trace = pre ++ e :: post) {t : τ} (ht : B.needs e.event.1 = some t) :
    ∃ e' ∈ pre, B.marks e'.event = some t := by
  have hord : B.Ordered P :=
    h.invariant ⟨by simp [idle], by simp [idle]⟩ fun P Q hP hstep => hP.step B hcli hstep
  exact hord.2 pre e post htr t ht

end Resumption
