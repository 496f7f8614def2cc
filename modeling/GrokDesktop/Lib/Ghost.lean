import Mathlib.Data.Multiset.AddSub
import GrokDesktop.Lib.Pool

/-!
# Pools without losses

A pool whose programs are never dropped: a call that was started goes on until it returns. What a
running program holds in its local variables then counts for the shared state, and the rule of this
module keeps the account. Each running program carries a ghost value that follows its own replies,
and the invariant relates the shared state and the trace to the multiset of the ghost values of all
running programs.

The rule needs one step lemma: an answer to an allowed call keeps the invariant when the ghost
value of the calling program changes as its contract says.
-/

namespace Resumption

variable {I : Interface} {S ε G : Type}

/-- The second components of a list with one element taken to the front. -/
lemma coe_map_snd_middle {α : Type} (l l' : List (α × G)) (x : α × G) :
    (((l ++ x :: l').map Prod.snd : List G) : Multiset G) =
      x.2 ::ₘ ((l ++ l').map Prod.snd : List G) := by
  rw [List.map_append, List.map_append]
  exact Multiset.coe_eq_coe.2 List.perm_middle

namespace Pool

/-- One step of a pool whose programs are never dropped. -/
inductive Move (sys : System I S) (client : Program I ε Unit → Prop) :
    Pool I S ε → Pool I S ε → Prop
  /-- A client starts a program. -/
  | spawn {s ts tr} (p : Program I ε Unit) (hp : client p) :
      Move sys client ⟨s, ts, tr⟩ ⟨s, p :: ts, tr⟩
  /-- One call of one running program is answered. -/
  | answer {s s' ts us tr} (c : I.Call) (k : I.Reply c → Program I ε Unit) (r : I.Reply c)
      (h : sys.answers s c r s') :
      Move sys client ⟨s, ts ++ .call c k :: us, tr⟩ ⟨s', ts ++ k r :: us, tr ++ [⟨s, c, r⟩]⟩

/-- The pools that runs without losses reach from the idle pool in the state `s₀`. -/
def Runs (sys : System I S) (client : Program I ε Unit → Prop) (s₀ : S) (P : Pool I S ε) : Prop :=
  Relation.ReflTransGen (Move sys client) (idle s₀) P

variable {sys : System I S} {client : Program I ε Unit → Prop} {s₀ : S} {P : Pool I S ε}

/-- A system that answers more and more clients allow more runs. -/
theorem Runs.mono {sys' : System I S} {client' : Program I ε Unit → Prop}
    (h : Runs sys client s₀ P) (hsys : ∀ s c r s', sys.answers s c r s' → sys'.answers s c r s')
    (hcli : ∀ p, client p → client' p) : Runs sys' client' s₀ P := by
  induction h with
  | refl => exact .refl
  | tail _ hmove ih =>
    refine .tail ih ?_
    cases hmove with
    | spawn p hp => exact .spawn p (hcli p hp)
    | answer c k r h => exact .answer c k r (hsys _ c r _ h)

/-- Another client task may start at any time. -/
lemma Runs.start (h : Runs sys client s₀ P) {p : Program I ε Unit} (hp : client p) :
    Runs sys client s₀ (P.start p) :=
  .tail h (.spawn p hp)

/-- Answers the pending call of one task as the given function does, if the call is enabled. -/
def advanceIf (enabled : S → I.Call → Bool) (reply : S → (c : I.Call) → I.Reply c × S)
    (P : Pool I S ε) (i : ℕ) : Pool I S ε :=
  match P.tasks.drop i with
  | .call c k :: us =>
      if enabled P.state c then
        ⟨(reply P.state c).2, P.tasks.take i ++ k (reply P.state c).1 :: us,
          P.trace ++ [⟨P.state, c, (reply P.state c).1⟩]⟩
      else P
  | _ => P

/-- Answering the enabled calls of tasks in any order stays within the runs without losses. -/
theorem Runs.advanceIf {enabled : S → I.Call → Bool} {reply : S → (c : I.Call) → I.Reply c × S}
    (hrep : ∀ s c, enabled s c = true → sys.answers s c (reply s c).1 (reply s c).2)
    (h : Runs sys client s₀ P) (order : List ℕ) :
    Runs sys client s₀ (order.foldl (Pool.advanceIf enabled reply) P) := by
  induction order generalizing P with
  | nil => exact h
  | cons i order ih =>
    refine ih ?_
    unfold Pool.advanceIf
    split
    · rename_i c k us heq
      split_ifs with henabled
      · obtain ⟨s, ts, tr⟩ := P
        have hts : ts = ts.take i ++ .call c k :: us := by rw [← heq, List.take_append_drop]
        refine .tail h ?_
        nth_rewrite 1 [hts]
        exact .answer c k _ (hrep s c henabled)
      · exact h
    · exact h

/-- The running programs with their ghost values: each program meets its contract from its value,
and the values of all of them meet the invariant. -/
structure Ghosts (C : Contract I G) (Q : Except ε Unit → G → Prop)
    (inv : S → List (Entry I S) → Multiset G → Prop) (P : Pool I S ε)
    (hs : List (Program I ε Unit × G)) : Prop where
  tasks : hs.map Prod.fst = P.tasks
  wp : ∀ x ∈ hs, x.1.wp C Q x.2
  inv : inv P.state P.trace (hs.map Prod.snd : List G)

variable {C : Contract I G} {Q : Except ε Unit → G → Prop}
  {inv : S → List (Entry I S) → Multiset G → Prop}

/-- What an answer to a call must keep: the invariant, with the ghost value of the caller changed as
its contract says. -/
def KeepsGhosts (sys : System I S) (C : Contract I G)
    (inv : S → List (Entry I S) → Multiset G → Prop) : Prop :=
  ∀ s tr g others c r s', inv s tr (g ::ₘ others) → C.allowed g c → sys.answers s c r s' →
    ∃ g', C.next g c r g' ∧ inv s' (tr ++ [⟨s, c, r⟩]) (g' ::ₘ others)

/-- One step of a pool keeps the account of its ghost values. -/
lemma Ghosts.move {hs : List (Program I ε Unit × G)} {P P' : Pool I S ε} {idleGhost : G}
    (h : Ghosts C Q inv P hs) (hcli : ∀ p, client p → p.wp C Q idleGhost)
    (hspawn : ∀ s tr m, inv s tr m → inv s tr (idleGhost ::ₘ m)) (hkeeps : KeepsGhosts sys C inv)
    (hmove : Move sys client P P') : ∃ hs', Ghosts C Q inv P' hs' := by
  cases hmove with
  | spawn p hp =>
    refine ⟨(p, idleGhost) :: hs, by simpa using h.tasks, ?_, ?_⟩
    · intro x hx
      rcases List.mem_cons.1 hx with rfl | hx
      · exact hcli p hp
      · exact h.wp x hx
    · exact hspawn _ _ _ h.inv
  | @answer s s' ts us tr c k r hans =>
    -- the account splits at the program whose call is answered
    obtain ⟨l, l', rfl, rfl, hl'⟩ := List.map_eq_append_iff.1 h.tasks
    obtain ⟨⟨p, g⟩, l'', rfl, rfl, rfl⟩ := List.map_eq_cons_iff.1 hl'
    have hhere : (Program.call c k).wp C Q g := h.wp (.call c k, g) (by simp)
    have hinv : inv s tr (g ::ₘ ((l ++ l'').map Prod.snd : List G)) := by
      have hinv := h.inv
      rwa [coe_map_snd_middle] at hinv
    obtain ⟨g', hnext, hinv'⟩ := hkeeps s tr g _ c r s' hinv hhere.1 hans
    refine ⟨l ++ (k r, g') :: l'', by simp, ?_, ?_⟩
    · intro x hx
      rcases List.mem_append.1 hx with hx | hx
      · exact h.wp x (by simp [hx])
      · rcases List.mem_cons.1 hx with rfl | hx
        · exact hhere.2 r g' hnext
        · exact h.wp x (by simp [hx])
    · rw [coe_map_snd_middle]
      exact hinv'

/-- In every run without losses the running programs have ghost values that meet the invariant. -/
theorem Runs.ghosts {idleGhost : G} (h : Runs sys client s₀ P)
    (hcli : ∀ p, client p → p.wp C Q idleGhost) (h₀ : inv s₀ [] 0)
    (hspawn : ∀ s tr m, inv s tr m → inv s tr (idleGhost ::ₘ m)) (hkeeps : KeepsGhosts sys C inv) :
    ∃ hs, Ghosts C Q inv P hs := by
  induction h with
  | refl => exact ⟨[], rfl, by simp, h₀⟩
  | tail _ hmove ih =>
    obtain ⟨hs, hghosts⟩ := ih
    exact hghosts.move hcli hspawn hkeeps hmove

end Pool

end Resumption
