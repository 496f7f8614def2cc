import GrokDesktop.Memory.Evaluation
import GrokDesktop.Memory.Journal
import GrokDesktop.Memory.Recovery

/-!
# The progress of the journal

No call removes an occurrence. What a call leaves under an identifier is a later form of what was
there (`AutomationOccurrence.Later`), and what is new comes from a committed evaluation. The entries
of every reachable journal therefore have their own key and the claim and run of their state.
-/

namespace GrokDesktop

open Except Table AutomationOccurrence
open Resumption
open AutomationOccurrence (queueOverlap_eq_ok moved later_finishLinked later_cancel cancel_eq_ok
  finishLinked_eq_ok later_exhaust later_promoteQueued later_acquireClaim later_bind later_linkRun)

/-- The occurrences of the journal. -/
abbrev OccurrenceTable : Type := Table AutomationOccurrenceId AutomationOccurrence

/-- Each entry has its own key, and the claim and the run of its state. -/
structure JournalEntries (t : OccurrenceTable) : Prop where
  keyed : ∀ k o, t.lookup k = some o → o.id = k
  lifecycle : ∀ k o, t.lookup k = some o → o.lifecycleShape = true

namespace JournalEntries

variable {t : OccurrenceTable}

lemma empty : JournalEntries (∅ : OccurrenceTable) where
  keyed := by simp
  lifecycle := by simp

variable {o : AutomationOccurrence}

/-- A listed occurrence is stored under its identifier. -/
theorem lookup_of_mem (ht : JournalEntries t) (ho : o ∈ t.values) :
    t.lookup o.id = some o := by
  obtain ⟨k, hk⟩ := mem_values.1 ho
  rw [ht.keyed k o hk, hk]

lemma lifecycle_of_mem (ht : JournalEntries t) (ho : o ∈ t.values) :
    o.lifecycleShape = true :=
  ht.lifecycle o.id o (ht.lookup_of_mem ho)

end JournalEntries

/-- A new entry, before any claim. -/
structure FreshEntry (k : AutomationOccurrenceId) (o : AutomationOccurrence) : Prop where
  keyed : o.id = k
  lifecycle : o.lifecycleShape = true
  unlinked : o.runId = none

/-- How a call changes the occurrences: every entry stays, in a later form, and the others are
fresh. A call that adds entries changes no other. -/
structure JournalProgress (t t' : OccurrenceTable) : Prop where
  later : ∀ k old, t.lookup k = some old → ∃ new, t'.lookup k = some new ∧ old.Later new
  fresh : ∀ k new, t'.lookup k = some new → t.lookup k = none → FreshEntry k new ∧ t.Extends t'

namespace JournalProgress

variable {t t' : OccurrenceTable} {k : AutomationOccurrenceId} {old new : AutomationOccurrence}

variable (ht : JournalEntries t)
include ht

/-- A call that replaces entries by later forms. -/
lemma of_replaced
    (h : ∀ k, t'.lookup k = t.lookup k ∨
      ∃ old new, t.lookup k = some old ∧ t'.lookup k = some new ∧ old.Later new) :
    JournalProgress t t' where
  later k old hold := by
    rcases h k with hsame | ⟨old', new, hold', hnew, hlat⟩
    · exact ⟨old, hsame.trans hold, .refl (ht.lifecycle k old hold)⟩
    · rw [hold] at hold'
      exact ⟨new, hnew, Option.some.inj hold' ▸ hlat⟩
  fresh k new hnew hnone := by
    rcases h k with hsame | ⟨old, -, hold, -⟩
    · rw [hsame, hnone] at hnew
      cases hnew
    · rw [hnone] at hold
      cases hold

lemma refl : JournalProgress t t :=
  of_replaced ht fun _ => .inl rfl

/-- One entry is replaced by a later form. -/
theorem replace (hold : t.lookup k = some old) (hlat : old.Later new) :
    JournalProgress t (t.insert k new) := by
  refine of_replaced ht fun k' => ?_
  rw [lookup_insert]
  split
  · subst k'
    exact .inr ⟨old, new, hold, rfl, hlat⟩
  · exact .inl rfl

/-- The entries keep their shape. -/
theorem entries (h : JournalProgress t t') : JournalEntries t' := by
  have hboth : ∀ k o, t'.lookup k = some o → o.id = k ∧ o.lifecycleShape = true := by
    intro k o ho
    cases hold : t.lookup k with
    | none => exact ⟨(h.fresh k o ho hold).1.keyed, (h.fresh k o ho hold).1.lifecycle⟩
    | some old =>
      obtain ⟨new, hnew, hlat⟩ := h.later k old hold
      rw [ho] at hnew
      rw [Option.some.inj hnew]
      exact ⟨hlat.id_eq.trans (ht.keyed k old hold), hlat.lifecycle⟩
  exact ⟨fun k o ho => (hboth k o ho).1, fun k o ho => (hboth k o ho).2⟩

end JournalProgress

/-! ## Evaluations -/

/-- What is stored of a proposal has the claim and the run of its state. -/
theorem Adjudicated.lifecycleShape {observedAt : UnixMillis}
    {proposed actual : AutomationOccurrence} (h : Adjudicated observedAt proposed actual)
    (hshp : proposed.lifecycleShape = true) : actual.lifecycleShape = true := by
  cases h with
  | kept => exact hshp
  | queued hque =>
    obtain ⟨-, ⟨-, hclm, hrun⟩, -, -, rfl⟩ := queueOverlap_eq_ok.1 hque
    simp [AutomationOccurrence.lifecycleShape, moved, hclm, hrun]
  | skipped hskip =>
    obtain ⟨⟨-, hclm, hrun⟩, -, -, rfl⟩ := AutomationOccurrence.moveUnclaimedTo_eq_ok.1 hskip
    simp [AutomationOccurrence.lifecycleShape, moved, hclm, hrun]

section Steps

variable {s s' : SchedulerState}

/-! ## Completions and recoveries -/

variable {now : UnixMillis} {cur new old : AutomationOccurrence} {id : AutomationId}
  {error : StoreError} {stage : RecoveryStage}

/-- A linked occurrence that ends with its run. -/
theorem later_endLinked {state : RunState} {runId : RunId} (hshp : old.lifecycleShape = true)
    (hlink : old.state = .runLinked) (h : endLinked state old runId now = .ok new) :
    old.Later new := by
  unfold endLinked at h
  split at h
  · exact later_finishLinked hshp h (.inl rfl)
  · exact later_finishLinked hshp h (.inr (.inl rfl))
  · exact later_cancel hlink h
  all_goals exact later_finishLinked hshp h (.inr (.inr rfl))

/-- A linked occurrence that ends is no longer linked. -/
theorem endLinked_state_ne {state : RunState} {runId : RunId}
    (h : endLinked state old runId now = .ok new) : new.state ≠ .runLinked := by
  unfold endLinked at h
  split at h
  case h_3 =>
    obtain ⟨-, -, -, rfl⟩ := cancel_eq_ok.1 h
    simp [moved]
  all_goals
    obtain ⟨-, -, -, rfl⟩ := finishLinked_eq_ok.1 h
    simp [moved]

/-- An occurrence that is completed with its run was linked to it. -/
theorem runLinked_of_apply {completion : AutomationOccurrenceRunCompletion} {runId : RunId}
    (hshp : old.lifecycleShape = true) (hrun : old.runId = some runId)
    (h : completion.apply old runId now = .ok new) : old.state = .runLinked := by
  cases completion with
  | cancelled =>
    have hopen := (cancel_eq_ok.1 h).1
    cases hsta : old.state <;>
      simp_all [lifecycleShape, AutomationOccurrenceState.isTerminal]
  | _ => exact (finishLinked_eq_ok.1 h).1.1

/-- Completing an occurrence ends it as its run ended. -/
theorem endLinked_runState (completion : AutomationOccurrenceRunCompletion)
    (occ : AutomationOccurrence) (runId : RunId) (now : UnixMillis) :
    endLinked completion.runState occ runId now = completion.apply occ runId now := by
  cases completion <;> rfl

variable {occ : AutomationOccurrence}

/-- A recovered occurrence is a later form. -/
lemma Recovers.later (h : Recovers s now cur occ) (hshp : cur.lifecycleShape = true) :
    cur.Later occ := by
  cases h with
  | released hrel => exact later_releaseExpiredClaim hrel
  | exhausted hrel hcnt hexh =>
    exact later_exhaust hrel hcnt hexh
  | ended hlink _ _ hend => exact later_endLinked hshp hlink hend

/-- A recovered occurrence has left its state. -/
lemma Recovers.state_ne (h : Recovers s now cur occ) : occ.state ≠ cur.state := by
  cases h with
  | released hrel =>
    obtain ⟨⟨hsta, -⟩, -, -, rfl⟩ := releaseExpiredClaim_eq_ok.1 hrel
    simp [moved, hsta]
  | exhausted hrel _ hexh =>
    obtain ⟨⟨hsta, -⟩, -, -, rfl⟩ := releaseExpiredClaim_eq_ok.1 hrel
    obtain ⟨-, -, -, rfl⟩ := markClaimsExhausted_eq_ok.1 hexh
    simp [moved, hsta]
  | ended hlink _ _ hend =>
    rw [hlink]
    exact endLinked_state_ne hend

variable {next : AutomationOccurrence}

/-- The promoted overlap is the later form of a queued entry. -/
theorem promotedOccurrence_eq_ok (h : promotedOccurrence s id now error = .ok (some next)) :
    ∃ queued ∈ s.automationOccurrences.values, queued.automationId = id ∧
      queued.state = .queuedOverlap ∧ queued.promoteQueued now = .ok next := by
  obtain ⟨queued, hque, h⟩ := bind_eq_ok.1 h
  unfold soleQueuedOccurrence at hque
  split at hque
  · rw [← Except.ok.inj hque] at h
    cases h
  · rename_i q hsing
    rw [← Except.ok.inj hque] at h
    have hmem : q ∈ (s.occurrencesOf id).filter fun occ =>
        decide (occ.state = .queuedOverlap) := by
      rw [hsing]
      exact List.mem_singleton_self q
    simp only [SchedulerState.occurrencesOf, List.mem_filter, decide_eq_true_eq] at hmem
    simp only [bind_eq_ok, mapError_eq_ok, return_eq_ok, Option.some.injEq]
      at h
    obtain ⟨_, hnext, rfl⟩ := h
    exact ⟨q, hmem.1.1, hmem.1.2, hmem.2, hnext⟩
  · cases hque

section

variable (ht : JournalEntries s.automationOccurrences)
include ht

/-- The promoted overlap is stored as the later form of its queued entry. -/
lemma later_promotedOccurrence (h : promotedOccurrence s id now error = .ok (some next)) :
    ∃ queued, s.automationOccurrences.lookup next.id = some queued ∧
      queued.state = .queuedOverlap ∧ queued.Later next ∧ next.state ≠ queued.state := by
  obtain ⟨queued, hque, -, hsta, hnext⟩ := promotedOccurrence_eq_ok h
  have hlat := later_promoteQueued hnext
  refine ⟨queued, hlat.id_eq ▸ ht.lookup_of_mem hque, hsta, hlat, ?_⟩
  obtain ⟨-, -, -, rfl⟩ := moveFrom_eq_ok.1 hnext
  simp [moved, hsta]

variable {k : AutomationOccurrenceId}

/-- What one expired occurrence adds to the stage is an entry, later and in another state. -/
theorem RecoveryStep.later {stage' : RecoveryStage}
    (hcur : cur ∈ s.automationOccurrences.values)
    (h : RecoveryStep s now stage cur stage') (hnew : stage'.occurrences.lookup k = some new) :
    stage.occurrences.lookup k = some new ∨
      ∃ old, s.automationOccurrences.lookup k = some old ∧ old.Later new ∧
        new.state ≠ old.state := by
  cases h with
  | resumable _ _ _ => exact .inl hnew
  | @recovered occ promoted attempts completed runs evs summary hrec hprom _ _ _ =>
    have hlat := hrec.later (ht.lifecycle_of_mem hcur)
    rw [lookup_insert] at hnew
    split at hnew
    · subst k
      rw [← Option.some.inj hnew, hlat.id_eq]
      exact .inr ⟨cur, ht.lookup_of_mem hcur, hlat, hrec.state_ne⟩
    · cases promoted with
      | none => exact .inl hnew
      | some next =>
        rw [insertOccurrence, lookup_insert] at hnew
        split at hnew
        · subst k
          rw [← Option.some.inj hnew]
          unfold reviewPromotion at hprom
          split at hprom
          · obtain ⟨queued, hque, -, hnext⟩ := later_promotedOccurrence ht hprom
            exact .inr ⟨queued, hque, hnext⟩
          · cases hprom
        · exact .inl hnew

end

/-- The expired occurrences are stored and active. -/
theorem mem_expiredOccurrences (h : occ ∈ s.expiredOccurrences now) :
    occ ∈ s.automationOccurrences.values ∧
      automationOccurrenceIsActive occ.state = true := by
  rw [SchedulerState.expiredOccurrences, List.mem_insertionSort, List.mem_filter] at h
  refine ⟨h.1, ?_⟩
  simp only [Bool.and_eq_true, Bool.or_eq_true, decide_eq_true_eq] at h
  rcases h.2.1 with hsta | hsta <;> rw [hsta] <;> rfl

variable [TimezoneLibrary] [Sha256Library]

variable {start : RecoveryStage} {limit : ℕ}

/-- What holds of an empty stage and is kept by every recovered occurrence holds of what a recovery
stages. -/
theorem recovery_induction {P : RecoveryStage → Prop}
    (h : ((s.expiredOccurrences now).take limit).foldlM (recoverOccurrence s now) start
      = .ok stage) (hstart : P start)
    (hstep : ∀ stage stage' cur, cur ∈ s.automationOccurrences.values →
      RecoveryStep s now stage cur stage' → P stage → P stage') : P stage := by
  refine foldlM_induction (P := fun _ => P) h hstart ?_
  intro done cur rest stage stage' hlist hdone hrec
  have hmem : cur ∈ (s.expiredOccurrences now).take limit := by simp [hlist]
  exact hstep stage stage' cur (mem_expiredOccurrences (List.mem_of_mem_take hmem)).1
    (recoverOccurrence_eq_ok hrec).2 hdone

/-- What a recovery stages are later forms of entries, in another state. -/
theorem staged_later
    (ht : JournalEntries s.automationOccurrences) (hstart : start.occurrences = ∅)
    (h : ((s.expiredOccurrences now).take limit).foldlM (recoverOccurrence s now) start
      = .ok stage) {k : AutomationOccurrenceId} (hnew : stage.occurrences.lookup k = some new) :
    ∃ old, s.automationOccurrences.lookup k = some old ∧ old.Later new ∧
      new.state ≠ old.state := by
  refine recovery_induction (P := fun stage => ∀ k new, stage.occurrences.lookup k = some new →
    ∃ old, s.automationOccurrences.lookup k = some old ∧ old.Later new ∧ new.state ≠ old.state)
    h (by simp [hstart]) ?_ k new hnew
  intro stage stage' cur hcur hstep hdone k new hnew
  exact (hstep.later ht hcur hnew).elim (hdone k new) id

/-- A recovery replaces entries by later forms. -/
lemma journalProgress_recovered
    (ht : JournalEntries s.automationOccurrences) (hstart : start.occurrences = ∅)
    (h : ((s.expiredOccurrences now).take limit).foldlM (recoverOccurrence s now) start
      = .ok stage) :
    JournalProgress s.automationOccurrences (s.writeRecovery stage).automationOccurrences := by
  rw [writeRecovery_automationOccurrences]
  refine .of_replaced ht fun k => ?_
  rw [lookup_insertEntries]
  cases hk : stage.occurrences.lookup k with
  | none => exact .inl rfl
  | some new =>
    obtain ⟨old, hold, hlat, -⟩ := staged_later ht hstart h hk
    exact .inr ⟨old, new, hold, rfl, hlat⟩

/-! ## Steps and runs -/

variable {evaluation : AutomationScheduleEvaluationCommit} {writes : EvaluationWrites}

/-- What is stored of an evaluation. -/
theorem mem_evaluationWrites (h : stageEvaluation s evaluation = .ok writes)
    {actual : AutomationOccurrence} (hact : actual ∈ writes.occurrences) :
    s.automationOccurrences.lookup actual.id = none ∧
      actual.automationId = writes.automation.id ∧ FreshEntry actual.id actual := by
  obtain ⟨snap, cur, allowedSlots, active, queued, staged, -, -, -, hstag, hwrs⟩ :=
    stageEvaluation_eq_ok h
  have hstaging := staging_of_foldlM hstag
  rw [hwrs] at hact
  obtain ⟨proposed, hproposed, hadj⟩ := exists_of_forall₂ hstaging.adjudicated hact
  have hprop := hstaging.proposal proposed hproposed
  obtain ⟨hrest, hsta, hauto, -⟩ := validateNewAutomationOccurrence_eq_ok hprop.valid
  have hshp := lifecycleShape_of_restore hrest
  obtain ⟨hori, hrid⟩ := hadj.unchanged
  have hid : actual.id = proposed.id := congrArg Origin.id hori
  have hsame : actual.automationId = proposed.automationId :=
    congrArg Origin.automationId hori
  have hrun : proposed.runId = none := by
    rcases hsta with h | h | h <;> simp_all [AutomationOccurrence.lifecycleShape]
  exact ⟨hid ▸ hprop.newId, hsame.trans hauto, rfl, hadj.lifecycleShape hshp,
    hrid.trans hrun⟩

lemma checkedClaim_eq_ok {claim : ClaimAutomationOccurrence}
    {attempts : List AutomationOccurrenceClaimAttempt}
    (h : checkedClaim s claim = .ok (cur, attempts)) :
    s.automationOccurrences.lookup claim.occurrenceId = some cur ∧
      attempts = (s.automationOccurrenceClaimAttempts.lookup claim.occurrenceId).getD [] ∧
      ∃ owned, requireAutomationSchedulerLease s claim.lease claim.claimedAt = .ok owned := by
  simp only [checkedClaim, bind_eq_ok, okOr_eq_ok, rejectIf_eq_ok, exists_const] at h
  obtain ⟨owned, hown, -, _, hcur, _, -, -, _, -, -, rfl, rfl⟩ := h
  exact ⟨hcur, rfl, owned, hown⟩

/-- Every call leaves later forms and fresh entries. -/
theorem JournalStep.progress {c : SchedulerCall} {r : c.Reply} (h : JournalStep s c r s')
    (ht : JournalEntries s.automationOccurrences) :
    JournalProgress s.automationOccurrences s'.automationOccurrences := by
  cases h with
  | unchanged | created | saved | firstLease | renewed | takenOver | began | savedRun =>
    exact .refl ht
  | evaluated hwrs =>
    -- the new entries are fresh
    have hext := Table.Extends.insertAll AutomationOccurrence.id fun actual hact =>
      (mem_evaluationWrites hwrs hact).1
    refine ⟨fun k old hold => ⟨old, hext k old hold, .refl (ht.lifecycle k old hold)⟩,
      fun k new hnew hnone => ?_⟩
    rcases lookup_insertAll_cases _ _ hnew with hold | ⟨hmem, rfl⟩
    · rw [hnone] at hold
      cases hold
    · exact ⟨(mem_evaluationWrites hwrs hmem).2.2, hext⟩
  | claimed hchk hclm _ =>
    obtain ⟨hcur, -⟩ := checkedClaim_eq_ok hchk
    have hlat := later_acquireClaim (ht.lifecycle _ _ hcur) hclm
    have hkey := hlat.id_eq.trans (ht.keyed _ _ hcur)
    exact .replace ht (hkey ▸ hcur) hlat
  | bound hchk _ hclm _ hlink _ =>
    obtain ⟨hcur, -⟩ := checkedClaim_eq_ok hchk
    have hlat := later_bind (ht.lifecycle _ _ hcur) hclm hlink
    have hkey := hlat.id_eq.trans (ht.keyed _ _ hcur)
    exact .replace ht (hkey ▸ hcur) hlat
  | linked _ hcur _ hlink _ _ =>
    exact .replace ht hcur (later_linkRun (ht.lifecycle _ _ hcur) hlink)
  | @completed occurrenceId _ _ completion _ _ _ current occurrence promoted _ _ hcur _ hrid _
      hocc hpromoted _ =>
    have hshp := ht.lifecycle _ _ hcur
    have hlinked := runLinked_of_apply hshp hrid hocc
    have hlat : current.Later occurrence :=
      later_endLinked hshp hlinked ((endLinked_runState ..).trans hocc)
    have hkey := hlat.id_eq.trans (ht.keyed _ _ hcur)
    rw [hkey]
    cases promoted with
    | none => exact .replace ht hcur hlat
    | some next =>
      -- the queued occurrence is promoted in the same write
      obtain ⟨queued, hque, -, hnext, -⟩ := later_promotedOccurrence ht hpromoted
      refine .of_replaced ht fun k' => ?_
      rw [insertOccurrence, lookup_insert, lookup_insert]
      split
      · subst k'
        exact .inr ⟨queued, next, hque, rfl, hnext⟩
      · split
        · subst k'
          exact .inr ⟨current, occurrence, hcur, rfl, hlat⟩
        · exact .inl rfl
  | recovered _ hstart hstage => exact journalProgress_recovered ht hstart.1 hstage

/-- The runs of the store: any sequence of calls that are allowed in the state they are made in. -/
def JournalRun (allowed : SchedulerState → SchedulerCall → Prop) :
    SchedulerState → SchedulerState → Prop :=
  Relation.ReflTransGen fun s s' => ∃ c r, allowed s c ∧ schedulerSystem.answers s c r s'

variable {allowed : SchedulerState → SchedulerCall → Prop}

/-- The entries of every reachable journal have their key and the shape of their state. -/
theorem JournalRun.entries
    (h : JournalRun allowed s s') (ht : JournalEntries s.automationOccurrences) :
    JournalEntries s'.automationOccurrences := by
  induction h with
  | refl => exact ht
  | tail _ hstep ih =>
    obtain ⟨c, r, -, hans⟩ := hstep
    exact ((journalStep_of_answers hans).progress ih).entries ih

/-- The state after a call that the store answers. -/
def SchedulerState.after (s : SchedulerState) (c : SchedulerCall) : SchedulerState :=
  (schedulerAnswer s c).2

/-- Each call of the list is allowed in the state it is made in. -/
def AllowedCalls (allowed : SchedulerState → SchedulerCall → Prop) :
    SchedulerState → List SchedulerCall → Prop
  | _, [] => True
  | s, c :: calls => allowed s c ∧ AllowedCalls allowed (s.after c) calls

lemma allowedCalls_true (s : SchedulerState) (calls : List SchedulerCall) :
    AllowedCalls (fun _ _ => True) s calls := by
  induction calls generalizing s with
  | nil => trivial
  | cons c calls ih => exact ⟨trivial, ih _⟩

lemma exists_answer (s : SchedulerState) (c : SchedulerCall) :
    ∃ r, schedulerSystem.answers s c r (s.after c) :=
  ⟨(schedulerAnswer s c).1, rfl⟩

lemma JournalRun.of_calls {calls : List SchedulerCall} (h : AllowedCalls allowed s calls) :
    JournalRun allowed s (calls.foldl SchedulerState.after s) := by
  induction calls generalizing s with
  | nil => exact .refl
  | cons c calls ih =>
    obtain ⟨r, hans⟩ := exists_answer s c
    exact .head ⟨c, r, h.1, hans⟩ (ih h.2)

end Steps

end GrokDesktop
