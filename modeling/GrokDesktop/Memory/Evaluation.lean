import GrokDesktop.Memory.Scheduler

/-!
# What an evaluation commits

The checks of a committed evaluation, taken apart: its cursor is the next one of its definition,
each proposed occurrence is new, and what is stored of it is the proposal, its queued form or its
skipped form.
-/

namespace GrokDesktop

open Except List

/-- What is stored of a proposed occurrence after the overlap policy was applied. -/
inductive Adjudicated (observedAt : UnixMillis) (proposed : AutomationOccurrence) :
    AutomationOccurrence → Prop
  | kept : Adjudicated observedAt proposed proposed
  | queued {queued : AutomationOccurrence}
      (hqueued : proposed.queueOverlap observedAt = .ok queued) :
      Adjudicated observedAt proposed queued
  | skipped {skipped : AutomationOccurrence}
      (hskipped : proposed.skipOverlap observedAt = .ok skipped) :
      Adjudicated observedAt proposed skipped

variable {proposed actual : AutomationOccurrence} {observedAt : UnixMillis}

/-- The overlap policy changes nothing that an occurrence was materialized with, nor its run. -/
theorem Adjudicated.unchanged (h : Adjudicated observedAt proposed actual) :
    actual.origin = proposed.origin ∧ actual.runId = proposed.runId := by
  cases h with
  | kept => exact ⟨rfl, rfl⟩
  | queued hque =>
    obtain ⟨-, -, -, -, rfl⟩ := AutomationOccurrence.queueOverlap_eq_ok.1 hque
    exact ⟨rfl, rfl⟩
  | skipped hskip =>
    obtain ⟨-, -, -, rfl⟩ := AutomationOccurrence.moveUnclaimedTo_eq_ok.1 hskip
    exact ⟨rfl, rfl⟩

/-- An element of the second of two related lists is related to one of the first. -/
theorem exists_of_forall₂ {α β : Type} {R : α → β → Prop} {l : List α} {l' : List β}
    (h : Forall₂ R l l') {b : β} (hb : b ∈ l') : ∃ a ∈ l, R a b := by
  induction h with
  | nil => cases hb
  | cons hab _ ih =>
    rcases mem_cons.1 hb with rfl | hb
    · exact ⟨_, mem_cons_self, hab⟩
    · obtain ⟨a, ha, hRa⟩ := ih hb
      exact ⟨a, mem_cons_of_mem _ ha, hRa⟩

/-- The overlap policy: the first pending occurrence takes the active slot, the next one the queued
slot when the policy has it, and every other one is skipped. -/
theorem adjudicateOverlap_eq_ok {staged : StagedOccurrences} {active queued : ℕ}
    (h : adjudicateOverlap staged proposed observedAt = .ok (actual, active, queued)) :
    (proposed.state ≠ .pending ∧ actual = proposed ∧ active = staged.activeCount
      ∧ queued = staged.queuedCount) ∨
    (proposed.state = .pending ∧ staged.activeCount = 0 ∧ actual = proposed ∧ active = 1
      ∧ queued = staged.queuedCount) ∨
    (proposed.state = .pending ∧ staged.activeCount ≠ 0 ∧ staged.queuedCount = 0
      ∧ proposed.queueOverlap observedAt = .ok actual ∧ active = staged.activeCount
      ∧ queued = 1) ∨
    (proposed.state = .pending ∧ staged.activeCount ≠ 0
      ∧ proposed.skipOverlap observedAt = .ok actual ∧ active = staged.activeCount
      ∧ queued = staged.queuedCount) := by
  unfold adjudicateOverlap at h
  split at h
  · obtain ⟨rfl, rfl, rfl⟩ : proposed = actual ∧ _ ∧ _ := by simpa using h
    exact .inl ⟨‹_›, rfl, rfl, rfl⟩
  rename_i hpend
  split at h
  · obtain ⟨rfl, rfl, rfl⟩ : proposed = actual ∧ _ ∧ _ := by simpa using h
    exact .inr (.inl ⟨not_not.1 hpend, ‹_›, rfl, rfl, rfl⟩)
  split at h
  · rename_i hact hpol
    simp only [bind_eq_ok, mapError_eq_ok] at h
    obtain ⟨_, hqueue, rfl, rfl, rfl⟩ := h
    exact .inr (.inr (.inl ⟨not_not.1 hpend, hact, hpol.2, hqueue, rfl, rfl⟩))
  · rename_i hact _
    simp only [bind_eq_ok, mapError_eq_ok] at h
    obtain ⟨_, hskip, rfl, rfl, rfl⟩ := h
    exact .inr (.inr (.inr ⟨not_not.1 hpend, hact, hskip, rfl, rfl⟩))

section Staging

variable [TimezoneLibrary] [Sha256Library]

/-- A proposed occurrence that passes the checks of an evaluation against the store. -/
structure Proposal (s : SchedulerState) (automation : Automation)
    (snapshot : AutomationExecutionSnapshot) (cursor : AutomationScheduleCursor)
    (observedAt : UnixMillis) (allowedSlots : List AutomationLocalDateTime)
    (proposed : AutomationOccurrence) : Prop where
  valid : validateNewAutomationOccurrence proposed automation snapshot cursor observedAt = .ok ()
  allowed : proposed.nominalLocal ∈ allowedSlots
  newId : s.automationOccurrences.lookup proposed.id = none
  newSlot : ∀ stored ∈ s.occurrencesOf proposed.automationId, stored.slot ≠ proposed.slot

variable {s : SchedulerState} {automation : Automation} {snapshot : AutomationExecutionSnapshot}
  {cursor : AutomationScheduleCursor} {observedAt : UnixMillis}
  {allowedSlots : List AutomationLocalDateTime} {staged staged' : StagedOccurrences}
  {proposed : AutomationOccurrence}

lemma validateNewAutomationOccurrence_eq_ok
    (h : validateNewAutomationOccurrence proposed automation snapshot cursor observedAt = .ok ()) :
    proposed.restore.isOk = true ∧
      (proposed.state = .pending ∨ proposed.state = .skippedInvalidLocalTime
        ∨ proposed.state = .skippedMissed) ∧
      proposed.automationId = automation.id ∧ proposed.snapshot = snapshot ∧
      proposed.updatedAt = observedAt := by
  simp only [validateNewAutomationOccurrence, bind_eq_ok, mapError_eq_ok, rejectIf_eq_ok, not_or,
    not_not] at h
  obtain ⟨_, hrest, hsta, -, haut, hsnap, -, -, hupd, -⟩ := h
  refine ⟨isOk_iff.2 ⟨_, hrest⟩, ?_, haut, hsnap, hupd⟩
  cases hprop : proposed.state <;> simp_all

lemma stageOccurrence_eq_ok
    (h : stageOccurrence s automation snapshot cursor observedAt allowedSlots staged proposed
      = .ok staged') :
    Proposal s automation snapshot cursor observedAt allowedSlots proposed ∧
      proposed.slot ∉ staged.slots ∧
      ∃ actual active queued,
        adjudicateOverlap staged proposed observedAt = .ok (actual, active, queued) ∧
        staged' = {
          activeCount := active
          queuedCount := queued
          occurrences := staged.occurrences ++ [actual]
          slots := staged.slots ++ [proposed.slot]
          priorLocal := some proposed.nominalLocal } := by
  simp only [stageOccurrence, bind_eq_ok, rejectIf_eq_ok, exists_const, not_or, not_not,
    Bool.not_eq_true, Table.contains_eq_false, not_exists, not_and, return_eq_ok] at h
  obtain ⟨_, hval, ⟨-, hall, hslot, hid, hsto⟩, ⟨actual, active, queued⟩, hadj, h⟩ := h
  exact ⟨⟨hval, hall, hid, hsto⟩, hslot, actual, active, queued, hadj, h.symm⟩

/-- What is staged of a list of proposed occurrences. -/
structure Staging (s : SchedulerState) (automation : Automation)
    (snapshot : AutomationExecutionSnapshot) (cursor : AutomationScheduleCursor)
    (observedAt : UnixMillis) (allowedSlots : List AutomationLocalDateTime)
    (proposals : List AutomationOccurrence) (staged : StagedOccurrences) : Prop where
  proposal : ∀ proposed ∈ proposals,
    Proposal s automation snapshot cursor observedAt allowedSlots proposed
  adjudicated : List.Forall₂ (Adjudicated observedAt) proposals staged.occurrences
  slots : staged.slots = proposals.map AutomationOccurrence.slot
  nodup : (proposals.map AutomationOccurrence.slot).Nodup

/-- Staging adds one adjudicated occurrence for each proposal. -/
theorem staging_of_foldlM {proposals : List AutomationOccurrence} {active queued : ℕ}
    (h : proposals.foldlM (stageOccurrence s automation snapshot cursor observedAt allowedSlots)
      { activeCount := active, queuedCount := queued } = .ok staged) :
    Staging s automation snapshot cursor observedAt allowedSlots proposals staged := by
  refine foldlM_induction (P := Staging s automation snapshot cursor observedAt allowedSlots)
    h ⟨by simp, .nil, rfl, .nil⟩ ?_
  intro done proposed rest staged staged' _ hdone hstage
  obtain ⟨hprop, hslot, actual, active, queued, hadj, rfl⟩ :=
    stageOccurrence_eq_ok hstage
  have hact : Adjudicated observedAt proposed actual := by
    obtain ⟨-, rfl, -⟩ | ⟨-, -, rfl, -⟩ | ⟨-, -, -, hqueue, -⟩ | ⟨-, -, hskip, -⟩ :=
      adjudicateOverlap_eq_ok hadj
    · exact .kept
    · exact .kept
    · exact .queued hqueue
    · exact .skipped hskip
  refine ⟨?_, ?_, ?_, ?_⟩
  · intro p hp
    rcases mem_append.1 hp with hp | hp
    · exact hdone.proposal p hp
    · rw [mem_singleton.1 hp]
      exact hprop
  · exact rel_append hdone.adjudicated (.cons hact .nil)
  · rw [hdone.slots, map_append, map_singleton]
  · rw [map_append]
    refine nodup_append.2 ⟨hdone.nodup, nodup_singleton _, ?_⟩
    intro slot hmem other hoth heq
    rw [mem_singleton.1 hoth] at heq
    exact hslot (hdone.slots ▸ heq ▸ hmem)

/-- What an accepted evaluation stages. -/
lemma stageEvaluation_eq_ok {evaluation : AutomationScheduleEvaluationCommit}
    {writes : EvaluationWrites} (h : stageEvaluation s evaluation = .ok writes) :
    ∃ snapshot cur allowedSlots active queued staged,
      checkedEvaluation s evaluation = .ok (writes.automation, snapshot, cur) ∧
      allowedEvaluationSlots snapshot cur evaluation.cursor.evaluatedThrough
        = .ok allowedSlots ∧
      countOccurrences s writes.automation.id = .ok (active, queued) ∧
      evaluation.occurrences.foldlM (stageOccurrence s writes.automation snapshot
        evaluation.cursor evaluation.observedAt allowedSlots)
        { activeCount := active, queuedCount := queued } = .ok staged ∧
      writes.occurrences = staged.occurrences := by
  simp only [stageEvaluation, bind_eq_ok, return_eq_ok] at h
  obtain ⟨⟨automation, snapshot, cur⟩, hchk, allowedSlots, hall, ⟨active, queued⟩,
    hcnt, staged, hstag, -, -, history, -, rfl⟩ := h
  exact ⟨snapshot, cur, allowedSlots, active, queued, staged, hchk, hall, hcnt, hstag, rfl⟩

/-- The counts that an evaluation starts from. -/
theorem countOccurrences_eq_ok {id : AutomationId} {active queued : ℕ}
    (h : countOccurrences s id = .ok (active, queued)) :
    active = (s.occurrencesOf id).countP (fun o => automationOccurrenceIsActive o.state) ∧
      queued = (s.occurrencesOf id).countP (fun o => decide (o.state = .queuedOverlap)) ∧
      active ≤ 1 ∧ queued ≤ active := by
  simp only [countOccurrences, bind_eq_ok, rejectIf_eq_ok, exists_const, not_or, not_lt] at h
  obtain ⟨-, ⟨hact, hque, hboth⟩, rfl, rfl⟩ := h
  refine ⟨rfl, rfl, hact, ?_⟩
  omega

end Staging

end GrokDesktop
