import GrokDesktop.Memory.Progress

/-!
# The slots of an automation

An automation has one active slot (pending, claimed or linked to a run) and one queued slot, which
is used only while the active one is. The rule is kept by counting: every operation replaces an
occurrence by one that takes the same slot, or ends the active one and promotes the queued one.

The rule is kept by every operation but two. An evaluation whose occurrences share an identifier
writes the later one over the earlier one, and a recovery that finds the run of an expired
occurrence ended does not promote the queued one.
-/

namespace GrokDesktop

open Resumption Table SchedulerState AutomationOccurrenceState AutomationOccurrence List Option
open Except
open AutomationOccurrence (moveFrom_eq_ok queueOverlap_eq_ok moved finishLinked_eq_ok cancel_eq_ok
  later_acquireClaim acquireClaim_eq_ok claimedBy later_bind linkRun_eq_ok)

/-- The occurrence takes the active slot of the automation. -/
def activeOf (id : AutomationId) (occurrence : AutomationOccurrence) : Bool :=
  occurrence.automationId = id && automationOccurrenceIsActive occurrence.state

/-- The occurrence takes the queued slot of the automation. -/
def queuedOf (id : AutomationId) (occurrence : AutomationOccurrence) : Bool :=
  occurrence.automationId = id && occurrence.state = .queuedOverlap

/-- Every automation uses each slot at most once, and the queued one only beside the active one. -/
def SlotRule (t : OccurrenceTable) : Prop :=
  ∀ id, t.values.countP (activeOf id) ≤ 1 ∧
    t.values.countP (queuedOf id) ≤ t.values.countP (activeOf id)

/-- The overlap that takes the place of an ended occurrence: the queued one, promoted, and none only
if nothing is queued. -/
def Promotes (t : OccurrenceTable) (automationId : AutomationId) :
    Option AutomationOccurrence → Prop
  | none => ∀ k o, t.lookup k = some o → o.automationId = automationId → o.state ≠ .queuedOverlap
  | some next => ∃ queued, t.lookup next.id = some queued ∧ queued.state = .queuedOverlap ∧
      queued.automationId = automationId ∧ next.automationId = automationId ∧
      next.state = .pending

namespace SlotRule

variable {t t' : OccurrenceTable} {k : AutomationOccurrenceId} {old new : AutomationOccurrence}

lemma empty : SlotRule (∅ : OccurrenceTable) :=
  fun _ => ⟨Nat.zero_le _, Nat.le_refl _⟩

variable (ht : SlotRule t)
include ht

/-- The rule depends on the entries of the table only. -/
theorem congr (h : ∀ k, t.lookup k = t'.lookup k) : SlotRule t' := by
  intro id
  have hperm := values_perm h
  rw [← hperm.countP_eq, ← hperm.countP_eq]
  exact ht id

/-- An occurrence is replaced by one in the same slot. -/
theorem replace (hold : t.lookup k = some old) (hauto : new.automationId = old.automationId)
    (hact : automationOccurrenceIsActive new.state = automationOccurrenceIsActive old.state)
    (hque : decide (new.state = .queuedOverlap) = decide (old.state = .queuedOverlap)) :
    SlotRule (t.insert k new) := by
  intro id
  have hcoun := t.countP_values_insert k new (activeOf id)
  have hcountQ := t.countP_values_insert k new (queuedOf id)
  have hsameA : activeOf id new = activeOf id old := by
    simp only [activeOf, hauto, hact]
  have hsameQ : queuedOf id new = queuedOf id old := by
    simp only [queuedOf, hauto, hque]
  simp only [hold, toList_some, countP_singleton, hsameA, hsameQ] at hcoun hcountQ
  have hrule := ht id
  omega

/-- The active occurrence of an automation ends, and the queued one is promoted when there is
one. -/
theorem finish (hold : t.lookup k = some old)
    (hact : automationOccurrenceIsActive old.state = true)
    (hend : automationOccurrenceIsActive new.state = false)
    (hque : new.state ≠ .queuedOverlap) {promoted : Option AutomationOccurrence}
    (hprom : Promotes t old.automationId promoted) :
    SlotRule (insertOccurrence (t.insert k new) promoted) := by
  intro id
  have hrule := ht id
  have hcoun := t.countP_values_insert k new (activeOf id)
  have hcountQ := t.countP_values_insert k new (queuedOf id)
  have hA : activeOf id new = false := by simp [activeOf, hend]
  have hQ : queuedOf id new = false := by simp [queuedOf, hque]
  have hsta : old.state ≠ .queuedOverlap := by
    intro h
    simp [h, automationOccurrenceIsActive] at hact
  have hAold : activeOf id old = decide (old.automationId = id) := by simp [activeOf, hact]
  simp only [hold, toList_some, countP_singleton, hA, hQ, hAold] at hcoun hcountQ
  cases promoted with
  | none =>
    have hnone : old.automationId = id → t.values.countP (queuedOf id) = 0 := by
      rintro rfl
      refine countP_eq_zero.2 fun o ho => ?_
      obtain ⟨k, hk⟩ := mem_values.1 ho
      simpa [queuedOf] using hprom k o hk
    simp only [insertOccurrence]
    by_cases hid : old.automationId = id
    · have hzero := hnone hid
      simp [hid] at hcoun hcountQ
      omega
    · simp [hid] at hcoun hcountQ
      omega
  | some next =>
    obtain ⟨queued, hget, hqst, hqid, hnid, hnst⟩ := hprom
    have hne : next.id ≠ k := by
      rintro rfl
      rw [hold] at hget
      exact hsta ((some.inj hget) ▸ hqst)
    have hcoun' := countP_values_insert (t.insert k new) next.id next (activeOf id)
    have hcountQ' := countP_values_insert (t.insert k new) next.id next (queuedOf id)
    have hAq : activeOf id queued = false := by
      simp [activeOf, hqst, automationOccurrenceIsActive]
    have hAn : activeOf id next = decide (old.automationId = id) := by
      simp [activeOf, hnst, hnid, automationOccurrenceIsActive]
    have hQn : queuedOf id next = false := by simp [queuedOf, hnst]
    rw [lookup_insert_of_ne _ _ hne, hget] at hcoun' hcountQ'
    simp only [toList_some, countP_singleton, hAq, hAn, hQn]
      at hcoun' hcountQ'
    simp only [insertOccurrence]
    by_cases hid : old.automationId = id
    all_goals
      simp [hid] at hcoun hcountQ hcoun' hcountQ'
      omega

variable {o o' : AutomationOccurrence}

/-- Two occurrences in the active slot of one automation are the same. -/
lemma eq_of_active (ho : o ∈ t.values)
    (ho' : o' ∈ t.values) (hauto : o'.automationId = o.automationId)
    (hact : automationOccurrenceIsActive o.state = true)
    (hact' : automationOccurrenceIsActive o'.state = true) : o = o' :=
  eq_of_countP_le_one (ht o.automationId).1 ho ho' (by simp [activeOf, hact])
    (by simp [activeOf, hact', hauto])

end SlotRule

variable {s : SchedulerState} {now : UnixMillis}

/-- What the promotion after an end promotes. -/
lemma promotes_of_promotedOccurrence {id : AutomationId}
    {error : StoreError} {promoted : Option AutomationOccurrence}
    (ht : JournalEntries s.automationOccurrences)
    (h : promotedOccurrence s id now error = .ok promoted) :
    Promotes s.automationOccurrences id promoted := by
  cases promoted with
  | some next =>
    obtain ⟨queued, hque, hauto, hsta, hnext⟩ := promotedOccurrence_eq_ok h
    obtain ⟨-, -, -, rfl⟩ := moveFrom_eq_ok.1 hnext
    exact ⟨queued, ht.lookup_of_mem hque, hsta, hauto, hauto, rfl⟩
  | none =>
    intro k o hk hauto hsta
    have hmem : o ∈ (s.occurrencesOf id).filter fun occ =>
        decide (occ.state = .queuedOverlap) := by
      simp [occurrencesOf, hauto, hsta, mem_values.2 ⟨k, hk⟩]
    obtain ⟨queued, hque, h⟩ := bind_eq_ok.1 h
    unfold soleQueuedOccurrence at hque
    split at hque
    · rename_i hnil
      rw [hnil] at hmem
      cases hmem
    · rw [← Except.ok.inj hque] at h
      simp only [bind_eq_ok, return_eq_ok, reduceCtorEq, and_false, exists_false] at h
    · cases hque

/-! ## Evaluations -/

section Evaluations

variable [TimezoneLibrary] [Sha256Library] {s : SchedulerState}

/-- Staging keeps the counts of the two slots. -/
lemma stagedCounts {automation : Automation} {snap : AutomationExecutionSnapshot}
    {cursor : AutomationScheduleCursor} {observedAt : UnixMillis}
    {allowedSlots : List AutomationLocalDateTime} {proposals : List AutomationOccurrence}
    {active queued : ℕ} {staged : StagedOccurrences} (hact : active ≤ 1)
    (hque : queued ≤ active)
    (h : proposals.foldlM (stageOccurrence s automation snap cursor observedAt allowedSlots)
      { activeCount := active, queuedCount := queued } = .ok staged) :
    active + staged.occurrences.countP (activeOf automation.id) ≤ 1 ∧
      queued + staged.occurrences.countP (queuedOf automation.id) ≤
        active + staged.occurrences.countP (activeOf automation.id) := by
  suffices hcounts :
      staged.activeCount = active + staged.occurrences.countP (activeOf automation.id)
      ∧ staged.queuedCount = queued + staged.occurrences.countP (queuedOf automation.id)
      ∧ staged.activeCount ≤ 1 ∧ staged.queuedCount ≤ staged.activeCount by omega
  refine foldlM_induction (P := fun _ staged =>
    staged.activeCount = active + staged.occurrences.countP (activeOf automation.id)
      ∧ staged.queuedCount = queued + staged.occurrences.countP (queuedOf automation.id)
      ∧ staged.activeCount ≤ 1 ∧ staged.queuedCount ≤ staged.activeCount) h
    ⟨rfl, rfl, hact, hque⟩ ?_
  intro done proposed rest staged staged' _ ⟨hA, hQ, hle, hbes⟩ hstage
  obtain ⟨hprop, -, actual, active', queued', hadj, rfl⟩ := stageOccurrence_eq_ok hstage
  obtain ⟨-, hsta, hauto, -⟩ := validateNewAutomationOccurrence_eq_ok hprop.valid
  simp only [countP_append, countP_singleton]
  obtain ⟨hoth, rfl, rfl, rfl⟩ | ⟨hpend, hzero, rfl, rfl, rfl⟩ |
    ⟨-, hone, hnone, hqueue, rfl, rfl⟩ | ⟨-, hone, hskip, rfl, rfl⟩ :=
    adjudicateOverlap_eq_ok hadj
  · have hA' : activeOf automation.id actual = false := by
      rcases hsta with h | h | h
      · exact absurd h hoth
      · simp [activeOf, h, automationOccurrenceIsActive]
      · simp [activeOf, h, automationOccurrenceIsActive]
    have hQ' : queuedOf automation.id actual = false := by
      rcases hsta with h | h | h <;> simp [queuedOf, h]
    simp only [hA', hQ']
    simp
    omega
  · have hA' : activeOf automation.id actual = true := by
      simp [activeOf, hpend, hauto, automationOccurrenceIsActive]
    have hQ' : queuedOf automation.id actual = false := by simp [queuedOf, hpend]
    simp only [hA', hQ']
    simp
    omega
  · obtain ⟨-, -, -, -, rfl⟩ := queueOverlap_eq_ok.1 hqueue
    have hA' : activeOf automation.id (proposed.moved .queuedOverlap observedAt) = false := by
      simp [activeOf, moved, automationOccurrenceIsActive]
    have hQ' : queuedOf automation.id (proposed.moved .queuedOverlap observedAt) = true := by
      simp [queuedOf, moved, hauto]
    simp only [hA', hQ']
    simp
    omega
  · obtain ⟨-, -, -, rfl⟩ := moveUnclaimedTo_eq_ok.1 hskip
    have hA' : activeOf automation.id (proposed.moved .skippedOverlap observedAt) = false := by
      simp [activeOf, moved, automationOccurrenceIsActive]
    have hQ' : queuedOf automation.id (proposed.moved .skippedOverlap observedAt) = false := by
      simp [queuedOf, moved]
    simp only [hA', hQ']
    simp
    omega

/-- A committed evaluation whose occurrences have identifiers of their own keeps the rule. -/
theorem SlotRule.evaluated {evaluation : AutomationScheduleEvaluationCommit}
    {writes : EvaluationWrites} (ht : SlotRule s.automationOccurrences)
    (hids : (evaluation.occurrences.map AutomationOccurrence.id).Nodup)
    (h : stageEvaluation s evaluation = .ok writes) :
    SlotRule (s.automationOccurrences.insertAll AutomationOccurrence.id writes.occurrences) := by
  obtain ⟨snap, cur, allowedSlots, active, queued, staged, -, -, hcnt, hstag,
    hwrs⟩ := stageEvaluation_eq_ok h
  obtain ⟨hact, hque, hle, hbes⟩ := countOccurrences_eq_ok hcnt
  have hstaging := staging_of_foldlM hstag
  have hnd : (writes.occurrences.map AutomationOccurrence.id).Nodup := by
    have hsame : writes.occurrences.map AutomationOccurrence.id =
        evaluation.occurrences.map AutomationOccurrence.id := by
      rw [hwrs, ← forall₂_eq_eq_eq, forall₂_map_left_iff, forall₂_map_right_iff]
      exact hstaging.adjudicated.flip.imp fun _ _ h =>
        congrArg AutomationOccurrence.Origin.id h.unchanged.1
    rw [hsame]
    exact hids
  have hnew : ∀ actual ∈ writes.occurrences, s.automationOccurrences.lookup actual.id = none :=
    fun actual hactual => (mem_evaluationWrites h hactual).1
  have hauto : ∀ actual ∈ writes.occurrences, actual.automationId = writes.automation.id :=
    fun actual hactual => (mem_evaluationWrites h hactual).2.1
  intro id
  have hperm := values_insertAll_perm hnew hnd
  rw [hperm.countP_eq, hperm.countP_eq, countP_append, countP_append]
  by_cases hid : id = writes.automation.id
  · subst hid
    have hsto := stagedCounts hle hbes hstag
    rw [hwrs]
    simp only [hact, hque, occurrencesOf, countP_filter] at hsto
    have hA : (activeOf writes.automation.id) = fun o : AutomationOccurrence =>
        automationOccurrenceIsActive o.state && decide (o.automationId = writes.automation.id) :=
      funext fun o => Bool.and_comm _ _
    have hQ : (queuedOf writes.automation.id) = fun o : AutomationOccurrence =>
        decide (o.state = .queuedOverlap) && decide (o.automationId = writes.automation.id) :=
      funext fun o => Bool.and_comm _ _
    rw [hA, hQ] at hsto ⊢
    exact hsto
  · have hA : writes.occurrences.countP (activeOf id) = 0 := by
      refine countP_eq_zero.2 fun o ho => ?_
      simp [activeOf, hauto o ho, Ne.symm hid]
    have hQ : writes.occurrences.countP (queuedOf id) = 0 := by
      refine countP_eq_zero.2 fun o ho => ?_
      simp [queuedOf, hauto o ho, Ne.symm hid]
    have hrule := ht id
    omega

end Evaluations

/-! ## Recovery -/

/-- The run has ended by itself: it needs no review. -/
def RunState.hasEnded (state : RunState) : Prop :=
  state = .completed ∨ state = .failed ∨ state = .cancelled

/-- How an expired occurrence ends: it returns to pending, or it needs review, or its run has
ended. -/
theorem Recovers.ends
    {cur occ : AutomationOccurrence} (h : Recovers s now cur occ) :
    occ.state = .pending ∨ occ.state = .interruptedNeedsReview ∨
      (cur.state = .runLinked ∧ occ.state.isTerminal = true ∧
        ∃ runId run, cur.runId = some runId ∧ s.runs.lookup runId = some run ∧
          run.state.hasEnded) := by
  cases h with
  | released hrel =>
    obtain ⟨-, -, -, rfl⟩ := releaseExpiredClaim_eq_ok.1 hrel
    exact .inl rfl
  | exhausted _ _ hexh =>
    obtain ⟨-, -, -, rfl⟩ := markClaimsExhausted_eq_ok.1 hexh
    exact .inr (.inl rfl)
  | @ended runId run _ hlink hrid hrun hend =>
    cases hsta : run.state <;> simp only [hsta] at hend
    case completed =>
      obtain ⟨-, -, -, rfl⟩ := finishLinked_eq_ok.1 hend
      exact .inr (.inr ⟨hlink, rfl, runId, run, hrid, hrun, .inl hsta⟩)
    case failed =>
      obtain ⟨-, -, -, rfl⟩ := finishLinked_eq_ok.1 hend
      exact .inr (.inr ⟨hlink, rfl, runId, run, hrid, hrun, .inr (.inl hsta)⟩)
    case cancelled =>
      obtain ⟨-, -, -, rfl⟩ := cancel_eq_ok.1 hend
      exact .inr (.inr ⟨hlink, rfl, runId, run, hrid, hrun, .inr (.inr hsta)⟩)
    all_goals
      obtain ⟨-, -, -, rfl⟩ := finishLinked_eq_ok.1 hend
      exact .inr (.inl rfl)

/-- No linked occurrence of the recovered batch whose run has ended has a queued one behind it. -/
def NoStrandedOverlap (s : SchedulerState) (now : UnixMillis) (limit : ℕ) : Prop :=
  ∀ occurrence ∈ (s.expiredOccurrences now).take limit, occurrence.state = .runLinked →
    ∀ runId run, occurrence.runId = some runId → s.runs.lookup runId = some run →
      run.state.hasEnded → ∀ queued ∈ s.occurrencesOf occurrence.automationId,
        queued.state ≠ .queuedOverlap

/-- What is staged of the occurrences recovered so far: it belongs to their automations, and the
slots of the journal are used as they should with it. -/
structure StagedSlots (s : SchedulerState) (done : List AutomationOccurrence)
    (stage : RecoveryStage) : Prop where
  owned : ∀ k o, stage.occurrences.lookup k = some o → ∃ old,
    s.automationOccurrences.lookup k = some old ∧ old.automationId = o.automationId ∧
      ∃ recovered ∈ done, recovered.automationId = o.automationId
  slots : SlotRule (s.automationOccurrences.insertEntries stage.occurrences)

/-- No occurrence is recovered twice. -/
lemma nodup_expiredOccurrences (ht : JournalEntries s.automationOccurrences)
    (now : UnixMillis) : (s.expiredOccurrences now).Nodup := by
  rw [expiredOccurrences, (perm_insertionSort _ _).nodup_iff]
  exact (Nodup.of_map _ (nodup_map_values ht.keyed)).filter _

section Recovery

variable {s : SchedulerState} {now : UnixMillis} {done rest : List AutomationOccurrence}
  {cur : AutomationOccurrence} {stage stage' : RecoveryStage}

variable {k : AutomationOccurrenceId}

/-- What belongs to the automation of the next expired occurrence is not staged. -/
theorem StagedSlots.lookup_eq_none (hslot : SlotRule s.automationOccurrences)
    (hnd : (done ++ cur :: rest).Nodup)
    (hexp : ∀ o ∈ done ++ cur :: rest, o ∈ s.expiredOccurrences now)
    (hstage : StagedSlots s done stage) {o : AutomationOccurrence}
    (ho : s.automationOccurrences.lookup k = some o)
    (hauto : o.automationId = cur.automationId) : stage.occurrences.lookup k = none := by
  cases hk : stage.occurrences.lookup k with
  | none => rfl
  | some o' =>
    obtain ⟨old, hold, hsame, recovered, hmem, hrec⟩ := hstage.owned k o' hk
    rw [ho] at hold
    obtain rfl := some.inj hold
    -- the automation would have two active occurrences
    obtain ⟨hsto, hact⟩ := mem_expiredOccurrences (hexp cur (by simp))
    obtain ⟨hsto', hact'⟩ := mem_expiredOccurrences (hexp recovered (by simp [hmem]))
    have heq : cur = recovered := hslot.eq_of_active hsto hsto'
      (by rw [hrec, ← hsame, hauto]) hact hact'
    rw [nodup_append] at hnd
    exact absurd heq.symm (hnd.2.2 recovered hmem cur (by simp))

/-- The store has the entries of the automation of the next expired occurrence as it had them
before the recovery. -/
lemma StagedSlots.lookup_iff (hslot : SlotRule s.automationOccurrences)
    (hnd : (done ++ cur :: rest).Nodup)
    (hexp : ∀ o ∈ done ++ cur :: rest, o ∈ s.expiredOccurrences now)
    (hstage : StagedSlots s done stage) {o : AutomationOccurrence}
    (hauto : o.automationId = cur.automationId) :
    (s.automationOccurrences.insertEntries stage.occurrences).lookup k = some o ↔
      s.automationOccurrences.lookup k = some o := by
  rw [lookup_insertEntries]
  constructor
  · intro ho
    cases hk : stage.occurrences.lookup k with
    | none =>
      rw [hk] at ho
      exact ho
    | some o' =>
      rw [hk] at ho
      obtain rfl : o' = o := some.inj ho
      obtain ⟨old, hold, hold', -⟩ := hstage.owned k o' hk
      rw [hstage.lookup_eq_none hslot hnd hexp hold (hold'.trans hauto)] at hk
      cases hk
  · intro ho
    rw [hstage.lookup_eq_none hslot hnd hexp ho hauto]
    exact ho

variable {promoted : Option AutomationOccurrence}

/-- Staging the promoted overlap and then the recovered occurrence is the same as writing the
recovered occurrence and then the promoted overlap. -/
lemma lookup_staged (t staged : OccurrenceTable) (occ : AutomationOccurrence)
    (hne : ∀ next, promoted = some next → next.id ≠ occ.id) (k : AutomationOccurrenceId) :
    (insertOccurrence ((t.insertEntries staged).insert occ.id occ) promoted).lookup k =
      (t.insertEntries
        ((insertOccurrence staged promoted).insert occ.id occ)).lookup k := by
  cases promoted with
  | none =>
    simp only [insertOccurrence, lookup_insert, lookup_insertEntries]
    split <;> rfl
  | some next =>
    simp only [insertOccurrence, lookup_insert, lookup_insertEntries]
    by_cases hk : k = next.id
    · rw [if_pos hk, if_neg (hk ▸ hne next rfl), if_pos hk]
      rfl
    · rw [if_neg hk]
      split <;> rfl

/-- One more occurrence is staged with the overlap it promotes. -/
lemma StagedSlots.extend {occ : AutomationOccurrence} (hstage : StagedSlots s done stage)
    (hget : s.automationOccurrences.lookup cur.id = some cur)
    (hlat : cur.Later occ)
    (hstag : stage'.occurrences =
      (insertOccurrence stage.occurrences promoted).insert occ.id occ)
    (hprom : ∀ next, promoted = some next → next.id ≠ cur.id ∧
      next.automationId = cur.automationId ∧ ∃ queued,
        s.automationOccurrences.lookup next.id = some queued ∧
          queued.automationId = cur.automationId)
    (hslot : SlotRule (insertOccurrence
      ((s.automationOccurrences.insertEntries stage.occurrences).insert cur.id occ)
        promoted)) :
    StagedSlots s (done ++ [cur]) stage' := by
  refine ⟨fun k o ho => ?_, ?_⟩
  · have hold : stage.occurrences.lookup k = some o → ∃ old,
        s.automationOccurrences.lookup k = some old ∧ old.automationId = o.automationId ∧
          ∃ recovered ∈ done ++ [cur], recovered.automationId = o.automationId := by
      intro hk
      obtain ⟨old, hold, hsame, recovered, hmem, hrec⟩ := hstage.owned k o hk
      exact ⟨old, hold, hsame, recovered, by simp [hmem], hrec⟩
    rw [hstag, lookup_insert] at ho
    split at ho
    · subst k
      rw [← some.inj ho, hlat.automationId_eq, hlat.id_eq]
      exact ⟨cur, hget, rfl, cur, by simp, rfl⟩
    · cases promoted with
      | none => exact hold ho
      | some next =>
        rw [insertOccurrence, lookup_insert] at ho
        split at ho
        · subst k
          obtain ⟨-, hnext, queued, hque, hsame⟩ := hprom next rfl
          rw [← some.inj ho, hnext]
          exact ⟨queued, hque, hsame, cur, by simp, rfl⟩
        · exact hold ho
  · rw [← hlat.id_eq] at hslot
    refine hslot.congr fun k => ?_
    rw [hstag]
    exact lookup_staged _ _ occ (fun next hnext => hlat.id_eq ▸ (hprom next hnext).1) k

variable (ht : JournalEntries s.automationOccurrences)
include ht

/-- The overlap that a recovered occurrence leaves room for, which a safe recovery promotes. -/
lemma promotes_of_recovers {occ : AutomationOccurrence}
    (hsafe : cur.state = .runLinked → ∀ runId run, cur.runId = some runId →
      s.runs.lookup runId = some run → run.state.hasEnded →
        ∀ queued ∈ s.occurrencesOf cur.automationId, queued.state ≠ .queuedOverlap)
    (hlat : cur.Later occ) (hrec : Recovers s now cur occ)
    (hpend : occ.state ≠ .pending)
    (hprom : reviewPromotion s occ now = .ok promoted) :
    Promotes s.automationOccurrences cur.automationId promoted := by
  unfold reviewPromotion at hprom
  split at hprom
  · rw [← hlat.automationId_eq]
    exact promotes_of_promotedOccurrence ht hprom
  · rename_i hrev
    rw [← Except.ok.inj hprom]
    obtain h | h | ⟨hlink, -, runId, run, hrid, hrun, hend⟩ := hrec.ends
    · exact absurd h hpend
    · exact absurd h hrev
    · intro k q hq hsame
      refine hsafe hlink runId run hrid hrun hend q ?_
      exact mem_filter.2 ⟨mem_values.2 ⟨k, hq⟩, by simpa using hsame⟩

/-- Recovering one more occurrence keeps the slots of the staged journal. -/
theorem StagedSlots.step {limit : ℕ}
    (hslot : SlotRule s.automationOccurrences) (hsafe : NoStrandedOverlap s now limit)
    (hlist : (s.expiredOccurrences now).take limit = done ++ cur :: rest)
    (hstage : StagedSlots s done stage) (h : RecoveryStep s now stage cur stage') :
    StagedSlots s (done ++ [cur]) stage' := by
  have hnd : (done ++ cur :: rest).Nodup :=
    hlist ▸ (nodup_expiredOccurrences ht now).sublist (take_sublist limit _)
  have hexp : ∀ o ∈ done ++ cur :: rest, o ∈ s.expiredOccurrences now :=
    fun o ho => mem_of_mem_take (hlist ▸ ho)
  obtain ⟨hsto, hact⟩ := mem_expiredOccurrences (hexp cur (by simp))
  have hget := ht.lookup_of_mem hsto
  have hiff : ∀ {k o}, o.automationId = cur.automationId →
      ((s.automationOccurrences.insertEntries stage.occurrences).lookup k = some o ↔
        s.automationOccurrences.lookup k = some o) :=
    fun hsame => hstage.lookup_iff hslot hnd hexp hsame
  cases h with
  | resumable _ _ _ =>
    refine ⟨fun k o ho => ?_, hstage.slots⟩
    obtain ⟨old, hold, hsame, recovered, hmem, hrecovered⟩ := hstage.owned k o ho
    exact ⟨old, hold, hsame, recovered, by simp [hmem], hrecovered⟩
  | @recovered occ promoted attempts completed runs evs summary hrec hprom _ _ _ =>
    have hlat := hrec.later (ht.lifecycle_of_mem hsto)
    by_cases hpend : occ.state = .pending
    · -- a released claim stays in its slot
      rw [reviewPromotion, if_neg (by simp [hpend])] at hprom
      obtain rfl := Except.ok.inj hprom
      refine hstage.extend hget hlat rfl (fun _ h => nomatch h) ?_
      refine hstage.slots.replace ((hiff rfl).2 hget) hlat.automationId_eq ?_ ?_
      · rw [hpend, hact]
        rfl
      · have hsta : cur.state ≠ .queuedOverlap := by
          intro h
          simp [h, automationOccurrenceIsActive] at hact
        simp [hpend, hsta]
    · -- an ended occurrence leaves its slot to the promoted one
      have hpromotes := promotes_of_recovers ht (hsafe cur (hlist ▸ by simp)) hlat hrec
        hpend hprom
      refine hstage.extend hget hlat rfl ?_ ?_
      · rintro next rfl
        obtain ⟨queued, hque, hsta, hsame, hnext, -⟩ := hpromotes
        refine ⟨fun heq => ?_, hnext, queued, hque, hsame⟩
        rw [heq, hget] at hque
        rw [some.inj hque, hsta] at hact
        cases hact
      · refine hstage.slots.finish ((hiff rfl).2 hget) hact ?_ ?_ ?_
        · rcases hrec.ends with h | h | ⟨-, h, -⟩
          · exact absurd h hpend
          · rw [h]
            rfl
          · cases hsta : occ.state <;>
              simp_all [isTerminal, automationOccurrenceIsActive]
        · intro h
          rcases hrec.ends with h' | h' | ⟨-, h', -⟩ <;> rw [h] at h' <;> cases h'
        · cases promoted with
          | none => exact fun k o ho hsame => hpromotes k o ((hiff hsame).1 ho) hsame
          | some next =>
            obtain ⟨queued, hque, hsta, hsame, hnext⟩ := hpromotes
            exact ⟨queued, (hiff hsame).2 hque, hsta, hsame, hnext⟩

/-- A safe recovery keeps the rule. -/
theorem SlotRule.recovered [TimezoneLibrary] [Sha256Library] {start : RecoveryStage} {limit : ℕ}
    (hslot : SlotRule s.automationOccurrences)
    (hsafe : NoStrandedOverlap s now limit) (hstart : start.occurrences = ∅)
    (h : ((s.expiredOccurrences now).take limit).foldlM (recoverOccurrence s now) start
      = .ok stage) :
    SlotRule (s.writeRecovery stage).automationOccurrences := by
  rw [writeRecovery_automationOccurrences]
  refine (foldlM_induction (P := StagedSlots s) h ⟨?_, ?_⟩ ?_).slots
  · simp [hstart]
  · rw [hstart]
    exact hslot
  · intro done cur rest stage stage' hlist hdone hstep
    exact hdone.step ht hslot hsafe hlist (recoverOccurrence_eq_ok hstep).2

end Recovery

/-! ## Steps and runs -/

section Runs

variable [TimezoneLibrary] [Sha256Library] {s s' : SchedulerState}

/-- The calls that keep the slots: the occurrences of an evaluation have identifiers of their own,
and a recovery strands no queued occurrence. -/
def SlotSafe (s : SchedulerState) : SchedulerCall → Prop
  | .commitEvaluation evaluation => (evaluation.occurrences.map AutomationOccurrence.id).Nodup
  | .recoverClaims _ now limit => NoStrandedOverlap s now limit
  | _ => True

/-- Every safe call keeps the rule. -/
theorem JournalStep.slots {c : SchedulerCall} {r : c.Reply} (h : JournalStep s c r s')
    (hsafe : SlotSafe s c) (ht : JournalEntries s.automationOccurrences)
    (hslot : SlotRule s.automationOccurrences) : SlotRule s'.automationOccurrences := by
  cases h with
  | unchanged | created | saved | firstLease | renewed | takenOver | began | savedRun =>
    exact hslot
  | evaluated hwrs => exact hslot.evaluated hsafe hwrs
  | claimed hchk hclm _ =>
    obtain ⟨hcur, -⟩ := checkedClaim_eq_ok hchk
    have hlat := later_acquireClaim (ht.lifecycle _ _ hcur) hclm
    have hkey := hlat.id_eq.trans (ht.keyed _ _ hcur)
    obtain ⟨⟨hsta, -⟩, -, -, rfl⟩ := acquireClaim_eq_ok.1 hclm
    refine hslot.replace (hkey ▸ hcur) hlat.automationId_eq ?_ ?_
    · rw [hsta]
      rfl
    · simp [hsta, claimedBy, moved]
  | bound hchk _ hclm _ hlink _ =>
    obtain ⟨hcur, -⟩ := checkedClaim_eq_ok hchk
    have hlat := later_bind (ht.lifecycle _ _ hcur) hclm hlink
    have hkey := hlat.id_eq.trans (ht.keyed _ _ hcur)
    obtain ⟨⟨hsta, -⟩, -⟩ := acquireClaim_eq_ok.1 hclm
    obtain ⟨-, -, -, rfl⟩ := linkRun_eq_ok.1 hlink
    refine hslot.replace (hkey ▸ hcur) hlat.automationId_eq ?_ ?_
    · rw [hsta]
      rfl
    · simp [hsta, moved]
  | linked _ hcur _ hlink _ _ =>
    obtain ⟨⟨hsta, -⟩, -, -, rfl⟩ := linkRun_eq_ok.1 hlink
    refine hslot.replace hcur rfl ?_ ?_
    · rw [hsta]
      rfl
    · simp [hsta, moved]
  | @completed occurrenceId _ _ completion _ _ _ current occurrence _ _ _ hcur _ hrid _
      hocc hprom _ =>
    have hshp := ht.lifecycle _ _ hcur
    have hlinked := runLinked_of_apply hshp hrid hocc
    have hlat : current.Later occurrence :=
      later_endLinked hshp hlinked ((endLinked_runState ..).trans hocc)
    have hkey := hlat.id_eq.trans (ht.keyed _ _ hcur)
    have hend : occurrence.state ∈ runLinked.successors := by
      cases completion <;>
        simp only [AutomationOccurrenceRunCompletion.apply, succeed, fail,
          AutomationOccurrence.interrupt, finishLinked_eq_ok, cancel_eq_ok] at hocc
      all_goals
        rw [hocc.2.2.2]
        simp [moved, successors]
    have hpromotes := promotes_of_promotedOccurrence ht hprom
    rw [hlat.automationId_eq] at hpromotes
    refine hslot.finish (hkey ▸ hcur) (by rw [hlinked]; rfl) ?_ ?_ hpromotes
    · simp only [successors, mem_cons, not_mem_nil, or_false]
        at hend
      rcases hend with h | h | h | h <;> rw [h] <;> rfl
    · intro h
      rw [h] at hend
      simp [successors] at hend
  | recovered _ hstart hstage => exact hslot.recovered ht hsafe hstart.1 hstage

/-- Each automation has at most one active and one queued occurrence, and a queued one only beside
an active one. -/
def SlotInvariant (s : SchedulerState) : Prop :=
  ∀ id, ((s.occurrencesOf id).countP fun o => automationOccurrenceIsActive o.state) ≤ 1 ∧
    ((s.occurrencesOf id).countP fun o => o.state = .queuedOverlap) ≤ 1 ∧
    ((∃ o ∈ s.occurrencesOf id, o.state = .queuedOverlap) →
      ∃ o ∈ s.occurrencesOf id, automationOccurrenceIsActive o.state = true)

omit [TimezoneLibrary] [Sha256Library] in
/-- The rule, counted for each automation. -/
lemma SlotRule.slotInvariant (h : SlotRule s.automationOccurrences) : SlotInvariant s := by
  intro id
  obtain ⟨hact, hque⟩ := h id
  have hA : s.automationOccurrences.values.countP (activeOf id) =
      (s.occurrencesOf id).countP fun o => automationOccurrenceIsActive o.state := by
    rw [occurrencesOf, countP_filter]
    exact countP_congr fun o _ => by simp [activeOf, and_comm]
  have hQ : s.automationOccurrences.values.countP (queuedOf id) =
      (s.occurrencesOf id).countP fun o => decide (o.state = .queuedOverlap) := by
    rw [occurrencesOf, countP_filter]
    exact countP_congr fun o _ => by simp [queuedOf, and_comm]
  rw [hA] at hact hque
  rw [hQ] at hque
  refine ⟨hact, hque.trans hact, ?_⟩
  rintro ⟨o, ho, hsta⟩
  have hpos : 0 < (s.occurrencesOf id).countP fun o => decide (o.state = .queuedOverlap) :=
    countP_pos_iff.2 ⟨o, ho, by simp [hsta]⟩
  obtain ⟨o', ho', hact'⟩ := countP_pos_iff.1 (hpos.trans_le hque)
  exact ⟨o', ho', hact'⟩

/-- The queued occurrence is promoted in the step in which the active one ends. -/
def PromotesAtEnd (s s' : SchedulerState) : Prop :=
  ∀ k active, s.automationOccurrences.lookup k = some active →
    automationOccurrenceIsActive active.state = true →
    ∀ k' queued, s.automationOccurrences.lookup k' = some queued →
      queued.state = .queuedOverlap → queued.automationId = active.automationId →
      (∀ ended, s'.automationOccurrences.lookup k = some ended →
        automationOccurrenceIsActive ended.state = false) →
      ∃ next, s'.automationOccurrences.lookup k' = some next ∧ next.state = .pending

omit [TimezoneLibrary] [Sha256Library] in
/-- Where the rule holds before and after a step, the queued occurrence cannot outlive the active
one. -/
lemma SlotRule.promotesAtEnd (ht : JournalEntries s.automationOccurrences)
    (hslot : SlotRule s.automationOccurrences) (hslot' : SlotRule s'.automationOccurrences)
    (h : JournalProgress s.automationOccurrences s'.automationOccurrences) :
    PromotesAtEnd s s' := by
  intro k active hact hsta k' queued hque hqst hauto hend
  obtain ⟨next, hnext, hlat⟩ := h.later k' queued hque
  refine ⟨next, hnext, ?_⟩
  have hcases := hlat.state_mem
  simp only [hqst, successors, mem_singleton] at hcases
  refine hcases.resolve_left fun hnqu => ?_
  -- another occurrence would be active now, and it was neither the active one nor the queued one
  have hmem : next ∈ s'.occurrencesOf next.automationId :=
    mem_filter.2 ⟨mem_values.2 ⟨k', hnext⟩, by simp⟩
  obtain ⟨other, hoth, hoact⟩ :=
    (hslot'.slotInvariant next.automationId).2.2 ⟨next, hmem, hnqu⟩
  simp only [occurrencesOf, mem_filter, decide_eq_true_eq] at hoth
  obtain ⟨⟨k'', hk''⟩, hoaut⟩ := hoth.imp_left mem_values.1
  cases hold : s.automationOccurrences.lookup k'' with
  | none =>
    have hsame := (h.fresh k'' other hk'' hold).2 k active hact
    rw [hend active hsame] at hsta
    cases hsta
  | some old =>
    obtain ⟨new, hnew, holat⟩ := h.later k'' old hold
    obtain rfl : other = new := mem_unique hk'' hnew
    have hsame : old.automationId = active.automationId := by
      rw [← holat.automationId_eq, hoaut, hlat.automationId_eq, hauto]
    have hmemO : old ∈ s.automationOccurrences.values := mem_values.2 ⟨k'', hold⟩
    by_cases hoqu : old.state = .queuedOverlap
    · -- the queued slot of the automation holds one occurrence
      obtain ⟨hact, hque'⟩ := hslot queued.automationId
      have heq := eq_of_countP_le_one (hque'.trans hact) (mem_values.2 ⟨k', hque⟩) hmemO
        (by simp [queuedOf, hqst]) (by simp [queuedOf, hoqu, hsame, hauto])
      have hkey : k'' = k' := by rw [← ht.keyed k'' old hold, ← heq, ht.keyed k' queued hque]
      rw [hkey, hnext] at hk''
      rw [← some.inj hk'', hnqu] at hoact
      cases hoact
    · have holdA : automationOccurrenceIsActive old.state = true := by
        rcases holat.state_mem with h | h
        · rw [← h]
          exact hoact
        · cases hs : old.state <;>
            simp_all [successors, automationOccurrenceIsActive]
      have heq := hslot.eq_of_active (mem_values.2 ⟨k, hact⟩) hmemO hsame hsta
        holdA
      have hkey : k'' = k := by rw [← ht.keyed k'' old hold, ← heq, ht.keyed k active hact]
      rw [hend other (hkey ▸ hk'')] at hoact
      cases hoact

/-- In every run of safe calls from an empty journal the slots are used as they should, and every
further safe call promotes the queued occurrence when it ends the active one. -/
theorem occurrence_slots_of_safe_run (hempty : s.automationOccurrences = ∅)
    (hrun : JournalRun SlotSafe s s') :
    SlotInvariant s' ∧ ∀ c r next, SlotSafe s' c → schedulerSystem.answers s' c r next →
      PromotesAtEnd s' next := by
  have hents : ∀ {s'}, JournalRun SlotSafe s s' → JournalEntries s'.automationOccurrences :=
    fun h => h.entries (hempty ▸ JournalEntries.empty)
  have hslot : SlotRule s'.automationOccurrences := by
    induction hrun with
    | refl => exact hempty ▸ SlotRule.empty
    | tail hrun hstep ih =>
      obtain ⟨c, r, hsafe, hans⟩ := hstep
      exact (journalStep_of_answers hans).slots hsafe (hents hrun) ih
  refine ⟨hslot.slotInvariant, fun c r next hsafe hans => ?_⟩
  have hstep := journalStep_of_answers hans
  exact hslot.promotesAtEnd (hents hrun) (hstep.slots hsafe (hents hrun) hslot)
    (hstep.progress (hents hrun))

end Runs

namespace SampleJournal

/-- A digest function. -/
abbrev sha : Sha256Library := ⟨fun _ => 1⟩

/-- A timezone database with one zone. -/
abbrev zones : TimezoneLibrary where
  parse name := if name = "UTC" then
    some { name := "UTC", localTime := id, fromLocal := .single }
    else none

attribute [local instance] sha zones

def project : Project where
  id := ⟨"scheduled-project", by decide⟩
  name := "Project"
  description := ""
  state := .active
  revision := 0
  createdAt := 0
  updatedAt := 0

/-- Noon of the tenth day. -/
def noon : ℕ := 10 * 86400000 + 43200000

def automation : Automation where
  id := ⟨"automation", by decide⟩
  projectId := project.id
  title := "Report"
  prompt := "Write the report"
  schedule := "v1;daily;09:00"
  timezone := "UTC"
  missedRunPolicy := .runOnce
  overlapPolicy := .queueOne
  state := .enabled
  revision := 0
  createdAt := noon
  updatedAt := noon

def owner : AutomationSchedulerOwnerId := ⟨"owner", by decide⟩

def snapshot : AutomationExecutionSnapshot where
  definitionRevision := 0
  projectId := project.id
  title := "Report"
  prompt := "Write the report"
  schedule := ⟨.daily, 9, 0, by decide⟩
  canonicalSchedule := "v1;daily;09:00"
  timezone := "UTC"
  missedRunPolicy := .runOnce
  overlapPolicy := .queueOne
  scheduleFingerprint := 1
  calculatorVersion := 1

/-- Nine o'clock of a day. -/
def nine (day : ℕ) : UnixMillis := day * 86400000 + 9 * 3600000

/-- The slot of a day of January 1970. -/
def slot (day : ℕ) : AutomationLocalDateTime := ⟨1970, 1, day + 1, 9, 0⟩

def firstCursor : AutomationScheduleCursor where
  automationId := automation.id
  definitionRevision := 0
  scheduleFingerprint := 1
  calculatorVersion := 1
  evaluatedThrough := noon
  nextDecision := some (.due (slot 11) (nine 11))
  revision := 0
  createdAt := noon
  updatedAt := noon

/-- Noon two days later. -/
def later : ℕ := noon + 2 * 86400000

def occurrence (id : AutomationOccurrenceId) (day : ℕ) : AutomationOccurrence where
  id := id
  automationId := automation.id
  snapshot := snapshot
  nominalLocal := slot day
  scheduledFor := some (nine day)
  occurrenceCount := 1
  state := .pending
  claim := none
  runId := none
  claimAttemptCount := 0
  revision := 0
  createdAt := later
  updatedAt := later

def activeId : AutomationOccurrenceId := ⟨"active", by decide⟩
def queuedId : AutomationOccurrenceId := ⟨"queued", by decide⟩

def secondCursor : AutomationScheduleCursor :=
  { firstCursor with
    evaluatedThrough := later
    nextDecision := some (.due (slot 13) (nine 13))
    revision := 1
    updatedAt := later }

def thread : Thread where
  id := ⟨"scheduled-thread", by decide⟩
  projectId := project.id
  title := "Automation"
  state := .opened
  lineage := .original ⟨"scheduled-thread", by decide⟩
  revision := 0
  createdAt := later
  updatedAt := later

def prompt : Message where
  id := ⟨"scheduled-prompt", by decide⟩
  threadId := thread.id
  sequence := 0
  role := .user
  content := "Write the report"
  state := .active
  derivation := .original
  revision := 0
  createdAt := later
  updatedAt := later

def run : Run := .queuedScheduled ⟨"scheduled-run", by decide⟩ project.id thread.id later

def store : SchedulerState :=
  { toState := (createProject .empty project ⟨"create_project", "project-key", 0⟩).2 }

def lease (fence : ℕ) : AutomationSchedulerLeaseToken := ⟨owner, fence⟩

/-- The evaluation that creates the cursor. -/
def firstEvaluation : AutomationScheduleEvaluationCommit where
  lease := lease 1
  expectedAutomationRevision := 0
  expectedCursorRevision := none
  cursor := firstCursor
  occurrences := []
  observedAt := noon
  command := ⟨automationEvaluationScope, "first-key", 0⟩

/-- An evaluation under the second lease, two days after the cursor was created. -/
def evaluation (occurrences : List AutomationOccurrence) : AutomationScheduleEvaluationCommit where
  lease := lease 2
  expectedAutomationRevision := 0
  expectedCursorRevision := some 0
  cursor := secondCursor
  occurrences := occurrences
  observedAt := later
  command := ⟨automationEvaluationScope, "second-key", 0⟩

/-- An automation is created, and its lease is taken over after two days. -/
def started : List SchedulerCall :=
  [.createAutomation automation ⟨"create_automation", "automation-key", 0⟩,
    .acquireLease owner noon 60000,
    .commitEvaluation firstEvaluation,
    .acquireLease owner later 60000]

/-- The slot of the first day becomes active and that of the second is queued. -/
def evaluated : List SchedulerCall :=
  started ++ [.commitEvaluation (evaluation [occurrence activeId 11, occurrence queuedId 12])]

/-- The active occurrence is bound to a run that starts. -/
def running : List SchedulerCall :=
  evaluated ++ [
    .claimAndBind {
      claim := {
        lease := lease 2
        occurrenceId := activeId
        expectedRevision := 0
        claimedAt := later
        expiresAt := later + 60000
        command := ⟨automationClaimScope, "claim-key", 0⟩ }
      thread := thread
      prompt := prompt
      run := run },
    .beginRun activeId 2 run.id 0 later]

/-- Another client ends the run, and the expired claim is recovered under the next lease. -/
def recovered : List SchedulerCall :=
  running ++ [
    .saveRun { run with state := .completed, revision := 3 } 2
      ⟨later, .stateChanged .running .completed⟩ ⟨"complete_run", "complete-key", 0⟩,
    .acquireLease owner (later + 60000) 60000,
    .recoverClaims (lease 3) (later + 60000) 100]

/-- The state after some calls. -/
def after (calls : List SchedulerCall) : SchedulerState :=
  calls.foldl SchedulerState.after store

/-- The rule at work: the slots of two days are used. -/
theorem evaluated_slots : store.automationOccurrences = ∅ ∧ SlotInvariant (after evaluated) := by
  have hids : ([occurrence activeId 11, occurrence queuedId 12].map
      AutomationOccurrence.id).Nodup := by
    decide
  have hsafe : AllowedCalls SlotSafe store evaluated :=
    ⟨trivial, trivial, nodup_nil, trivial, hids, trivial⟩
  exact ⟨rfl, (occurrence_slots_of_safe_run rfl (.of_calls hsafe)).1⟩

/-- The recovery ends the active occurrence and leaves the queued one behind. -/
theorem recovery_strands_overlap :
    ¬ ∀ s s' : SchedulerState, s.automationOccurrences = ∅ →
      JournalRun (fun _ _ => True) s s' → SlotInvariant s' := by
  intro h
  have hslot := (h store (after recovered) rfl (.of_calls (allowedCalls_true _ _))
    automation.id).2.2
  have hstranded : (∃ o ∈ (after recovered).occurrencesOf automation.id, o.state = .queuedOverlap) ∧
      ¬ ∃ o ∈ (after recovered).occurrencesOf automation.id,
        automationOccurrenceIsActive o.state = true := by
    decide +kernel
  exact hstranded.2 (hslot hstranded.1)

/-- An evaluation whose two occurrences share an identifier keeps only the queued one. -/
example : (((after (started ++ [.commitEvaluation
    (evaluation [occurrence activeId 11, occurrence activeId 12])])).occurrencesOf
      automation.id).map state) = [.queuedOverlap] := by
  decide +kernel

end SampleJournal

end GrokDesktop
