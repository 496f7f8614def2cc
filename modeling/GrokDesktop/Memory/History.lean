import GrokDesktop.Memory.Lease
import GrokDesktop.Memory.Prompts

/-!
# What the stores keep

A run of a store only adds to its history. The scheduler journal moves its occurrences and cursors
forward; the conversation store loses no thread, message, context or lineage and moves a turn only
along its lifecycle.
-/

namespace GrokDesktop

open Relation (ReflTransGen)

/-! ## The scheduler journal -/

section Journal

variable [TimezoneLibrary] [Sha256Library] {s s' : SchedulerState}

/-- However the calls of the schedulers interleave, an occurrence keeps its origin and its run and
moves along its lifecycle, and a cursor does not go back. -/
theorem journal_only_advances (ht : JournalEntries s.automationOccurrences)
    (hrun : JournalRun (fun _ _ => True) s s') :
    (∀ k old, s.automationOccurrences.lookup k = some old →
      ∃ new, s'.automationOccurrences.lookup k = some new ∧ new.origin = old.origin ∧
        old.updatedAt ≤ new.updatedAt ∧
        (∀ runId, old.runId = some runId → new.runId = some runId) ∧
        ReflTransGen (fun a b => b ∈ AutomationOccurrenceState.successors a) old.state new.state) ∧
    ∀ id old, s.automationScheduleCursors.lookup id = some old →
      ∃ new, s'.automationScheduleCursors.lookup id = some new ∧ CursorProgress old new := by
  induction hrun with
  | refl =>
    exact ⟨fun k old h => ⟨old, h, rfl, le_rfl, fun _ h => h, .refl⟩,
      fun id old h => ⟨old, h, le_rfl, le_rfl⟩⟩
  | tail hbef hstep ih =>
    obtain ⟨hoccs, hcurs⟩ := ih
    obtain ⟨c, r, -, hans⟩ := hstep
    have hcall := journalStep_of_answers hans
    have hents := JournalRun.entries hbef ht
    refine ⟨fun k old hold => ?_, fun id old hold => ?_⟩
    · obtain ⟨mid, hmid, hori, hle, hrunId, hpath⟩ := hoccs k old hold
      obtain ⟨new, hnew, hlat⟩ := (hcall.progress hents).later k mid hmid
      refine ⟨new, hnew, hlat.origin_eq.trans hori, hle.trans hlat.updatedAt_le,
        fun runId h => hlat.runId_eq runId (hrunId runId h), ?_⟩
      rcases hlat.state_mem with hsame | hnext
      · rwa [hsame]
      · exact hpath.tail hnext
    · obtain ⟨mid, hmid, hprog⟩ := hcurs id old hold
      obtain ⟨new, hnew, hlat⟩ := hcall.cursors hmid
      exact ⟨new, hnew, hprog.evaluatedThrough.trans hlat.evaluatedThrough,
        hprog.updatedAt.trans hlat.updatedAt⟩

end Journal

namespace SampleJournal

attribute [local instance] sha zones

/-- An occurrence of the sample journal keeps its origin when its run starts. -/
theorem evaluated_occurrence_advances :
    JournalEntries (after evaluated).automationOccurrences ∧
      ∃ new, (after running).automationOccurrences.lookup activeId = some new ∧
        new.origin = (occurrence activeId 11).origin := by
  have hents : JournalEntries (after evaluated).automationOccurrences :=
    JournalRun.entries (.of_calls (allowedCalls_true store evaluated)) .empty
  have hold : (after evaluated).automationOccurrences.lookup activeId
      = some (occurrence activeId 11) := by
    decide +kernel
  obtain ⟨new, hnew, hori, -⟩ := (journal_only_advances hents
    (.of_calls (allowedCalls_true _ (running.drop 5)))).1 _ _ hold
  exact ⟨hents, new, hnew, hori⟩

end SampleJournal

/-! ## The conversation store -/

section Turns

variable [UrlLibrary] {s s' : State} {ends : Set ConversationTurn}

/-- Writes only move a stored turn along its lifecycle. -/
lemma Writes.turn_moved (h : Writes ends s s') {id : ConversationTurnId} {turn : ConversationTurn}
    (hturn : s.conversationTurns.lookup id = some turn) :
    ∃ turn', s'.conversationTurns.lookup id = some turn' ∧ ReflTransGen TurnMoved turn turn' := by
  induction h with
  | refl => exact ⟨turn, hturn, .refl⟩
  | tail _ hwr ih =>
    obtain ⟨mid, hmid, hpath⟩ := ih
    rcases hwr.turn_cases id with hsame | ⟨hnone, -⟩ | ⟨old, new, hold, hnew, -, hmov, -⟩
    · exact ⟨mid, hsame.trans hmid, hpath⟩
    · rw [hnone] at hmid
      cases hmid
    · obtain rfl := Option.mem_unique hmid hold
      exact ⟨new, hnew, hpath.tail hmov⟩

/-- Whatever operations follow, the store keeps its threads, messages, contexts and lineages as they
are and moves its turns only along their lifecycle. -/
theorem conversation_history_kept (operations more : List StoreOperation) :
    let s := State.empty.run operations
    let s' := State.empty.run (operations ++ more)
    s.threads.Extends s'.threads ∧ s.messages.Extends s'.messages ∧
      s.conversationContexts.Extends s'.conversationContexts ∧
      s.conversationLineages.Extends s'.conversationLineages ∧
      ∀ id turn, s.conversationTurns.lookup id = some turn →
        ∃ turn', s'.conversationTurns.lookup id = some turn' ∧
          ReflTransGen TurnMoved turn turn' := by
  intro s s'
  have hwrs : Writes Set.univ s s' := by
    simp only [s', run_append]
    exact run_writes more
  have hcons : Consistent s := run_consistent operations
  obtain ⟨hthreads, hmessages⟩ := (hwrs.updates hcons).extends_
  exact ⟨hthreads, hmessages, (hwrs.contexts (run_contextsOwned operations)).extends_,
    hwrs.lineages hcons (run_forkRecords operations), fun _ _ => hwrs.turn_moved⟩

end Turns

end GrokDesktop
