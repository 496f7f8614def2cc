import GrokDesktop.Memory.Origins

/-!
# Families of threads

Following the parents of a thread leads to its root in as many steps as its fork depth says, a
family and the children of one thread stay within their bounds, and what a fork copies keeps its
content, its answers and its provider. The store compares every part of a plan with the source but
the rail of the turn that the fork starts, so the rail is kept by the runs whose plans keep it.
-/

namespace GrokDesktop

open Table State

section Family

variable [UrlLibrary] {s s' : State}

/-! ## Ancestors -/

def State.parentThread (s : State) (thread : Thread) : Option Thread :=
  match thread.lineage.origin with
  | .original => none
  | .fork parentThreadId _ _ _ => s.threads.lookup parentThreadId

/-- The thread that is found by following the parents the given number of times. -/
def State.ancestor (s : State) : ℕ → Thread → Option Thread
  | 0, thread => some thread
  | steps + 1, thread => (s.parentThread thread).bind (s.ancestor steps)

/-- Following the parents of a thread leads to its root in as many steps as its fork depth says, and
the root has no parent. -/
lemma Consistent.ancestor (hs : Consistent s) {thread : Thread}
    (hthr : s.threads.lookup thread.id = some thread) :
    ∃ root, s.ancestor thread.lineage.forkDepth thread = some root ∧
      root.id = thread.lineage.rootThreadId ∧ root.lineage.origin = .original ∧
      s.threads.lookup root.id = some root := by
  -- the fork depth falls by one from a child to its parent
  induction hdepth : thread.lineage.forkDepth generalizing thread with
  | zero =>
    cases (hs.thread _ _ hthr).rooted with
    | original hori hroot _ => exact ⟨thread, rfl, hroot.symm, hori, hthr⟩
    | fork parent source sourceMessage kind hfork =>
      have := hfork.depth
      omega
  | succ depth ih =>
    cases (hs.thread _ _ hthr).rooted with
    | original _ _ hzero => omega
    | fork parent source sourceMessage kind hfork =>
      have hpar : parent.lineage.forkDepth = depth := by
        have := hfork.depth
        omega
      obtain ⟨root, hanc, hid, hrest⟩ := ih hfork.parentStored hpar
      refine ⟨root, ?_, hid.trans hfork.root, hrest⟩
      simp [State.ancestor, State.parentThread, hfork.origin, hfork.parentStored, hanc]

/-- The root of a family is stored. -/
lemma Consistent.root_stored (hs : Consistent s) {id : ThreadId} {thread : Thread}
    (hthr : s.threads.lookup id = some thread) :
    s.threads.contains thread.lineage.rootThreadId = true := by
  obtain ⟨root, -, hid, -, hroot⟩ := hs.ancestor (by rw [(hs.thread _ _ hthr).id]; exact hthr)
  exact contains_iff.2 ⟨root, hid ▸ hroot⟩

/-! ## Bounds -/

/-- The bounds of families. -/
structure FamilyBounds (s : State) : Prop where
  family : ∀ rootThreadId,
    (s.familyThreads rootThreadId).length ≤ maxConversationForkFamilyThreads
  children : ∀ parentId, (s.threads.values.filter (·.isChildOf parentId)).length
    ≤ maxConversationForkDirectChildren

omit [UrlLibrary] in
/-- A new thread counts once where it counts. -/
lemma length_filter_insert {threads : Table ThreadId Thread} {thread : Thread} {p : Thread → Bool}
    (hnew : threads.lookup thread.id = none) :
    ((Table.values (threads.insert thread.id thread)).filter p).length
      = (threads.values.filter p).length + if p thread then 1 else 0 := by
  have hcnt := countP_values_insert threads thread.id thread p
  rw [hnew, List.countP_singleton] at hcnt
  simpa [List.countP_eq_length_filter] using hcnt

variable {ends : Set ConversationTurn}

/-- Every write keeps the bounds of families. -/
lemma Write.familyBounds (h : Write ends s s') (hs : Consistent s)
    (hboun : FamilyBounds s) : FamilyBounds s' := by
  cases h with
  | journal _ hj =>
    rw [← hj]
    exact ⟨hboun.family, hboun.children⟩
  | project | message | reserve | start | text | terminal =>
    exact ⟨hboun.family, hboun.children⟩
  | thread thread hproj hnew hrest hori =>
    have hwell := Thread.wellFormed_of_restore hrest
    simp only [ConversationThreadLineage.wellFormed, hori, Bool.and_eq_true,
      decide_eq_true_eq] at hwell
    refine ⟨fun rootThreadId => ?_, fun parentId => ?_⟩
    · rw [familyThreads, length_filter_insert hnew, hwell.1]
      by_cases hroot : thread.id = rootThreadId
      · -- the root of every other thread is stored, and this thread was not
        have hemp : s.threads.values.filter
            (fun thread => decide (thread.lineage.rootThreadId = rootThreadId)) = [] := by
          refine List.filter_eq_nil_iff.2 fun other hoth hsame => ?_
          obtain ⟨id, hid⟩ := mem_values.1 hoth
          obtain ⟨_, hsto⟩ := contains_iff.1 (hs.root_stored hid)
          rw [of_decide_eq_true hsame, ← hroot, hnew] at hsto
          cases hsto
        rw [hemp]
        simp [hroot, maxConversationForkFamilyThreads]
      · simpa [hroot, familyThreads] using hboun.family rootThreadId
    · rw [length_filter_insert hnew]
      simpa [Thread.isChildOf, hori] using hboun.children parentId
  | fork plan prepared source parent kind sourceMessage hchk =>
    obtain ⟨srcCtx, hcop⟩ := hchk.copies
    refine ⟨fun rootThreadId => ?_, fun parentId => ?_⟩
    · rw [familyThreads, writeFork_threads, length_filter_insert hchk.newThread, hchk.root]
      by_cases hroot : parent.lineage.rootThreadId = rootThreadId
      · have := hcop.family
        simpa [hroot, familyThreads, Nat.succ_le_iff] using this
      · simpa [hroot, familyThreads] using hboun.family rootThreadId
    · rw [writeFork_threads, length_filter_insert hchk.newThread, Thread.isChildOf, hchk.origin]
      by_cases hpar : parent.id = parentId
      · have := hcop.children
        simpa [hpar, Nat.succ_le_iff] using this
      · simpa [hpar] using hboun.children parentId

/-- Any writes keep the bounds of families. -/
lemma Writes.familyBounds (h : Writes ends s s') (hs : Consistent s)
    (hboun : FamilyBounds s) : FamilyBounds s' := by
  induction h with
  | refl => exact hboun
  | tail hbef hwr ih =>
    exact hwr.familyBounds ((Writes.updates hbef hs).consistent hs) ih

/-! ## Integrity -/

/-- The store follows a copied answer back to one completed turn, whose answer it equals. -/
def ResolvesAnswer (s : State) (message : Message) : Prop :=
  ∃ turnId snapshot answer, inheritedSourceTurn s message = .ok turnId ∧
    s.conversationTurns.lookup turnId = some snapshot.turn ∧
    conversationSnapshot s snapshot.turn = .ok snapshot ∧ snapshot.turn.state = .completed ∧
    snapshot.assistantMessage = some answer ∧ answer.content = message.content

/-- Every copied answer is followed back to its turn. -/
lemma Consistent.resolvesAnswer (hs : Consistent s) (hrecs : ForkRecords s) {id : MessageId}
    {message : Message} (hmsg : s.messages.lookup id = some message)
    (hrole : message.role = .assistant) (hderived : message.derivation ≠ .original) :
    ResolvesAnswer s message := by
  have hrec := hrecs.message id message hmsg
  have hsto : s.messages.lookup message.id = some message := hrec.keyed ▸ hmsg
  cases hder : message.derivation with
  | original => exact absurd hder hderived
  | fork kind sourceMessageId srcTurnId sequence =>
    obtain ⟨thread, source, hcpd⟩ := hrec.copied _ _ _ _ hder
    obtain ⟨turnId, hout, snapshot, answer, hturn, hread, hdone, hans, hreach⟩ :=
      hcpd.outcome hrole
    have hcont : answer.content = message.content := by
      simp only [provenanceReaches, Bool.and_eq_true, decide_eq_true_eq] at hreach
      exact hreach.1.1.2.symm
    have hdir : answeredTurns s message = [] := by
      -- the answer of a turn is an original message
      simp only [answeredTurns, List.map_eq_nil_iff, List.filter_eq_nil_iff, decide_eq_true_eq]
      intro turn hmem hlinked
      obtain ⟨turnId, hturn⟩ := mem_values.1 hmem
      obtain ⟨-, other, rfl, hoth⟩ := hs.turn _ _ hturn
      have hlink := (links_of_canonical hoth.canonical).2.2
      rw [hlinked] at hlink
      obtain ⟨answer', hans', hid⟩ := Option.map_eq_some_iff.1 hlink.symm
      have hsto' := hoth.answer hans'
      have hsame := hsto'.stored
      rw [hid, hsto] at hsame
      exact hderived (Option.some.inj hsame ▸ hsto'.original)
    have hfuel : thread.lineage.forkDepth + 1 ≤ maxConversationForkFamilyThreads + 1 := by
      have := Thread.forkDepth_le_of_restore (hs.thread _ _ hcpd.stored).restored
      simp only [maxConversationForkFamilyThreads]
      omega
    have hsnap := hs.conversationSnapshot hread
    exact ⟨turnId, snapshot, answer, inheritedSourceTurn_eq_ok.2 ⟨.inr ⟨hdir, hout⟩, _,
      snapshot, answer, hturn, hsnap, hans, hdone, hcont,
      provenanceReaches_mono (.refl _) (.refl _) hrecs.keyed hfuel (fun _ hid => .inl hid) hsto
        hreach⟩, hturn, hsnap, hdone, hans, hcont⟩

/-- A turn that a fork started uses the model, the credential and the rail of its source turn. -/
structure SameProvider (s : State) (id sourceTurnId : ConversationTurnId)
    (lineage : ConversationTurnLineage) (turn source : ConversationTurn)
    (sourceLineage : ConversationTurnLineage) : Prop where
  turnStored : s.conversationTurns.lookup id = some turn
  sourceStored : s.conversationTurns.lookup sourceTurnId = some source
  lineageStored : s.conversationLineages.lookup sourceTurnId = some sourceLineage
  modelId : turn.modelId = source.modelId
  credential : lineage.credentialBindingId = sourceLineage.credentialBindingId
  rail : lineage.rail = sourceLineage.rail

/-- The integrity of the threads, messages and turns that forks make. -/
structure ForkIntegrity (s : State) : Prop where
  /-- The parents of a thread lead to its root in as many steps as its fork depth says. -/
  ancestry : ∀ id thread, s.threads.lookup id = some thread →
    ∃ root, s.ancestor thread.lineage.forkDepth thread = some root ∧
      root.id = thread.lineage.rootThreadId ∧ root.lineage.origin = .original
  bounds : FamilyBounds s
  /-- A derived message has the role of its source, and its content unless it is edited. -/
  derived : ∀ id message kind sourceMessageId sourceTurnId sequence,
    s.messages.lookup id = some message →
    message.derivation = .fork kind sourceMessageId sourceTurnId sequence →
    ∃ source, s.messages.lookup sourceMessageId = some source ∧ message.role = source.role ∧
      (message.content = source.content ↔ kind ≠ .editedUser)
  /-- A copied answer is followed back to one completed turn, whose answer it equals. -/
  answers : ∀ id message, s.messages.lookup id = some message → message.role = .assistant →
    message.derivation ≠ .original → ResolvesAnswer s message
  /-- A turn that a fork started uses the provider of its source turn. -/
  turns : ∀ id lineage sourceTurnId, s.conversationLineages.lookup id = some lineage →
    lineage.origin.forkSource = some sourceTurnId →
    ∃ turn source sourceLineage, SameProvider s id sourceTurnId lineage turn source sourceLineage

/-- The turns that forks started keep the rail of their source turn. -/
def RailsKept (s : State) : Prop :=
  ∀ id lineage sourceTurnId sourceLineage, s.conversationLineages.lookup id = some lineage →
    lineage.origin.forkSource = some sourceTurnId →
    s.conversationLineages.lookup sourceTurnId = some sourceLineage →
    lineage.rail = sourceLineage.rail

/-- All parts of the integrity but the rail hold in every consistent store. -/
lemma Consistent.forkIntegrity (hs : Consistent s) (hrecs : ForkRecords s)
    (hboun : FamilyBounds s) : ForkIntegrity s ↔ RailsKept s := by
  constructor
  · intro h id lineage srcTurnId sourceLineage hid hori hsrc
    obtain ⟨_, _, sourceLineage', hprov⟩ := h.turns id lineage srcTurnId hid hori
    rw [hprov.rail, Option.mem_unique hprov.lineageStored hsrc]
  · intro hrails
    refine ⟨?_, hboun, ?_, ?_, ?_⟩
    · intro id thread hthr
      rw [← (hs.thread _ _ hthr).id] at hthr
      obtain ⟨root, hanc, hroot, hori, -⟩ := hs.ancestor hthr
      exact ⟨root, hanc, hroot, hori⟩
    · intro id msg kind sourceMessageId srcTurnId seq hmsg hder
      obtain ⟨_, source, hcpd⟩ :=
        (hrecs.message id msg hmsg).copied _ _ _ _ hder
      exact ⟨source, hcpd.sourceStored, hcpd.role, hcpd.content⟩
    · exact fun id msg hmsg hrole hderived =>
        hs.resolvesAnswer hrecs hmsg hrole hderived
    · intro id lineage srcTurnId hid hori
      obtain ⟨turn, source, sourceLineage, rfl, hfork⟩ := hrecs.forked _ _ _ hid hori
      exact ⟨turn, source, sourceLineage, hfork.stored, hfork.sourceStored,
        hfork.lineageStored, hfork.modelId, hfork.credential,
        hrails id lineage _ _ hid hori hfork.lineageStored⟩

/-! ## Runs -/

/-- The turn that a plan starts names the rail of the stored source turn. -/
def RailKept (s : State) (plan : ConversationForkPlan) : Prop :=
  ∀ turnPlan lineage, plan.startedTurn = some turnPlan →
    s.conversationLineages.lookup plan.sourceTurnId = some lineage →
    turnPlan.lineage.rail = lineage.rail

/-- Every fork command of a run keeps the rail of the source turn that is stored before it. -/
def RailSafe : State → List StoreOperation → Prop
  | _, [] => True
  | s, operation :: rest =>
      (∀ plan, operation = .reserveConversationFork plan → RailKept s plan) ∧
        RailSafe (operation.apply s) rest

/-- No write forgets or changes a lineage. -/
theorem Writes.lineages (h : Writes ends s s') (hs : Consistent s)
    (hrecs : ForkRecords s) : s.conversationLineages.Extends s'.conversationLineages := by
  induction h with
  | refl => exact .refl _
  | tail hbef hwr ih =>
    have hcons := (Writes.updates hbef hs).consistent hs
    have hstep := hwr.forkStep hcons (Writes.forkRecords hbef hs hrecs)
    exact fun id lineage hid => hstep.grows.lineages id lineage (ih id lineage hid)

variable {prepared : PreparedConversationFork} {source : ConversationTurnSnapshot}
  {plan : ConversationForkPlan} {kind : ConversationForkKind} {sourceMessage : Message}
  {parent : Thread}

/-- The rail of the source turn is what the turn of a plan is compared with. -/
lemma ForkChecked.railKept (h : ForkChecked s plan prepared source parent kind sourceMessage)
    (hs : Consistent s) :
    plan.sourceTurnId = source.turn.id ∧
      s.conversationLineages.lookup source.turn.id = some source.lineage := by
  obtain ⟨hturn, hread⟩ := loadSnapshot_read h.loaded
  exact ⟨(hs.turn _ _ hturn).1.symm, hread.lineage⟩

/-- An operation whose plan keeps the rail keeps the rails. -/
lemma StoreOperation.railsKept (op : StoreOperation) (hs : Consistent s)
    (hrecs : ForkRecords s) (hrails : RailsKept s)
    (hplan : ∀ plan, op = .reserveConversationFork plan → RailKept s plan) :
    RailsKept (op.apply s) := by
  intro id lineage srcTurnId sourceLineage hid hori hsrc
  have hext := (op.writes (s := s)).lineages hs hrecs
  -- a lineage that is not new has a source whose lineage is not new either
  have hkept : s.conversationLineages.lookup id = some lineage →
      lineage.rail = sourceLineage.rail := by
    intro hold
    obtain ⟨_, _, sourceLineage', rfl, hfork⟩ := hrecs.forked _ _ _ hold hori
    obtain rfl := Option.mem_unique (hext _ _ hfork.lineageStored) hsrc
    exact hrails _ _ _ _ hold hori hfork.lineageStored
  rcases op.origins s with ⟨input, prepared, hresv⟩ |
    ⟨plan, prepared, source, parent, kind, sourceMessage, hfks⟩ | hnothing
  · rw [hresv.apply_eq] at hid
    rcases lookup_insert_cases hid with hold | ⟨-, rfl⟩
    · exact hkept hold
    · rw [(acceptsReservationInput_parts hresv.accepts).2.2] at hori
      cases hori
  · obtain ⟨srcCtx, hcop⟩ := hfks.checked.copies
    have htab := hfks.checked.startedTables hcop
    rw [hfks.apply_eq] at hid
    cases hstd : plan.startedTurn with
    | none =>
      rw [hstd] at htab
      exact hkept (htab.1 ▸ hid)
    | some turnPlan =>
      rw [hstd] at htab
      rw [htab.1] at hid
      rcases lookup_insert_cases hid with hold | ⟨-, rfl⟩
      · exact hkept hold
      · obtain ⟨hsour, hlin⟩ := hfks.checked.railKept hs
        have hfork := hfks.checked.forkedTurn hs hcop
          (hfks.checked.forkGrows hs hrecs hcop) hstd
        obtain rfl := Option.mem_unique hfork.1 hori
        obtain rfl := Option.mem_unique (hext _ _ hlin) hsrc
        exact hplan plan hfks.operation_eq _ _ hstd (hsour ▸ hlin)
  · exact hkept (hnothing.lineages ▸ hid)

/-- A safe run keeps the rails. -/
lemma railsKept_run (ops : List StoreOperation) (hs : Consistent s)
    (hrecs : ForkRecords s) (hrails : RailsKept s) (hsafe : RailSafe s ops) :
    RailsKept (s.run ops) := by
  induction ops generalizing s with
  | nil => exact hrails
  | cons op rest ih =>
    have hwrs := op.writes (s := s)
    exact ih ((hwrs.updates hs).consistent hs) (hwrs.forkRecords hs hrecs)
      (op.railsKept hs hrecs hrails hsafe.1) hsafe.2

lemma railSafe_append {ops rest : List StoreOperation} :
    RailSafe s (ops ++ rest)
      ↔ RailSafe s ops ∧ RailSafe (s.run ops) rest := by
  induction ops generalizing s with
  | nil => simp [RailSafe, run]
  | cons op ops ih => simp [RailSafe, run, ih, and_assoc]

lemma RailSafe.take {ops : List StoreOperation} (h : RailSafe s ops) (n : ℕ) :
    RailSafe s (ops.take n) := by
  rw [← List.take_append_drop n ops, railSafe_append] at h
  exact h.1

/-- In every state of every run the integrity of forks is that their rails are kept. -/
lemma run_forkIntegrity (ops : List StoreOperation) :
    ForkIntegrity (empty.run ops) ↔ RailsKept (empty.run ops) :=
  (run_consistent ops).forkIntegrity (run_forkRecords ops)
    ((run_writes ops).familyBounds .empty ⟨fun _ => Nat.zero_le _, fun _ => Nat.zero_le _⟩)

/-- A run whose fork commands name the rail of the source turn keeps the integrity of forks in every
state it reaches, and a fork that is made keeps it just if it names that rail. -/
theorem fork_integrity_iff_rail_kept :
    (∀ operations, RailSafe empty operations →
      ∀ n, ForkIntegrity (empty.run (operations.take n))) ∧
    ∀ operations plan reservation, ForkIntegrity (empty.run operations) →
      (reserveConversationFork (empty.run operations) plan).1 = .ok reservation →
      reservation.created = true →
      (ForkIntegrity (reserveConversationFork (empty.run operations) plan).2 ↔
        RailKept (empty.run operations) plan) := by
  have hemp : RailsKept empty := by
    intro _ _ _ _ hid
    cases hid
  refine ⟨fun operations hsafe n => ?_, ?_⟩
  · exact (run_forkIntegrity _).2 (railsKept_run _ .empty .empty hemp (hsafe.take n))
  · intro operations plan reservation hintegrity hok hcre
    have hs := run_consistent operations
    have hrecs := run_forkRecords operations
    have hrun : (reserveConversationFork (empty.run operations) plan).2
        = empty.run (operations ++ [.reserveConversationFork plan]) := by
      simp [run, StoreOperation.apply]
    obtain ⟨prepared, source, parent, kind, sourceMessage, -, hchk, hwr⟩ :=
      reserveConversationFork_created hok hcre
    replace hwr : (reserveConversationFork (empty.run operations) plan).2 = _ := hwr
    rw [hrun, run_forkIntegrity, ← hrun]
    constructor
    · intro hrails turnPlan lineage hstd hlin
      obtain ⟨srcCtx, hcop⟩ := hchk.copies
      have hgrow := hchk.forkGrows hs hrecs hcop
      have hfork := hchk.forkedTurn hs hcop hgrow hstd
      have htab := hchk.startedTables hcop
      rw [hstd] at htab
      refine hrails turnPlan.turn.id turnPlan.lineage plan.sourceTurnId lineage ?_ ?_ ?_
      · rw [hwr, htab.1]
        exact lookup_insert_self _ _ _
      · rw [hfork.1, (hchk.railKept hs).1]
      · rw [hwr]
        exact hgrow.lineages _ _ hlin
    · intro hkept
      refine StoreOperation.railsKept (.reserveConversationFork plan) hs hrecs
        ((run_forkIntegrity _).1 hintegrity) fun plan' hplan => ?_
      cases hplan
      exact hkept

end Family

namespace MovedRail

/-- A URL library that parses nothing. -/
abbrev url : UrlLibrary := ⟨fun _ => none⟩

attribute [local instance] url

def project : Project where
  id := ⟨"source-project", by decide⟩
  name := "Project"
  description := ""
  state := .active
  revision := 0
  createdAt := 0
  updatedAt := 0

def thread : Thread where
  id := ⟨"source-thread", by decide⟩
  projectId := project.id
  title := "Thread"
  state := .opened
  lineage := .original ⟨"source-thread", by decide⟩
  revision := 0
  createdAt := 0
  updatedAt := 0

/-- The prompt of the source turn. -/
def prompt : Message where
  id := ⟨"source-prompt", by decide⟩
  threadId := thread.id
  sequence := 0
  role := .user
  content := "hello"
  state := .active
  derivation := .original
  revision := 0
  createdAt := 0
  updatedAt := 0

def turn : ConversationTurn where
  id := ⟨"source-turn", by decide⟩
  idempotencyKey := "start-key"
  requestFingerprint := 0
  providerRequestFingerprint := none
  projectId := project.id
  threadId := thread.id
  userMessageId := prompt.id
  runId := ⟨"source-run", by decide⟩
  modelId := "grok"
  searchEnabled := false
  state := .reserved
  effectId := none
  assistantMessageId := none
  failure := none
  providerResponseId := none
  citations := []
  usage := .default
  zeroDataRetention := none
  revision := 0
  createdAt := 0
  updatedAt := 0

/-- The run of the source turn. -/
def queued : Run := Run.queued turn.runId project.id thread.id 0

/-- The reservation of the source turn, on the rail of the API key. -/
def reservation : TurnReservationInput where
  turn := turn
  lineage := ⟨.original, some "credential", .xaiApiKey, 0⟩
  source := .currentThread
  userMessage := prompt
  run := queued
  event := ⟨0, .created⟩
  turnEvent := .created

/-- The source turn is cancelled before it reaches the provider. -/
def cancellation : TerminalTurnCommit where
  turn := { turn with state := .cancelled, revision := 1 }
  expectedTurnRevision := 0
  run := { queued with state := .cancelled, revision := 1 }
  expectedRunRevision := 0
  effect := none
  expectedEffectRevision := none
  assistantMessage := none
  events := [⟨0, .stateChanged .queued .cancelled⟩]
  turnEvent := .stateChanged .reserved .cancelled

def child : Thread :=
  { thread with
    id := ⟨"child", by decide⟩
    lineage := ⟨thread.id, .fork thread.id turn.id prompt.id .editAndBranch, 1⟩ }

def edited : Message :=
  { prompt with
    id := ⟨"edited", by decide⟩
    threadId := child.id
    sequence := 1
    content := "good morning"
    derivation := .fork .editedUser prompt.id turn.id (some 1) }

/-- A fork that sends the edited prompt on the given rail. -/
def plan (rail : ChatRail) : ConversationForkPlan where
  command := ⟨conversationEditBranchCommandScope, "edit-key", 1⟩
  sourceTurnId := turn.id
  expectedSourceRevision := 1
  childThread := child
  messages := [edited]
  startedTurn := some {
    turn := { turn with
      id := ⟨"edited-turn", by decide⟩
      idempotencyKey := "edit-key"
      requestFingerprint := 1
      threadId := child.id
      userMessageId := edited.id
      runId := ⟨"edited-run", by decide⟩ }
    lineage := ⟨.editAndBranch turn.id, some "credential", rail, 0⟩
    run := Run.queued ⟨"edited-run", by decide⟩ project.id child.id 0
    runEvent := ⟨0, .created⟩
    turnEvent := .created }

/-- A turn is cancelled. -/
def operations : List StoreOperation :=
  [.createProject project ⟨"create_project", "project-key", 0⟩,
    .createThread thread ⟨"create_thread", "thread-key", 0⟩, .reserveTurn reservation,
    .commitTerminal cancellation]

/-- The edited prompt of the cancelled turn is sent on the given rail. -/
def forked (rail : ChatRail) : List StoreOperation :=
  operations ++ [.reserveConversationFork (plan rail)]

lemma lineages_operations : (empty.run operations).conversationLineages.lookup turn.id
    = some ⟨.original, some "credential", .xaiApiKey, 0⟩ := by
  decide +kernel

lemma lineages_forked (rail : ChatRail) :
    (empty.run (forked rail)).conversationLineages.lookup ⟨"edited-turn", by decide⟩
        = some ⟨.editAndBranch turn.id, some "credential", rail, 0⟩ ∧
      (empty.run (forked rail)).conversationLineages.lookup turn.id
        = some ⟨.original, some "credential", .xaiApiKey, 0⟩ := by
  cases rail <;> decide +kernel

lemma railKept_plan : RailKept (empty.run operations) (plan .xaiApiKey) := by
  intro turnPlan lineage hstd hlin
  have hsrc : (plan .xaiApiKey).sourceTurnId = turn.id := rfl
  rw [hsrc, lineages_operations] at hlin
  rw [← Option.some.inj hlin, ← Option.some.inj hstd]

lemma railSafe_forked : RailSafe empty (forked .xaiApiKey) := by
  have hoper : RailSafe empty operations := by simp [operations, RailSafe]
  have hfork : RailSafe (empty.run operations) [.reserveConversationFork (plan .xaiApiKey)] := by
    simpa [RailSafe] using railKept_plan
  exact railSafe_append.2 ⟨hoper, hfork⟩

/-- The fork on the rail of the source turn is safe, and it is made. -/
theorem fork_rail_same : RailSafe empty (forked .xaiApiKey) ∧
    (empty.run (forked .xaiApiKey)).threads.contains child.id = true ∧
    ForkIntegrity (empty.run (forked .xaiApiKey)) :=
  ⟨railSafe_forked, by decide +kernel, fork_integrity_iff_rail_kept.1 _ railSafe_forked 5⟩

/-- The fork of a turn on the rail of the API key starts a turn on the rail of the subscription. -/
theorem fork_rail_moved : ¬ ∀ (_ : UrlLibrary) (operations : List StoreOperation),
    ForkIntegrity (empty.run operations) := by
  intro hall
  obtain ⟨hfork, hsrc⟩ := lineages_forked .superGrokApi
  have hrails := (run_forkIntegrity _).1 (hall url (forked .superGrokApi))
  cases hrails _ _ _ _ hfork rfl hsrc

end MovedRail

end GrokDesktop
