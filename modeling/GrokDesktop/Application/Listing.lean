import GrokDesktop.Memory.Prompts

/-!
# Listing the messages of a thread

The workspace service lists the messages of a thread page by page: the store sorts them by sequence
and skips those up to the one that the cursor names, and the service asks for one message more than
it returns to learn whether there is a next page. A page that starts after the first `offset`
messages is a slice of the sorted list, whatever the size of the thread.
-/

namespace GrokDesktop

open Except List

/-! ## The store -/

/-- The messages of a thread after the one of a cursor, in the order of their sequences. -/
def listMessages (s : State) (threadId : ThreadId) (after : Option MessageId) (limit : ℕ) :
    Except StoreError (List Message) := do
  rejectIf (!s.threads.contains threadId) .notFound
  afterPosition (sortBySequence (s.threadMessages threadId)) (after.map EntityId.value) limit
    fun message => message.id.value

/-! ## The service -/

/-- One page of a listing. -/
structure Page (α : Type) where
  items : List α
  /-- The last returned identifier when another page exists. -/
  nextCursor : Option String

def maxPageSize : ℕ := 200

def validatePageLimit (limit : ℕ) : Except ApplicationError Unit :=
  rejectIf (¬ (1 ≤ limit ∧ limit ≤ maxPageSize))
    (.invalidInput "page limit must be between 1 and 200")

/-- Cuts a page off a listing that was asked for one item more. -/
def entityPage {α : Type} (items : List α) (limit : ℕ) (id : α → String) : Page α :=
  let hasMore : Bool := limit < items.length
  let items := items.take limit
  { items := items
    nextCursor := if hasMore then items.getLast?.map id else none }

/-- The message that a cursor names. -/
def messageCursor : Option String → Except ApplicationError (Option MessageId)
  | some cursor => ((EntityId.new cursor).mapError ApplicationError.ofId).map some
  | none => .ok none

@[simp] lemma messageCursor_value (id : Option MessageId) :
    messageCursor (id.map EntityId.value) = .ok id := by
  cases id with
  | none => rfl
  | some id =>
    rw [Option.map_some, messageCursor, EntityId.new_value]
    rfl

/-- Lists messages in canonical thread order. -/
def WorkspaceService.listMessages (s : State) (threadId : ThreadId) (cursor : Option String)
    (limit : ℕ) : Except ApplicationError (Page Message) := do
  validatePageLimit limit
  let after ← messageCursor cursor
  let items ← (GrokDesktop.listMessages s threadId after (limit + 1)).mapError
    ApplicationError.ofStore
  return entityPage items limit fun message => message.id.value

/-! ## Pages are slices -/

/-- The cursor that names the last of the first `offset` values. -/
def cursorAt {α : Type} (values : List α) (offset : ℕ) (id : α → String) : Option String :=
  (values.take offset).getLast?.map id

section Slices

variable {α : Type} {values : List α} {id : α → String}

lemma cursorAt_succ {offset : ℕ} (h : offset < values.length) :
    cursorAt values (offset + 1) id = some (id (values.get ⟨offset, h⟩)) := by
  rw [cursorAt, getLast?_take, Nat.add_sub_cancel, getElem?_eq_getElem h]
  rfl

/-- With distinct identifiers a cursor names the position it was made at. -/
lemma afterPosition_cursorAt (hnd : (values.map id).Nodup) {offset : ℕ}
    (h : offset ≤ values.length) (limit : ℕ) :
    afterPosition values (cursorAt values offset id) limit id
      = .ok ((values.drop offset).take limit) := by
  cases offset with
  | zero => rfl
  | succ offset =>
    have hfnd : (values.findIdx? fun value => id value = id (values.get ⟨offset, h⟩))
        = some offset := by
      rw [findIdx?_eq_some_iff_getElem]
      refine ⟨h, by simp, fun j hj => ?_⟩
      have hne := pairwise_iff_getElem.1 hnd j offset (by simp; omega) (by simp; omega) hj
      simpa using hne
    rw [cursorAt_succ h]
    simp only [afterPosition, hfnd]
    rfl

/-- The page that starts after the first `offset` values. -/
lemma entityPage_slice {offset limit : ℕ} (hlimit : 1 ≤ limit) :
    entityPage ((values.drop offset).take (limit + 1)) limit id = {
      items := (values.drop offset).take limit
      nextCursor :=
        if offset + limit < values.length then cursorAt values (offset + limit) id else none } := by
  have hmore : limit < ((values.drop offset).take (limit + 1)).length
      ↔ offset + limit < values.length := by
    rw [length_take, length_drop]
    omega
  have hits : ((values.drop offset).take (limit + 1)).take limit
      = (values.drop offset).take limit := by
    rw [take_take, min_eq_left (Nat.le_succ limit)]
  simp only [entityPage, hits, hmore, decide_eq_true_eq]
  split
  · have hne : (values.drop offset).take limit ≠ [] := by
      rw [← length_pos_iff, length_take, length_drop]
      omega
    rw [cursorAt, take_add, getLast?_append_of_ne_nil _ hne]
  · rfl

end Slices

section Sorted

variable {s : State}

/-- A page of the messages of a stored thread is a slice of its sorted messages. -/
theorem WorkspaceService.listMessages_slice (hkey : MessagesKeyed s) {threadId : ThreadId}
    (hthr : s.threads.contains threadId = true) {msgs : List Message}
    (hmessages : msgs = sortBySequence (s.threadMessages threadId)) {limit : ℕ}
    (hlimit : 1 ≤ limit ∧ limit ≤ maxPageSize) {offset : ℕ} (hoff : offset ≤ msgs.length) :
    WorkspaceService.listMessages s threadId
        (cursorAt msgs offset fun msg => msg.id.value) limit = .ok {
      items := (msgs.drop offset).take limit
      nextCursor := if offset + limit < msgs.length
        then cursorAt msgs (offset + limit) fun msg => msg.id.value else none } := by
  have hnd : (msgs.map fun msg => msg.id.value).Nodup := by
    have hids := (hkey.nodup_sorted (.refl (s.threadMessages threadId))).map
      (f := EntityId.value) fun a b h => EntityId.ext h
    rwa [map_map, ← hmessages] at hids
  have hcsr : cursorAt msgs offset (fun msg => msg.id.value)
      = ((msgs.take offset).getLast?.map Message.id).map EntityId.value := by
    rw [Option.map_map]
    rfl
  have hstore : GrokDesktop.listMessages s threadId ((msgs.take offset).getLast?.map Message.id)
      (limit + 1) = .ok ((msgs.drop offset).take (limit + 1)) := by
    rw [GrokDesktop.listMessages, hthr, ← hcsr, ← hmessages]
    exact afterPosition_cursorAt hnd hoff _
  have hval : validatePageLimit limit = .ok () :=
    rejectIf_eq_ok.2 (not_not.2 hlimit)
  rw [hcsr, WorkspaceService.listMessages, hval, messageCursor_value, ← entityPage_slice hlimit.1]
  simp only [ok_bind, hstore]
  rfl

end Sorted

/-! ## Following the cursors -/

/-- Lists the pages of a thread one after the other, each from the cursor of the one before it. -/
def followCursors (s : State) (threadId : ThreadId) (limit : ℕ) :
    ℕ → Option String → Except ApplicationError (List Message)
  | 0, _ => .ok []
  | pages + 1, cursor => do
      let page ← WorkspaceService.listMessages s threadId cursor limit
      match page.nextCursor with
      | none => return page.items
      | some next => return page.items ++ (← followCursors s threadId limit pages (some next))

section Follow

variable {threadId : ThreadId} {limit : ℕ}

/-- From each position the cursors lead through the rest of the thread. -/
lemma followCursors_drop {s : State} (hkey : MessagesKeyed s)
    (hthr : s.threads.contains threadId = true) (hlimit : 1 ≤ limit ∧ limit ≤ maxPageSize)
    {msgs : List Message} (hmessages : msgs = sortBySequence (s.threadMessages threadId))
    {pages offset : ℕ} (hoff : offset ≤ msgs.length) (hpages : msgs.length < offset + pages) :
    followCursors s threadId limit pages (cursorAt msgs offset fun msg => msg.id.value)
      = .ok (msgs.drop offset) := by
  induction pages generalizing offset with
  | zero => omega
  | succ pages ih =>
    rw [followCursors, WorkspaceService.listMessages_slice hkey hthr hmessages hlimit hoff, ok_bind]
    by_cases hmore : offset + limit < msgs.length
    · obtain ⟨next, hnext⟩ : ∃ next,
          cursorAt msgs (offset + limit) (fun msg => msg.id.value) = some next := by
        rw [← Nat.sub_add_cancel (show 1 ≤ offset + limit by omega), cursorAt_succ (by omega)]
        exact ⟨_, rfl⟩
      have hrest := ih hmore.le (by omega)
      rw [hnext] at hrest
      simp [hmore, hnext, hrest, ← drop_drop]
    · have hall : (msgs.drop offset).take limit = msgs.drop offset :=
        take_of_length_le (by rw [length_drop]; omega)
      simp [hmore, hall]

/-- In every reachable store the cursors lead through all messages of a thread, each once and in the
order of the sequences. -/
theorem pages_cover_thread [UrlLibrary] (operations : List StoreOperation)
    (hthr : (State.empty.run operations).threads.contains threadId = true)
    (hlimit : 1 ≤ limit ∧ limit ≤ maxPageSize) {pages : ℕ}
    (hpages : ((State.empty.run operations).threadMessages threadId).length < pages) :
    followCursors (State.empty.run operations) threadId limit pages none
      = .ok (sortBySequence ((State.empty.run operations).threadMessages threadId)) :=
  followCursors_drop (run_forkRecords operations).keyed hthr hlimit rfl (Nat.zero_le _)
    (by simpa [sortBySequence] using hpages)

end Follow

namespace MovedRail

attribute [local instance] url

/-- A further message of the thread. -/
def remark (id : MessageId) : Message := { prompt with id := id, content := id.value }

/-- After a cancelled turn three messages are added to its thread. -/
def discussed : List StoreOperation :=
  operations ++
    [.createMessage (remark ⟨"remark-1", by decide⟩) ⟨"create_message", "remark-key-1", 1⟩,
      .createMessage (remark ⟨"remark-2", by decide⟩) ⟨"create_message", "remark-key-2", 2⟩,
      .createMessage (remark ⟨"remark-3", by decide⟩) ⟨"create_message", "remark-key-3", 3⟩]

/-- The four messages of the thread are listed in pages of one message, over three cursors. -/
theorem cancelled_thread_pages : (State.empty.run discussed).threads.contains thread.id = true ∧
    ((State.empty.run discussed).threadMessages thread.id).length = 4 ∧
    followCursors (State.empty.run discussed) thread.id 1 5 none
      = .ok (sortBySequence ((State.empty.run discussed).threadMessages thread.id)) := by
  have hthr : (State.empty.run discussed).threads.contains thread.id = true := by decide +kernel
  have hfour : ((State.empty.run discussed).threadMessages thread.id).length = 4 := by
    decide +kernel
  exact ⟨hthr, hfour, pages_cover_thread discussed hthr (by decide) (by rw [hfour]; decide)⟩

end MovedRail

end GrokDesktop
