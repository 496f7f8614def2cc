import Mathlib.Data.List.FinRange
import Mathlib.Data.List.Perm.Subperm
import GrokDesktop.Application.Listing

/-!
# The conversation a Host Work turn is given

`HostWorkService::collect_context` reads the messages of the thread page by page, oldest first, and
keeps the active ones. It reads on while there is a next page and fewer than a thousand active
messages have been collected, and then drops all but the newest thousand of those it has. The pages
are read from the old end, so on a thread with active messages behind the page where the loop stops
it is the old part of the conversation that is collected.
-/

namespace GrokDesktop.HostWork

open Table List

/-- The most messages that a turn is given. -/
def maxWorkContextMessages : ℕ := 1000

def contextPageSize : ℕ := 200

/-- The messages that are not deleted. -/
def activeMessages (messages : List Message) : List Message :=
  messages.filter fun message => message.state = .active

/-- Reads pages after a cursor until there is no next page or enough messages are collected. With
`bound` pages at most, and `none` when they do not suffice. -/
def collectPages (s : State) (threadId : ThreadId) :
    ℕ → Option String → List Message → Option (Except ApplicationError (List Message))
  | 0, _, _ => none
  | bound + 1, cursor, messages =>
      match WorkspaceService.listMessages s threadId cursor contextPageSize with
      | .error error => some (.error error)
      | .ok page =>
          let messages := messages ++ activeMessages page.items
          match page.nextCursor with
          | none => some (.ok messages)
          | some next =>
              if maxWorkContextMessages ≤ messages.length then some (.ok messages)
              else collectPages s threadId bound (some next) messages

/-- Drops all but the last of the collected messages. -/
def drainOldest (messages : List Message) : List Message :=
  messages.drop (messages.length - maxWorkContextMessages)

/-- The messages of the thread that a Host Work turn is given. -/
def collectContext (s : State) (threadId : ThreadId) :
    Option (Except ApplicationError (List Message)) :=
  (collectPages s threadId ((s.threadMessages threadId).length + 1) none []).map
    fun collected => collected.map drainOldest

/-! ## The pages that are read -/

section Lists

variable {messages : List Message}

def firstPages (messages : List Message) (pages : ℕ) : List Message :=
  messages.take (contextPageSize * pages)

/-- The messages of the other pages. -/
def laterPages (messages : List Message) (pages : ℕ) : List Message :=
  messages.drop (contextPageSize * pages)

/-- There is a next page, but enough active messages have been read. -/
def StopsAfter (messages : List Message) (pages : ℕ) : Prop :=
  contextPageSize * pages < messages.length ∧
    maxWorkContextMessages ≤ (activeMessages (firstPages messages pages)).length

/-- The number of pages that the loop reads: all of them, or those up to the first stop. -/
structure PagesRead (messages : List Message) (pages : ℕ) : Prop where
  stopped : messages.length ≤ contextPageSize * pages ∨ StopsAfter messages pages
  first : ∀ earlier, 0 < earlier → earlier < pages → ¬ StopsAfter messages earlier

lemma activeMessages_append (a b : List Message) :
    activeMessages (a ++ b) = activeMessages a ++ activeMessages b := filter_append a b

lemma activeMessages_firstPages_succ (pages : ℕ) :
    activeMessages (firstPages messages (pages + 1))
      = activeMessages (firstPages messages pages) ++
        activeMessages ((messages.drop (contextPageSize * pages)).take contextPageSize) := by
  rw [← activeMessages_append, firstPages, firstPages, Nat.mul_add_one, take_add]

lemma not_stopsAfter_zero : ¬ StopsAfter messages 0 := by
  simp [StopsAfter, firstPages, activeMessages, maxWorkContextMessages]

/-- There are messages behind the pages read only at a stop. -/
lemma PagesRead.condition_iff {pages : ℕ} (h : PagesRead messages pages) :
    (∀ stop, StopsAfter messages stop → activeMessages (laterPages messages stop) = []) ↔
      activeMessages (laterPages messages pages) = [] := by
  constructor
  · intro hall
    rcases h.stopped with hend | hstop
    · rw [laterPages, drop_eq_nil_of_le hend]
      rfl
    · exact hall pages hstop
  · intro hemp stop hstop
    have hle : pages ≤ stop := by
      by_contra hlt
      rcases Nat.eq_zero_or_pos stop with rfl | hpos
      · exact not_stopsAfter_zero hstop
      · exact h.first stop hpos (not_le.1 hlt) hstop
    have hsub : (laterPages messages stop).Sublist (laterPages messages pages) :=
      drop_sublist_drop_left _ (Nat.mul_le_mul_left _ hle)
    exact sublist_nil.1 (hemp ▸ hsub.filter _)

/-- The newest messages of the pages read are the newest of all exactly when no active message is
behind those pages. -/
lemma PagesRead.drainOldest_eq_iff {pages : ℕ} (h : PagesRead messages pages)
    (hnd : messages.Nodup) :
    drainOldest (activeMessages (firstPages messages pages)) = drainOldest (activeMessages messages)
      ↔ activeMessages (laterPages messages pages) = [] := by
  have hsplit : activeMessages messages
      = activeMessages (firstPages messages pages)
        ++ activeMessages (laterPages messages pages) := by
    rw [← activeMessages_append, firstPages, laterPages, take_append_drop]
  constructor
  · intro hsame
    rcases h.stopped with hend | -
    · rw [laterPages, drop_eq_nil_of_le hend]
      rfl
    -- the last message behind the pages would have to be one of the pages
    by_contra hne
    have hnd' : (activeMessages messages).Nodup := hnd.filter _
    rw [hsplit] at hnd' hsame
    have hmem : (activeMessages (laterPages messages pages)).getLast hne
        ∈ drainOldest (activeMessages (firstPages messages pages)
          ++ activeMessages (laterPages messages pages)) := by
      refine mem_of_getLast? ?_
      have hpos := length_pos_iff.2 hne
      rw [drainOldest, getLast?_drop, if_neg (by
        simp only [length_append, maxWorkContextMessages]
        omega), getLast?_append_of_ne_nil _ hne, getLast?_eq_some_getLast hne]
    rw [← hsame] at hmem
    exact (nodup_append.1 hnd').2.2 _ (mem_of_mem_drop hmem) _
      (getLast_mem hne) rfl
  · intro hemp
    rw [hsplit, hemp, append_nil]

end Lists

/-! ## The loop -/

section Loop

variable {s : State} {threadId : ThreadId}

/-- The loop collects the active messages of the pages it reads. -/
lemma collectPages_read (hkey : MessagesKeyed s) (hthr : s.threads.contains threadId = true)
    {messages : List Message} (hmsgs : messages = sortBySequence (s.threadMessages threadId))
    {bound done : ℕ} (hbound : messages.length < contextPageSize * (done + bound))
    (hdone : contextPageSize * done ≤ messages.length) :
    ∃ pages, done < pages ∧
      collectPages s threadId bound
        (cursorAt messages (contextPageSize * done) fun msg => msg.id.value)
        (activeMessages (firstPages messages done))
          = some (.ok (activeMessages (firstPages messages pages))) ∧
      (messages.length ≤ contextPageSize * pages ∨ StopsAfter messages pages) ∧
      ∀ earlier, done < earlier → earlier < pages → ¬ StopsAfter messages earlier := by
  induction bound generalizing done with
  | zero =>
    rw [Nat.add_zero] at hbound
    omega
  | succ bound ih =>
    have hsize : 1 ≤ contextPageSize ∧ contextPageSize ≤ maxPageSize := by decide
    have hpage := WorkspaceService.listMessages_slice hkey hthr hmsgs hsize hdone
    rw [← Nat.mul_add_one] at hpage
    by_cases hmore : contextPageSize * (done + 1) < messages.length
    · rw [if_pos hmore] at hpage
      have hcsr : cursorAt messages (contextPageSize * (done + 1))
          (fun msg => msg.id.value) ≠ none := by
        simp [cursorAt, contextPageSize, ne_nil_of_length_pos (Nat.zero_lt_of_lt hmore)]
      obtain ⟨next, hnext⟩ := Option.ne_none_iff_exists'.1 hcsr
      by_cases heno : maxWorkContextMessages
          ≤ (activeMessages (firstPages messages (done + 1))).length
      · refine ⟨done + 1, Nat.lt_succ_self _, ?_, .inr ⟨hmore, heno⟩, by omega⟩
        simp only [collectPages, hpage, hnext, ← activeMessages_firstPages_succ, if_pos heno]
      · have hleft : messages.length < contextPageSize * (done + 1 + bound) := by
          rw [Nat.add_right_comm]
          exact hbound
        obtain ⟨pages, hlt, hcoll, hstop, hfst⟩ := ih hleft hmore.le
        refine ⟨pages, by omega, ?_, hstop, fun earlier hear hbef hstops => ?_⟩
        · rw [← hcoll]
          simp only [collectPages, hpage, hnext, ← activeMessages_firstPages_succ, if_neg heno]
        · rcases Nat.lt_or_ge (done + 1) earlier with hlat | hle
          · exact hfst earlier hlat hbef hstops
          · obtain rfl : earlier = done + 1 := by omega
            exact heno hstops.2
    · rw [if_neg hmore] at hpage
      refine ⟨done + 1, Nat.lt_succ_self _, ?_, .inl (not_lt.1 hmore), by omega⟩
      simp only [collectPages, hpage, ← activeMessages_firstPages_succ]

/-- What `collectContext` returns. -/
lemma collectContext_read (hkey : MessagesKeyed s)
    (hthr : s.threads.contains threadId = true) :
    ∃ pages, PagesRead (sortBySequence (s.threadMessages threadId)) pages ∧
      collectContext s threadId = some (.ok (drainOldest (activeMessages
        (firstPages (sortBySequence (s.threadMessages threadId)) pages)))) := by
  have hlen : (sortBySequence (s.threadMessages threadId)).length
      = (s.threadMessages threadId).length := (perm_insertionSort _ _).length_eq
  have hbound : (sortBySequence (s.threadMessages threadId)).length
      < contextPageSize * (0 + ((s.threadMessages threadId).length + 1)) := by
    rw [contextPageSize]
    omega
  obtain ⟨pages, -, hcoll, hstop, hfst⟩ :=
    collectPages_read hkey hthr rfl hbound (Nat.zero_le _)
  refine ⟨pages, ⟨hstop, hfst⟩, ?_⟩
  have hstart : collectPages s threadId ((s.threadMessages threadId).length + 1) none []
      = some (.ok (activeMessages
        (firstPages (sortBySequence (s.threadMessages threadId)) pages))) := hcoll
  rw [collectContext, hstart]
  rfl

/-! ## The recent conversation -/

/-- The newest active messages of a thread, in sequence order and without repeats. -/
structure RecentActive (s : State) (threadId : ThreadId) (messages : List Message) : Prop where
  ordered : messages.Pairwise fun a b => a.sequence < b.sequence
  active : ∀ message ∈ messages, message ∈ activeMessages (s.threadMessages threadId)
  length_eq : messages.length
    = min (activeMessages (s.threadMessages threadId)).length maxWorkContextMessages
  newest : ∀ message ∈ activeMessages (s.threadMessages threadId), message ∉ messages →
    ∀ recent ∈ messages, message.sequence < recent.sequence

/-- No message is taken twice. -/
lemma RecentActive.nodup {messages : List Message} (h : RecentActive s threadId messages) :
    messages.Nodup :=
  h.ordered.imp fun hlt hsame => by rw [hsame] at hlt; exact lt_irrefl _ hlt

variable {messages other : List Message}

/-- A message of one list of recent messages is in the other one: otherwise the other one has a
message that this one lacks, and each of the two would be older than the other. -/
theorem RecentActive.subset (h : RecentActive s threadId messages)
    (hoth : RecentActive s threadId other) : messages ⊆ other := by
  intro msg hmem
  by_contra hnot
  have hlack : ∃ recent ∈ other, recent ∉ messages := by
    by_contra hall
    have hsub : other ⊆ messages := fun recent hrec =>
      not_not.1 fun hlacks => hall ⟨recent, hrec, hlacks⟩
    have hperm : other.Perm messages := (hoth.nodup.subperm hsub).perm_of_length_le
      (by rw [h.length_eq, hoth.length_eq])
    exact hnot (hperm.mem_iff.2 hmem)
  obtain ⟨recent, hrec, hlacks⟩ := hlack
  have hlt := hoth.newest msg (h.active msg hmem) hnot recent hrec
  have hgt := h.newest recent (hoth.active recent hrec) hlacks msg hmem
  exact lt_asymm hlt hgt

/-- There is one list of recent messages. -/
lemma RecentActive.eq (h : RecentActive s threadId messages)
    (hoth : RecentActive s threadId other) : messages = other := by
  have hperm : messages.Perm other := (perm_ext_iff_of_nodup h.nodup hoth.nodup).2
    fun msg => ⟨fun hmem => h.subset hoth hmem, fun hmem => hoth.subset h hmem⟩
  exact hperm.eq_of_pairwise (fun a b _ _ hab hba => absurd hab (lt_asymm hba))
    h.ordered hoth.ordered

/-- The newest of the sorted active messages are the recent ones. -/
lemma recentActive_drainOldest (hkey : MessagesKeyed s) (hseqd : Sequenced s.messages) :
    RecentActive s threadId
      (drainOldest (activeMessages (sortBySequence (s.threadMessages threadId)))) := by
  have hperm : (activeMessages (sortBySequence (s.threadMessages threadId))).Perm
      (activeMessages (s.threadMessages threadId)) := (perm_insertionSort _ _).filter _
  have hord : (activeMessages (sortBySequence (s.threadMessages threadId))).Pairwise
      fun a b => a.sequence < b.sequence := (hseqd.sorted hkey (.refl _)).filter _
  generalize activeMessages (sortBySequence (s.threadMessages threadId)) = active at hperm hord
  refine ⟨hord.sublist (drop_sublist _ _), ?_, ?_, ?_⟩
  · intro msg hmem
    exact hperm.mem_iff.1 (mem_of_mem_drop hmem)
  · rw [drainOldest, length_drop, hperm.length_eq]
    omega
  · intro msg hmem hnot recent hrec
    rw [← take_append_drop (active.length - maxWorkContextMessages) active,
      pairwise_append] at hord
    rw [← hperm.mem_iff, ← take_append_drop (active.length - maxWorkContextMessages) active,
      mem_append] at hmem
    exact hord.2.2 msg (hmem.resolve_right hnot) recent hrec

/-- The collected context is the recent conversation exactly when no active message is behind a page
at which the loop stops early. -/
theorem collectContext_recent_iff (hkeyed : MessagesKeyed s) (hsequenced : Sequenced s.messages)
    (hthread : s.threads.contains threadId = true) :
    (∃ messages, collectContext s threadId = some (.ok messages) ∧
      RecentActive s threadId messages) ↔
    ∀ pages, StopsAfter (sortBySequence (s.threadMessages threadId)) pages →
      activeMessages (laterPages (sortBySequence (s.threadMessages threadId)) pages) = [] := by
  obtain ⟨pages, hread, hcollect⟩ := collectContext_read hkeyed hthread
  have hnd : (sortBySequence (s.threadMessages threadId)).Nodup :=
    (hkeyed.nodup_sorted (.refl _)).of_map _
  rw [hread.condition_iff, ← hread.drainOldest_eq_iff hnd]
  constructor
  · rintro ⟨messages, hmsgs, hrecent⟩
    obtain rfl := Except.ok.inj (Option.mem_unique hcollect hmsgs)
    exact hrecent.eq (recentActive_drainOldest hkeyed hsequenced)
  · intro hsame
    refine ⟨_, hcollect, ?_⟩
    rw [hsame]
    exact recentActive_drainOldest hkeyed hsequenced

end Loop

/-! ## A long thread -/

namespace LongThread

/-- One printable character is an identifier. -/
lemma idProblem_singleton {c : Char} (hc : isControl c = false) :
    idProblem (String.singleton c) = none := by
  have hsize : (String.singleton c).utf8ByteSize ≤ 128 := by
    rw [String.utf8ByteSize_singleton]
    exact c.utf8Size_le_four.trans (by decide)
  rw [idProblem, if_neg (not_lt.2 hsize)]
  simp [hc]

/-- The printable character with a number. -/
def letter (n : Fin 4096) : Char := Char.ofNat (0x4E00 + n)

lemma toNat_letter (n : Fin 4096) : (letter n).toNat = 0x4E00 + n := by
  rw [letter, Char.ofNat, dif_pos (.inl (by omega))]
  rfl

lemma isControl_letter (n : Fin 4096) : isControl (letter n) = false := by
  simp only [isControl, toNat_letter]
  simp only [Bool.or_eq_false_iff, Bool.and_eq_false_iff, decide_eq_false_iff_not]
  omega

/-- The identifier with a number. -/
def letterId (kind : IdKind) (n : Fin 4096) : EntityId kind :=
  ⟨String.singleton (letter n), idProblem_singleton (isControl_letter n)⟩

lemma letterId_injective (kind : IdKind) : Function.Injective (letterId kind) := by
  intro n m h
  have hlett : [letter n] = [letter m] := by
    simpa [letterId] using congrArg (fun id => id.value.toList) h
  have hnumb := congrArg Char.toNat (cons.inj hlett).1
  rw [toNat_letter, toNat_letter] at hnumb
  omega

def thread : Thread where
  id := letterId .thread 0
  projectId := letterId .project 0
  title := "Notes"
  state := .opened
  lineage := .original (letterId .thread 0)
  revision := 0
  createdAt := 0
  updatedAt := 0

/-- The active message of the thread with a number. -/
def message (n : Fin 4096) : Message where
  id := letterId .message n
  threadId := thread.id
  sequence := n + 1
  role := .user
  content := "note"
  state := .active
  derivation := .original
  revision := 0
  createdAt := 0
  updatedAt := 0

/-- The first messages of the thread. -/
def notes (count : ℕ) : List Message := (List.ofFn message).take count

/-- A store with one thread and its first messages. -/
def store (count : ℕ) : State where
  threads := (∅ : Table ThreadId Thread).insert thread.id thread
  messages := (∅ : Table MessageId Message).insertAll Message.id (notes count)

lemma store_thread (count : ℕ) : (store count).threads.contains thread.id = true :=
  contains_iff.2 ⟨thread, lookup_insert_self _ _ _⟩

variable {count : ℕ} {m : Message}

lemma mem_notes (h : m ∈ notes count) : ∃ n, message n = m :=
  mem_ofFn.1 (mem_of_mem_take h)

lemma nodup_notes (count : ℕ) : ((notes count).map Message.id).Nodup := by
  rw [notes, map_take, map_ofFn]
  exact (nodup_ofFn.2 (letterId_injective .message)).sublist (take_sublist _ _)

/-- What the store has under an identifier. -/
theorem stored {id : MessageId}
    (h : (store count).messages.lookup id = some m) :
    ∃ n, message n = m ∧ letterId .message n = id := by
  rcases lookup_insertAll_cases _ Message.id h with hemp | ⟨hmem, hid⟩
  · simp at hemp
  · obtain ⟨n, rfl⟩ := mem_notes hmem
    exact ⟨n, rfl, hid⟩

/-- The messages have their keys. -/
lemma store_keyed (count : ℕ) : MessagesKeyed (store count) := by
  intro id m h
  obtain ⟨n, rfl, hid⟩ := stored h
  exact hid

lemma store_sequenced (count : ℕ) : Sequenced (store count).messages := by
  intro id id' m m' h h' _ hseq
  obtain ⟨n, rfl, rfl⟩ := stored h
  obtain ⟨n', rfl, rfl⟩ := stored h'
  have hsame : n = n' := by
    simp only [message, Nat.add_right_cancel_iff] at hseq
    exact Fin.ext hseq
  rw [hsame]

/-- The thread has the first messages, all of them active. -/
lemma threadMessages_perm (count : ℕ) :
    ((store count).threadMessages thread.id).Perm (notes count) := by
  have hval : ((store count).messages.values).Perm (notes count) :=
    values_insertAll_perm (t := (∅ : Table MessageId Message)) (by simp)
      (nodup_notes count)
  refine (hval.filter _).trans ?_
  rw [filter_eq_self.2]
  intro m hm
  obtain ⟨n, rfl⟩ := mem_notes hm
  exact decide_eq_true rfl

/-- The thread has the messages of the notes. -/
lemma length_sorted (hcnt : count ≤ 4096) :
    (sortBySequence ((store count).threadMessages thread.id)).length = count := by
  rw [sortBySequence, (perm_insertionSort _ _).length_eq,
    (threadMessages_perm count).length_eq, notes,
    length_take, length_ofFn, min_eq_left hcnt]

/-- All messages of the thread are active. -/
lemma activeMessages_sublist {l : List Message}
    (h : l.Sublist (sortBySequence ((store count).threadMessages thread.id))) :
    activeMessages l = l := by
  refine filter_eq_self.2 fun m hm => ?_
  have hmem := (perm_insertionSort _ _).mem_iff.1 (h.subset hm)
  obtain ⟨n, rfl⟩ := mem_notes ((threadMessages_perm count).mem_iff.1 hmem)
  exact decide_eq_true rfl

/-- A thread of three messages is collected whole. -/
theorem collectContext_recent_iff_short : ∃ messages,
    collectContext (store 3) thread.id = some (.ok messages) ∧
      RecentActive (store 3) thread.id messages := by
  refine (collectContext_recent_iff (store_keyed 3) (store_sequenced 3) (store_thread 3)).2 ?_
  rintro pages ⟨hmore, henough⟩
  rw [firstPages, activeMessages_sublist (take_sublist _ _)] at henough
  have hle := henough.trans (take_sublist _ _).length_le
  rw [length_sorted (by decide)] at hle
  exact absurd hle (by decide)

/-- Of a thread of 1201 messages, all active, the oldest thousand are collected. -/
theorem newest_message_lost : ¬ ∃ messages,
    collectContext (store 1201) thread.id = some (.ok messages) ∧
      RecentActive (store 1201) thread.id messages := by
  rintro ⟨messages, hmsgs, hrecent⟩
  obtain ⟨pages, hread, hcollect⟩ := collectContext_read (store_keyed 1201) (store_thread 1201)
  have hnd := (store_keyed 1201).nodup_sorted (.refl ((store 1201).threadMessages thread.id))
  have hlen : (sortBySequence ((store 1201).threadMessages thread.id)).length = 1201 :=
    length_sorted (by decide)
  have hsame : drainOldest (activeMessages
        (firstPages (sortBySequence ((store 1201).threadMessages thread.id)) pages))
      = drainOldest (activeMessages (sortBySequence ((store 1201).threadMessages thread.id))) := by
    obtain rfl := Except.ok.inj (Option.mem_unique hcollect hmsgs)
    exact hrecent.eq (recentActive_drainOldest (store_keyed 1201) (store_sequenced 1201))
  rw [hread.drainOldest_eq_iff (hnd.of_map _), ← hread.condition_iff] at hsame
  -- five pages have a thousand active messages, and there are 201 behind them
  have hstop : StopsAfter (sortBySequence ((store 1201).threadMessages thread.id)) 5 := by
    refine ⟨by rw [hlen]; decide, ?_⟩
    rw [firstPages, activeMessages_sublist (take_sublist _ _), length_take, hlen]
    decide
  have hemp := congrArg length (hsame 5 hstop)
  rw [laterPages, activeMessages_sublist (drop_sublist _ _), length_drop, hlen]
    at hemp
  exact absurd hemp (by decide)

end LongThread

end GrokDesktop.HostWork
