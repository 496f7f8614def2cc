import GrokDesktop.VmHost.Calls

/-!
# Runs of the host

What holds in every run of concurrent requests: the state of the cache tells which requests have
made its entries and stored its responses, each request starts, looks up and answers once, and as
long as the cache has room an entry leaves it only when it is done and its time has passed.
-/

namespace GrokDesktop.VmHost

open Resumption Resumption.Program HostState List

/-- An answered call of a run, with the state before it. -/
abbrev HostEntry : Type := Entry hostInterface HostState

/-- The event is among those of the trace. -/
def Occurs (tr : List HostEntry) (ev : HostEvent) : Prop := ev ∈ tr.map Entry.event

variable {tr : List HostEntry} {e : HostEntry}

lemma occurs_concat {ev : HostEvent} :
    Occurs (tr ++ [e]) ev ↔ Occurs tr ev ∨ e.event = ev := by
  simp [Occurs, eq_comm]

/-- What occurs before a call of a trace occurs in the trace. -/
theorem Occurs.of_split {pre post : List HostEntry} {ev : HostEvent} (h : Occurs pre ev)
    (htr : tr = pre ++ e :: post) : Occurs tr ev := by
  rw [htr]
  simpa [Occurs] using Or.inl h

/-- Two calls of a kind that no earlier call has are the same. -/
lemma occurs_unique {Q : HostEvent → Prop} {a b : HostEvent}
    (honce : ∀ pre e post, tr = pre ++ e :: post → Q e.event → ∀ ev, Q ev → ¬ Occurs pre ev)
    (ha : Occurs tr a) (hb : Occurs tr b) (hQa : Q a) (hQb : Q b) : a = b := by
  obtain ⟨a, hmem, rfl⟩ := mem_map.1 ha
  obtain ⟨b, hmem', rfl⟩ := mem_map.1 hb
  refine congrArg Entry.event (eq_of_not_earlier (Q := fun e => Q e.event) ?_ hmem hmem' hQa hQb)
  intro pre e post htr hQ a ha hQa
  exact honce pre e post htr hQ a.event hQa (mem_map_of_mem ha)

/-! ## What the cache knows -/

/-- A lookup that is not made with a reading of the clock that lies ahead. -/
def Timely (e : HostEntry) : Prop :=
  ∀ τ k d now r, e.event = ⟨.lookup τ k d now, r⟩ → now ≤ e.before.clock

/-- A lookup that finds fewer live entries than the cache can hold. -/
def Roomy (config : Config) (e : HostEntry) : Prop :=
  ∀ τ k d now r, e.event = ⟨.lookup τ k d now, r⟩ →
    (e.before.pruneLocked config.ttl now).entries.entries.length < config.maxEntries

/-- What the state of the host tells about the calls made so far. -/
structure Recorded (s : HostState) (tr : List HostEntry) : Prop where
  past : ∀ e ∈ tr, e.before.clock ≤ s.clock
  clocked : ∀ peer frame τ now, Occurs tr ⟨.enter peer frame, (τ, now)⟩ → now ≤ s.clock
  made : ∀ τ k d c n, Occurs tr ⟨.lookup τ k d c, .own n⟩ →
    ∃ e, s.heap[n]? = some e ∧ e.digest = d ∧ e.created = c
  found : ∀ k n, s.entries.lookup k = some n → ∃ τ d c, Occurs tr ⟨.lookup τ k d c, .own n⟩
  stored : ∀ n r, s.response? n = some r → ∃ τ, Occurs tr ⟨.complete τ n r, ()⟩

/-- An entry that was made is found under its key, or it is done and its time has passed. -/
def Kept (config : Config) (s : HostState) (tr : List HostEntry) : Prop :=
  ∀ τ k d c n, Occurs tr ⟨.lookup τ k d c, .own n⟩ →
    s.entries.lookup k = some n ∨ ((s.response? n).isSome ∧ c + config.ttl ≤ s.clock)

namespace HostState

variable {s s' t : HostState} {config : Config} {key : String} {digest : Digest} {now : ℕ}
  {r : Lookup}

/-- Pruning keeps the recorded responses. -/
@[simp] lemma response?_pruneLocked (n : ℕ) :
    (s.pruneLocked config.ttl now).response? n = s.response? n := rfl

section

variable (h : (r, s') = t.insert key digest now)
include h

lemma heap_insert :
    s'.heap = t.heap ++ [⟨digest, now, none⟩] := by
  rw [(Prod.mk.inj h).2]

lemma entries_insert :
    s'.entries = t.entries.insert key t.heap.length := by
  rw [(Prod.mk.inj h).2]

/-- A new entry has no response, and the responses of the old ones stay. -/
lemma response?_insert (n : ℕ) :
    s'.response? n = t.response? n := by
  obtain ⟨-, rfl⟩ := Prod.mk.inj h
  simp only [response?, List.getElem?_append]
  split
  · rfl
  · rw [show t.heap[n]? = none from List.getElem?_eq_none (by omega)]
    cases hn : [(⟨digest, now, none⟩ : IdempotencyEntry)][n - t.heap.length]? with
    | none => rfl
    | some e =>
      obtain rfl := mem_singleton.1 (mem_of_getElem? hn)
      rfl

end

/-- A lookup keeps the stored responses. -/
lemma response?_lookup (h : s.lookup config key digest now = (r, s')) (n : ℕ) :
    s'.response? n = s.response? n := by
  rcases lookup_cases h with ⟨_, _, -, -, -, rfl⟩ | ⟨-, rfl, -⟩ | ⟨-, -, t, ht, hheap, -⟩
  · rfl
  · rfl
  · rw [response?_insert ht n]
    simp only [response?, hheap]

variable {m n : ℕ} {response : ResponseEnvelope}

/-- A completion stores the response of its entry only. -/
lemma response?_complete {stored : ResponseEnvelope}
    (h : (s.complete n response).response? m = some stored) :
    (m = n ∧ stored = response) ∨ s.response? m = some stored := by
  simp only [response?, complete, List.getElem?_modify] at h ⊢
  cases hm : s.heap[m]? with
  | none => simp [hm] at h
  | some e =>
    simp only [hm] at h ⊢
    split at h
    · exact .inl ⟨‹n = m›.symm, (Option.some.inj h).symm⟩
    · exact .inr h

/-- A completion keeps the responses of the entries that are done. -/
lemma isSome_response?_complete (h : (s.response? m).isSome) :
    ((s.complete n response).response? m).isSome := by
  simp only [response?, complete, List.getElem?_modify] at h ⊢
  cases hm : s.heap[m]? with
  | none => simp [hm] at h
  | some e =>
    simp only [hm] at h ⊢
    split
    · rfl
    · exact h

/-- A completion keeps the digest and the time of an entry. -/
lemma getElem?_complete {e : IdempotencyEntry} (h : s.heap[m]? = some e) :
    ∃ e', (s.complete n response).heap[m]? = some e' ∧
      e'.digest = e.digest ∧ e'.created = e.created := by
  simp only [complete, List.getElem?_modify, h]
  split
  · exact ⟨_, rfl, rfl, rfl⟩
  · exact ⟨_, rfl, rfl, rfl⟩

/-- An entry expires only when it is done and its time has passed. -/
lemma expired_eq_true {ttl : ℕ} {e : IdempotencyEntry} (he : s.heap[n]? = some e) :
    s.expired ttl now n = true ↔ (s.response? n).isSome ∧ e.created + ttl ≤ now := by
  simp [expired, response?, he]

end HostState

section

variable {config : Config} {s s' : HostState} {tr : List HostEntry}

/-- The record at the start of the host. -/
theorem Recorded.empty : Recorded HostState.empty [] :=
  ⟨by simp, by simp [Occurs], by simp [Occurs], by simp [HostState.empty],
    by simp [HostState.empty, HostState.response?]⟩

variable {c : HostCall}

variable {r : c.Reply}

/-- The record after a call that is no start of a request and no lookup. -/
lemma Recorded.of_other (h : Recorded s tr)
    (henter : ∀ peer frame, c ≠ .enter peer frame) (hget : ∀ τ k d now, c ≠ .lookup τ k d now)
    (hclk : s'.clock = s.clock)
    (hheap : ∀ (n : ℕ) (e : IdempotencyEntry), s.heap[n]? = some e →
      ∃ e', s'.heap[n]? = some e' ∧ e'.digest = e.digest ∧ e'.created = e.created)
    (hents : s'.entries = s.entries)
    (hsto : ∀ n stored, s'.response? n = some stored → s.response? n = some stored ∨
      ∃ τ, (⟨c, r⟩ : HostEvent) = ⟨.complete τ n stored, ()⟩) :
    Recorded s' (tr ++ [⟨s, ⟨c, r⟩⟩]) where
  past e he := by
    rw [hclk]
    rcases mem_append.1 he with he | he
    · exact h.past e he
    · rw [mem_singleton.1 he]
  clocked peer frame τ now hocc := by
    rcases occurs_concat.1 hocc with hocc | heq
    · rw [hclk]
      exact h.clocked peer frame τ now hocc
    · exact absurd (congrArg Sigma.fst heq) (henter peer frame)
  made τ k d time n hocc := by
    rcases occurs_concat.1 hocc with hocc | heq
    · obtain ⟨e, he, rfl, rfl⟩ := h.made τ k d time n hocc
      exact hheap n e he
    · exact absurd (congrArg Sigma.fst heq) (hget τ k d time)
  found k n hk := by
    rw [hents] at hk
    obtain ⟨τ, d, time, hocc⟩ := h.found k n hk
    exact ⟨τ, d, time, occurs_concat.2 (.inl hocc)⟩
  stored n stored hn := by
    rcases hsto n stored hn with hn | ⟨τ, hn⟩
    · obtain ⟨τ, hocc⟩ := h.stored n stored hn
      exact ⟨τ, occurs_concat.2 (.inl hocc)⟩
    · exact ⟨τ, occurs_concat.2 (.inr hn)⟩

/-- The record after a call that leaves the state as it is. -/
theorem Recorded.of_same (h : Recorded s tr)
    (henter : ∀ peer frame, c ≠ .enter peer frame) (hget : ∀ τ k d now, c ≠ .lookup τ k d now) :
    Recorded s (tr ++ [⟨s, ⟨c, r⟩⟩]) :=
  h.of_other henter hget rfl (fun _ e he => ⟨e, he, rfl, rfl⟩) rfl fun _ _ hn => .inl hn

variable {digest : Digest} {found : Lookup} {τ now : ℕ} {key : String}

lemma Recorded.of_lookup (h : Recorded s tr)
    (hfnd : s.lookup config key digest now = (found, s')) :
    Recorded s' (tr ++ [⟨s, ⟨.lookup τ key digest now, found⟩⟩]) := by
  have hclk := (lookup_kept hfnd).2
  -- the old entries stay on the heap, and an entry that is found was found before or is the new one
  obtain ⟨hheap, hnew, hents⟩ :
      (∀ (n : ℕ) (e : IdempotencyEntry), s.heap[n]? = some e → s'.heap[n]? = some e) ∧
      (∀ n, found = .own n → s'.heap[n]? = some ⟨digest, now, none⟩) ∧
      ∀ k n, s'.entries.lookup k = some n →
        s.entries.lookup k = some n ∨ (k = key ∧ found = .own n) := by
    rcases lookup_cases hfnd with
      ⟨n, e, -, -, hr, rfl⟩ | ⟨hr, rfl, -⟩ | ⟨hr, -, t, ht, hheap, -, -, hold, -⟩
    · refine ⟨fun n e he => he, fun n hown => ?_,
        fun k n hk => .inl (lookup_pruneLocked.1 hk).1⟩
      rw [hown] at hr
      split at hr <;> cases hr
    · refine ⟨fun n e he => he, fun n hown => ?_,
        fun k n hk => .inl (lookup_pruneLocked.1 hk).1⟩
      rw [hown] at hr
      cases hr
    · refine ⟨fun n e he => ?_, fun n hown => ?_, fun k n hk => ?_⟩
      · rw [heap_insert ht, hheap, List.getElem?_append, he, if_pos]
        exact (List.getElem?_eq_some_iff.1 he).1
      · obtain rfl := Lookup.own.inj (hown.symm.trans hr)
        rw [heap_insert ht, hheap]
        simp
      · rw [entries_insert ht] at hk
        by_cases hkey : k = key
        · subst hkey
          rw [AList.lookup_insert, hheap] at hk
          exact .inr ⟨rfl, hr.trans (congrArg _ (Option.some.inj hk))⟩
        · rw [AList.lookup_insert_ne hkey] at hk
          exact .inl (lookup_pruneLocked.1 (hold k n hk)).1
  refine ⟨fun e he => ?_, fun peer frame τ' now' hocc => ?_, fun τ' k d time n hocc => ?_,
    fun k n hk => ?_, fun n stored hn => ?_⟩
  · rw [hclk]
    rcases mem_append.1 he with he | he
    · exact h.past e he
    · rw [mem_singleton.1 he]
  · rw [hclk]
    rcases occurs_concat.1 hocc with hocc | heq
    · exact h.clocked peer frame τ' now' hocc
    · cases heq
  · rcases occurs_concat.1 hocc with hocc | heq
    · obtain ⟨e, he, hd, ht⟩ := h.made τ' k d time n hocc
      exact ⟨e, hheap n e he, hd, ht⟩
    · cases heq
      exact ⟨_, hnew n rfl, rfl, rfl⟩
  · rcases hents k n hk with hk | ⟨rfl, rfl⟩
    · obtain ⟨τ', d, time, hocc⟩ := h.found k n hk
      exact ⟨τ', d, time, occurs_concat.2 (.inl hocc)⟩
    · exact ⟨τ, digest, now, occurs_concat.2 (.inr rfl)⟩
  · rw [HostState.response?_lookup hfnd] at hn
    obtain ⟨τ', hocc⟩ := h.stored n stored hn
    exact ⟨τ', occurs_concat.2 (.inl hocc)⟩

lemma Recorded.answer (h : Recorded s tr)
    (hans : (hostSystem config).answers s c r s') : Recorded s' (tr ++ [⟨s, ⟨c, r⟩⟩]) := by
  cases c with
  | enter peer frame =>
    obtain ⟨-, hclk, rfl⟩ := hans
    refine ⟨fun e he => ?_, fun peer' frame' τ now' hocc => ?_, fun τ k d time n hocc => ?_,
      fun k n hk => ?_, fun n stored hn => ?_⟩
    · rcases mem_append.1 he with he | he
      · exact le_trans (h.past e he) hclk
      · rw [mem_singleton.1 he]
        exact hclk
    · rcases occurs_concat.1 hocc with hocc | heq
      · exact le_trans (h.clocked peer' frame' τ now' hocc) hclk
      · cases heq
        exact le_rfl
    · rcases occurs_concat.1 hocc with hocc | heq
      · exact h.made τ k d time n hocc
      · cases heq
    · obtain ⟨τ, d, time, hocc⟩ := h.found k n hk
      exact ⟨τ, d, time, occurs_concat.2 (.inl hocc)⟩
    · obtain ⟨τ, hocc⟩ := h.stored n stored hn
      exact ⟨τ, occurs_concat.2 (.inl hocc)⟩
  | lookup τ key digest now => exact h.of_lookup hans
  | complete τ entry response =>
    rw [show s' = s.complete entry response from hans]
    refine h.of_other (by simp) (by simp) rfl (fun n e he => getElem?_complete he) rfl ?_
    intro n stored hn
    rcases HostState.response?_complete hn with ⟨rfl, rfl⟩ | hn
    · exact .inr ⟨τ, rfl⟩
    · exact .inl hn
  | await τ entry =>
    have hs' : s' = s := by
      cases r with
      | none => exact hans
      | some response => exact hans.2
    rw [hs']
    exact h.of_same (by simp) (by simp)
  | resolve τ peer | contextErr τ | service τ invocation | respond τ response =>
    rw [show s' = s from hans]
    exact h.of_same (by simp) (by simp)

/-- A lookup keeps the entries that are still needed when there is room and its reading of the
clock does not lie ahead. -/
lemma Kept.of_lookup (h : Kept config s tr) (hrec : Recorded s tr)
    (hfnd : s.lookup config key digest now = (found, s')) (hnow : now ≤ s.clock)
    (hroom : (s.pruneLocked config.ttl now).entries.entries.length < config.maxEntries) :
    Kept config s' (tr ++ [⟨s, ⟨.lookup τ key digest now, found⟩⟩]) := by
  have hclk := (lookup_kept hfnd).2
  intro τ' k d c n hocc
  rw [HostState.response?_lookup hfnd, hclk]
  rcases occurs_concat.1 hocc with hocc | heq
  · obtain ⟨e, he, -, rfl⟩ := hrec.made τ' k d c n hocc
    rcases h τ' k d _ n hocc with hk | hdone
    · by_cases hexp : s.expired config.ttl now n = true
      · obtain ⟨hsome, htime⟩ := (expired_eq_true he).1 hexp
        exact .inr ⟨hsome, le_trans htime hnow⟩
      · have hprun : (s.pruneLocked config.ttl now).entries.lookup k = some n :=
          lookup_pruneLocked.2 ⟨hk, by simpa using hexp⟩
        left
        rcases lookup_cases hfnd with
          ⟨_, _, -, -, -, rfl⟩ | ⟨-, rfl, -⟩ | ⟨-, hdang, t, ht, -, -, -, -, hroomy⟩
        · exact hprun
        · exact hprun
        · -- the key of a new entry has no entry, so it is another key
          have hne : k ≠ key := by
            rintro rfl
            rw [hdang n hprun] at he
            cases he
          rw [entries_insert ht, AList.lookup_insert_ne hne, hroomy hroom]
          exact hprun
    · exact .inr hdone
  · cases heq
    left
    rcases lookup_cases hfnd with
      ⟨_, _, -, -, hr, -⟩ | ⟨hr, -, -⟩ | ⟨hr, -, t, ht, hheap, -⟩
    · split at hr <;> cases hr
    · cases hr
    · rw [entries_insert ht, AList.lookup_insert, hheap]
      exact congrArg some (Lookup.own.inj hr).symm

/-- Every answer of the host keeps the entries that are still needed. -/
theorem Kept.answer (h : Kept config s tr) (hrec : Recorded s tr)
    (hans : (hostSystem config).answers s c r s') (htim : Timely ⟨s, ⟨c, r⟩⟩)
    (hroomy : Roomy config ⟨s, ⟨c, r⟩⟩) : Kept config s' (tr ++ [⟨s, ⟨c, r⟩⟩]) := by
  have hoth : (∀ τ k d now, c ≠ .lookup τ k d now) → s'.entries = s.entries →
      s.clock ≤ s'.clock → (∀ n, (s.response? n).isSome → (s'.response? n).isSome) →
      Kept config s' (tr ++ [⟨s, ⟨c, r⟩⟩]) := by
    intro hget hents hclk hresp τ k d time n hocc
    rcases occurs_concat.1 hocc with hocc | heq
    · rw [hents]
      rcases h τ k d time n hocc with hk | ⟨hsome, htime⟩
      · exact .inl hk
      · exact .inr ⟨hresp n hsome, le_trans htime hclk⟩
    · exact absurd (congrArg Sigma.fst heq) (hget τ k d time)
  cases c with
  | enter peer frame =>
    obtain ⟨-, hclk, rfl⟩ := hans
    exact hoth (by simp) rfl hclk fun _ hn => hn
  | lookup τ key digest now =>
    exact h.of_lookup hrec hans (htim τ key digest now r rfl) (hroomy τ key digest now r rfl)
  | complete τ entry response =>
    rw [show s' = s.complete entry response from hans] at hoth ⊢
    exact hoth (by simp) rfl le_rfl fun n hn => isSome_response?_complete hn
  | await τ entry =>
    have hs' : s' = s := by
      cases r with
      | none => exact hans
      | some response => exact hans.2
    rw [hs'] at hoth ⊢
    exact hoth (by simp) rfl le_rfl fun _ hn => hn
  | resolve τ peer | contextErr τ | service τ invocation | respond τ response =>
    rw [show s' = s from hans] at hoth ⊢
    exact hoth (by simp) rfl le_rfl fun _ hn => hn

end

/-! ## What a run knows about its requests -/

section

variable [HostLibrary] {config : Config} {P : Pool hostInterface HostState Empty}
  {pre post : List HostEntry} {e : HostEntry} {τ : ℕ}

/-- How the request of a call started. -/
theorem started_of_split {i : Invocation} {now : ℕ} (htr : P.trace = pre ++ e :: post)
    (hi : Started config (pre.map Entry.event) τ i now) :
    Started config (P.trace.map Entry.event) τ i now := by
  rw [htr, map_append]
  exact hi.append _

variable [Sha256Library]

/-- A run of the host from its start, with any requests at any times. -/
def HostRun (config : Config) (P : Pool hostInterface HostState Empty) : Prop :=
  Pool.Reachable (hostSystem config) (IsCall config) HostState.empty P

namespace HostRun

variable {k : String} {d d' : Digest} {n now t τ' : ℕ}

variable (h : HostRun config P)

include h

/-- The first call of a request comes before all others. -/
lemma enter_first (htr : P.trace = pre ++ e :: post) {peer : PeerIdentity} {frame : List UInt8}
    (he : e.event = ⟨.enter peer frame, (τ, now)⟩) : requests.eventsOf τ pre = [] := by
  have hall := h.allowed_after_session (serve_opening config) (requests_numbered config)
    (serve_protocol config) htr (t := τ) (by rw [he]; rfl)
  rw [he] at hall
  exact hall

/-- A call is allowed after the calls before it, those of other requests included. -/
theorem allowed {c : HostCall} {r : c.Reply} (htr : P.trace = pre ++ e :: post)
    (he : e.event = ⟨c, r⟩) (hτ : requests.names c = some τ) :
    Allowed config (pre.map Entry.event) c := by
  have hall := h.allowed_after_session (serve_opening config) (requests_numbered config)
    (serve_protocol config) htr (t := τ) (by rw [he, session_of_names hτ])
  rw [he] at hall
  refine (Allowed.congr hτ fun ev hev => ?_).1 hall
  simp [Sessions.eventsOf, hev]

/-- The record holds before every call. -/
theorem recorded (htr : P.trace = pre ++ e :: post) : Recorded e.before pre := by
  exact (h.trace_invariant (K := Recorded) .empty fun _ _ _ _ _ => Recorded.answer).2 pre e post
    htr

/-- The record holds after all calls. -/
theorem recorded_state : Recorded P.state P.trace :=
  (h.trace_invariant (K := Recorded) .empty fun _ _ _ _ _ => Recorded.answer).1

/-- A request looks up with a reading of the clock from its start. -/
lemma timely (he : e ∈ P.trace) : Timely e := by
  intro τ k d now r hev
  obtain ⟨pre, post, htr⟩ := append_of_mem he
  obtain ⟨-, -, invocation, ⟨peer, frame, henter, -⟩, -⟩ := h.allowed htr hev rfl
  exact (h.recorded htr).clocked peer frame τ now henter

/-- When the cache always has room, the entries that are still needed stay in it. -/
theorem kept (hroom : ∀ e ∈ P.trace, Roomy config e) (htr : P.trace = pre ++ e :: post) :
    Kept config e.before pre := by
  have hinv := (h.trace_invariant
    (K := fun s tr => Recorded s tr ∧ ((∀ e ∈ tr, Timely e ∧ Roomy config e) → Kept config s tr))
    ?_ ?_).2 pre e post htr
  · refine hinv.2 fun e he => ?_
    have hmem : e ∈ P.trace := by rw [htr]; exact mem_append_left _ he
    exact ⟨h.timely hmem, hroom e hmem⟩
  · exact ⟨.empty, fun _ => by simp [Kept, Occurs]⟩
  · rintro s tr c r s' ⟨hrec, hkept⟩ hans
    refine ⟨hrec.answer hans, fun hall => ?_⟩
    obtain ⟨htim, hroomy⟩ := hall ⟨s, ⟨c, r⟩⟩ (by simp)
    exact (hkept fun e he => hall e (mem_append_left _ he)).answer hrec hans htim hroomy

/-- A request starts once. -/
theorem started_unique {i i' : Invocation} {now' : ℕ}
    (hi : Started config (P.trace.map Entry.event) τ i now)
    (hi' : Started config (P.trace.map Entry.event) τ i' now') : i = i' ∧ now = now' := by
  obtain ⟨peer, frame, henter, hinv⟩ := hi
  obtain ⟨peer', frame', henter', hinv'⟩ := hi'
  have heq := occurs_unique
    (Q := fun ev => ∃ peer frame now, ev = ⟨.enter peer frame, (τ, now)⟩) ?_ henter henter'
    ⟨_, _, _, rfl⟩ ⟨_, _, _, rfl⟩
  · cases heq
    exact ⟨Option.mem_unique hinv hinv', rfl⟩
  · rintro pre e post htr ⟨peer, frame, now, he⟩ ev ⟨peer', frame', now', rfl⟩ hocc
    have hmem : ⟨.enter peer' frame', (τ, now')⟩ ∈ requests.eventsOf τ pre :=
      (requests.mem_eventsOf).2 ⟨mem_map.1 hocc, rfl⟩
    rw [h.enter_first htr he] at hmem
    cases hmem

/-- A request looks up once. -/
theorem lookup_unique {k' : String} {t' : ℕ} {r r' : Lookup}
    (ha : Occurs P.trace ⟨.lookup τ k d t, r⟩) (hb : Occurs P.trace ⟨.lookup τ k' d' t', r'⟩) :
    k = k' ∧ d = d' ∧ t = t' ∧ r = r' := by
  have heq := occurs_unique (Q := fun ev => ∃ k d t r, ev = ⟨.lookup τ k d t, r⟩) ?_ ha hb
    ⟨_, _, _, _, rfl⟩ ⟨_, _, _, _, rfl⟩
  · cases heq
    exact ⟨rfl, rfl, rfl, rfl⟩
  · rintro pre e post htr ⟨k, d, t, r, he⟩ ev ⟨k', d', t', r', rfl⟩ hocc
    exact (h.allowed htr he rfl).1 k' d' t' r' hocc

/-- An entry is made once. -/
theorem own_unique {k' : String} {c c' : ℕ} (ha : Occurs P.trace ⟨.lookup τ k d c, .own n⟩)
    (hb : Occurs P.trace ⟨.lookup τ' k' d' c', .own n⟩) : τ = τ' ∧ k = k' ∧ d = d' ∧ c = c' := by
  have heq := occurs_unique (Q := fun ev => ∃ τ k d c, ev = ⟨.lookup τ k d c, .own n⟩) ?_ ha hb
    ⟨_, _, _, _, rfl⟩ ⟨_, _, _, _, rfl⟩
  · cases heq
    exact ⟨rfl, rfl, rfl, rfl⟩
  · rintro pre e post htr ⟨τ, k, d, c, he⟩ ev ⟨τ', k', d', c', rfl⟩ hocc
    -- the number of a new entry is the number of the entries before it
    obtain ⟨entry, hent, -⟩ := (h.recorded htr).made τ' k' d' c' n hocc
    obtain ⟨s', hans⟩ := h.answered (e := e) (by simp [htr])
    rw [he] at hans
    rcases lookup_cases hans with ⟨_, _, -, -, hr, -⟩ | ⟨hr, -⟩ | ⟨hr, -⟩
    · split at hr <;> cases hr
    · cases hr
    · rw [Lookup.own.inj hr] at hent
      simp at hent

/-- A request has started before it makes another call. -/
theorem started_before {c : HostCall} {r : c.Reply} (htr : P.trace = pre ++ e :: post)
    (he : e.event = ⟨c, r⟩) (hτ : requests.names c = some τ) {i : Invocation}
    (hi : Started config (P.trace.map Entry.event) τ i now) :
    Started config (pre.map Entry.event) τ i now := by
  obtain ⟨peer, frame, henter, hinv⟩ := hi
  refine ⟨peer, frame, ?_, hinv⟩
  obtain ⟨a, ha, haev⟩ := mem_map.1 henter
  rw [htr] at ha
  rcases mem_append.1 ha with ha | ha
  · exact mem_map.2 ⟨a, ha, haev⟩
  · rcases mem_cons.1 ha with rfl | ha
    · rw [he] at haev
      cases haev
      cases hτ
    · obtain ⟨mid, post, rfl⟩ := append_of_mem ha
      have htr' : P.trace = (pre ++ e :: mid) ++ a :: post := by simp [htr]
      have hmem : e.event ∈ requests.eventsOf τ (pre ++ e :: mid) := by
        refine (requests.mem_eventsOf).2 ⟨⟨e, by simp, rfl⟩, ?_⟩
        rw [he, session_of_names hτ]
      rw [h.enter_first htr' haev] at hmem
      cases hmem

/-- A lookup is made with what its request asks for. -/
theorem lookup_started {r : Lookup} (hocc : Occurs P.trace ⟨.lookup τ k d t, r⟩) :
    ∃ i, Started config (P.trace.map Entry.event) τ i t ∧ i.idempotencyKey ≠ "" ∧ k = i.key ∧
      d = i.digest := by
  obtain ⟨e, he, hev⟩ := mem_map.1 hocc
  obtain ⟨pre, post, htr⟩ := append_of_mem he
  obtain ⟨-, -, i, hi, hrest⟩ := h.allowed htr hev rfl
  exact ⟨i, started_of_split htr hi, hrest⟩

variable {stored : ResponseEnvelope}

/-- A response is stored by the request that made the entry. -/
theorem complete_owner (hocc : Occurs P.trace ⟨.complete τ n stored, ()⟩) :
    ∃ i now, Started config (P.trace.map Entry.event) τ i now ∧
      Occurs P.trace ⟨.lookup τ i.key i.digest now, .own n⟩ ∧
      (stored.ok = true → i.permitted) := by
  obtain ⟨e, he, hev⟩ := mem_map.1 hocc
  obtain ⟨pre, post, htr⟩ := append_of_mem he
  obtain ⟨-, i, now, hi, hown, hok⟩ := h.allowed htr hev rfl
  exact ⟨i, now, started_of_split htr hi, Occurs.of_split hown htr, hok⟩

/-- One response is stored for an entry. -/
theorem complete_unique {r r' : ResponseEnvelope} (ha : Occurs P.trace ⟨.complete τ n r, ()⟩)
    (hb : Occurs P.trace ⟨.complete τ' n r', ()⟩) : τ = τ' ∧ r = r' := by
  obtain ⟨_, _, -, hown, -⟩ := h.complete_owner ha
  obtain ⟨_, _, -, hown', -⟩ := h.complete_owner hb
  obtain ⟨rfl, -⟩ := h.own_unique hown hown'
  have heq := occurs_unique (Q := fun ev => ∃ n r, ev = ⟨.complete τ n r, ()⟩) ?_ ha hb
    ⟨_, _, rfl⟩ ⟨_, _, rfl⟩
  · cases heq
    exact ⟨rfl, rfl⟩
  · rintro pre e post htr ⟨n, r, he⟩ ev ⟨n', r', rfl⟩ hocc
    exact (h.allowed htr he rfl).1 n' r' hocc

/-- A request that is told to wait waits for an entry that was made for the same key and digest. -/
theorem wait_made (hocc : Occurs P.trace ⟨.lookup τ k d t, .wait n⟩) :
    ∃ τ' c, Occurs P.trace ⟨.lookup τ' k d c, .own n⟩ := by
  obtain ⟨e, he, hev⟩ := mem_map.1 hocc
  obtain ⟨pre, post, htr⟩ := append_of_mem he
  obtain ⟨s', hans⟩ := h.answered he
  rw [hev] at hans
  rcases lookup_cases hans with ⟨m, entry, hm, hent, hr, -⟩ | ⟨hr, -⟩ | ⟨hr, -⟩
  · split at hr
    · cases hr
    · rename_i hdig
      obtain rfl := Lookup.wait.inj hr
      obtain ⟨τ', d', c, hmade⟩ :=
        (h.recorded htr).found k n (lookup_pruneLocked.1 hm).1
      obtain ⟨entry', hent', rfl, -⟩ := (h.recorded htr).made τ' k d' c n hmade
      obtain rfl := Option.mem_unique hent hent'
      rw [not_not] at hdig
      exact ⟨τ', c, hdig ▸ hmade.of_split htr⟩
  · cases hr
  · cases hr

/-- A response that a waiting request gets was stored for the entry. -/
theorem await_stored (hocc : Occurs P.trace ⟨.await τ n, some stored⟩) :
    ∃ τ', Occurs P.trace ⟨.complete τ' n stored, ()⟩ := by
  obtain ⟨e, he, hev⟩ := mem_map.1 hocc
  obtain ⟨pre, post, htr⟩ := append_of_mem he
  obtain ⟨s', hans⟩ := h.answered he
  rw [hev] at hans
  obtain ⟨τ', hsto⟩ := (h.recorded htr).stored n stored hans.1
  exact ⟨τ', hsto.of_split htr⟩

/-- What a request returns after its lookup. -/
theorem respond_returned {found : Lookup} {response : ResponseEnvelope}
    (hget : Occurs P.trace ⟨.lookup τ k d t, found⟩)
    (hresp : Occurs P.trace ⟨.respond τ response, ()⟩) :
    Returned (P.trace.map Entry.event) τ response found := by
  obtain ⟨e, he, hev⟩ := mem_map.1 hresp
  obtain ⟨pre, post, htr⟩ := append_of_mem he
  obtain ⟨-, hret, -⟩ := h.allowed htr hev rfl
  -- the lookup came before the response, since a request that has answered does not look up
  have hbef : Occurs pre ⟨.lookup τ k d t, found⟩ := by
    obtain ⟨l, hl, hlev⟩ := mem_map.1 hget
    rw [htr] at hl
    rcases mem_append.1 hl with hl | hl
    · exact mem_map.2 ⟨l, hl, hlev⟩
    · rcases mem_cons.1 hl with rfl | hl
      · rw [hev] at hlev
        cases hlev
      · obtain ⟨mid, post, rfl⟩ := append_of_mem hl
        have htr' : P.trace = (pre ++ e :: mid) ++ l :: post := by simp [htr]
        refine absurd ?_ ((h.allowed htr' hlev rfl).2.1 response)
        simp [hev]
  have hall := (hret k d t found hbef).append ((e :: post).map Entry.event)
  rwa [← map_append, ← htr] at hall

/-- A lookup after an entry of its key was made finds that entry, or the entry was done and its
time has passed. -/
theorem lookup_after_own (hroom : ∀ e ∈ P.trace, Roomy config e)
    (htr : P.trace = pre ++ e :: post) {c : ℕ} {found : Lookup}
    (he : e.event = ⟨.lookup τ k d t, found⟩) (hown : Occurs pre ⟨.lookup τ' k d' c, .own n⟩) :
    found = (if d' ≠ d then .conflict else .wait n) ∨
      ((e.before.response? n).isSome ∧ c + config.ttl ≤ e.before.clock) := by
  have hmem : e ∈ P.trace := by simp [htr]
  obtain ⟨entry, hent, rfl, rfl⟩ := (h.recorded htr).made τ' k d' c n hown
  rcases h.kept hroom htr τ' k _ _ n hown with hk | hdone
  · by_cases hexp : e.before.expired config.ttl t n = true
    · obtain ⟨hsome, htime⟩ := (expired_eq_true hent).1 hexp
      exact .inr ⟨hsome, le_trans htime (h.timely hmem τ k d t found he)⟩
    · have hprun : (e.before.pruneLocked config.ttl t).entries.lookup k = some n :=
        lookup_pruneLocked.2 ⟨hk, by simpa using hexp⟩
      left
      obtain ⟨s', hans⟩ := h.answered hmem
      rw [he] at hans
      rcases lookup_cases hans with
        ⟨m, entry', hm, hent', hr, -⟩ | ⟨-, -, hfull⟩ | ⟨-, hdang, -⟩
      · obtain rfl := Option.mem_unique hprun hm
        obtain rfl := Option.mem_unique hent hent'
        exact hr
      · exact absurd (hroom e hmem τ k d t found he) (by omega)
      · rw [hdang n hprun] at hent
        cases hent
  · exact .inr hdone

end HostRun

end

/-! ## Chosen environments -/

/-- An environment in which the clock shows the given time, the resolver finds the service, the
service succeeds, and the contexts have ended or not. A wait for an entry that is not done ends
with the context. -/
def alone (config : Config) (now : ℕ) (ended : Bool) (result : List UInt8) (s : HostState) :
    (c : HostCall) → c.Reply × HostState
  | .enter _ _ =>
      ((s.calls, max s.clock now), { s with calls := s.calls + 1, clock := max s.clock now })
  | .resolve _ _ => (none, s)
  | .contextErr _ => (ended, s)
  | .lookup _ key digest time => s.lookup config key digest time
  | .await _ entry => (s.response? entry, s)
  | .service _ _ => (.result (some result), s)
  | .complete _ entry response => ((), s.complete entry response)
  | .respond _ _ => ((), s)

lemma alone_answers (config : Config) (now : ℕ) (ended : Bool) (res : List UInt8)
    (s : HostState) (c : HostCall) : (hostSystem config).answers s c
      (alone config now ended res s c).1 (alone config now ended res s c).2 := by
  cases c with
  | enter peer frame => exact ⟨rfl, le_max_left _ _, rfl⟩
  | await ticket entry =>
    simp only [alone]
    cases hr : s.response? entry with
    | none => rfl
    | some response => exact ⟨hr, rfl⟩
  | _ => rfl

/-- A library that understands one frame, with the deadline 1000. -/
abbrev oneFrame (frame : List UInt8) (request : RequestEnvelope) : HostLibrary where
  Payload := List UInt8
  parseEnvelope data := if data = frame then .ok request else .error "malformed"
  parseId _ := none
  parseTime _ := some 1000
  parsePayload _ payload := .ok payload
  marshalPayload := .ok
  toUpper := id
  durationText _ := ""
  replaceAllString _ text _ := text

end GrokDesktop.VmHost
