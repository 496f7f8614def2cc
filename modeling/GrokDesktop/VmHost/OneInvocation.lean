import GrokDesktop.VmHost.Runs

/-!
# One invocation for each idempotency key

As long as the cache has room, the service is invoked at most once for each principal, operation
and idempotency key until the time to live of the entry has passed, counted from the reading of
the clock with which the entry was made. Until then the requests under the key get the response of
the request that made the entry, or end while they wait for it, or are refused because they ask
for something else. A stored response goes to the principal it was computed for only.
-/

namespace GrokDesktop.VmHost

open Resumption Resumption.Program List

section

variable [HostLibrary]

/-- The invocations agree on the principal, the operation and the idempotency key. -/
def Invocation.SameTriple (i j : Invocation) : Prop :=
  SamePrincipalKey i.peer j.peer ∧ i.operation = j.operation ∧
    i.idempotencyKey = j.idempotencyKey

lemma Invocation.SameTriple.key_eq {i j : Invocation} (h : i.SameTriple j) : i.key = j.key := by
  obtain ⟨hpeer, hop, hkey⟩ := h
  simp only [Invocation.key, hop, hkey, hpeer.cacheKey_eq]

/-- The idempotency key of an accepted request has no NUL character. -/
lemma nulFree_idempotencyKey {config : Config} {peer : PeerIdentity} {frame : List UInt8}
    {now : ℕ} {i : Invocation} (h : invocationOf config peer frame now = some i) :
    NulFree i.idempotencyKey := by
  obtain ⟨validated, payload, hval, -, rfl⟩ := invocationOf_eq_some.1 h
  obtain ⟨req, -, -, -, _, -, -, _, -, -, -, hsafe, -, rfl⟩ :=
    decodeEnvelope_eq_ok.1 hval
  by_cases hemp : req.idempotencyKey = ""
  · simp [NulFree, hemp]
  · exact nulFree_of_isSafeText (hsafe hemp)

variable [Sha256Library]

/-! ## The guarantee -/

/-- The responses agree but for the request id. -/
def SameResult (r r' : ResponseEnvelope) : Prop := ∃ id, r' = { r with id := id }

/-- A request has made the entry with a reading of the clock, and these calls came later. -/
def Made (config : Config) (tr : List HostEntry) (τ : ℕ) (i : Invocation) (clock entry : ℕ)
    (later : List HostEntry) : Prop :=
  Started config (tr.map Entry.event) τ i clock ∧
    ∃ pre o, tr = pre ++ o :: later ∧ o.event = ⟨.lookup τ i.key i.digest clock, .own entry⟩

/-- A request looks into the cache in one of the later calls, before the clock has reached the
limit. -/
def LooksUp (config : Config) (tr : List HostEntry) (τ : ℕ) (i : Invocation)
    (later : List HostEntry) (limit : ℕ) : Prop :=
  (∃ now, Started config (tr.map Entry.event) τ i now) ∧
    ∃ l ∈ later, (∃ k d t found, l.event = ⟨.lookup τ k d t, found⟩) ∧ l.before.clock < limit

/-- What the cache guarantees in a run with the given calls. -/
structure Idempotent (config : Config) (tr : List HostEntry) : Prop where
  /-- A second invocation comes after the time to live of the first one's entry. -/
  invoked_once : ∀ pre a mid b post τ τ' i j outcome outcome',
    tr = pre ++ a :: (mid ++ b :: post) → a.event = ⟨.service τ i, outcome⟩ →
    b.event = ⟨.service τ' j, outcome'⟩ → i.SameTriple j → i.idempotencyKey ≠ "" →
    ∃ clock entry, Occurs pre ⟨.lookup τ i.key i.digest clock, .own entry⟩ ∧
      clock + config.ttl ≤ b.before.clock
  /-- The request that made an entry and those that ask for the same get the same response. -/
  same_response : ∀ τ i clock entry later, Made config tr τ i clock entry later →
    ∃ stored, (∀ r, Occurs tr ⟨.respond τ r, ()⟩ → SameResult stored r) ∧
      ∀ τ' j, LooksUp config tr τ' j later (clock + config.ttl) → i.SameTriple j →
        i.payload = j.payload → ∀ r, Occurs tr ⟨.respond τ' r, ()⟩ →
        SameResult stored r ∨ ∃ id, r = lateResponse id
  /-- A request that asks for something else is refused and does not invoke the service, unless
  its digest is the same. -/
  conflict : ∀ τ i clock entry later, Made config tr τ i clock entry later →
    ∀ τ' j, LooksUp config tr τ' j later (clock + config.ttl) → i.SameTriple j →
      i.payload ≠ j.payload → i.digest = j.digest ∨
        (∀ r, Occurs tr ⟨.respond τ' r, ()⟩ → ∃ id, r = conflictResponse id) ∧
        ∀ k outcome, ¬ Occurs tr ⟨.service τ' k, outcome⟩
  /-- A request that has looked into the cache returns a response that was computed for the same
  principal, or a refusal of the host. -/
  isolated : ∀ τ i now k d t found r, Started config (tr.map Entry.event) τ i now →
    Occurs tr ⟨.lookup τ k d t, found⟩ → Occurs tr ⟨.respond τ r, ()⟩ →
    (∃ τ' j now' entry stored, Started config (tr.map Entry.event) τ' j now' ∧
      Occurs tr ⟨.complete τ' entry stored, ()⟩ ∧ j.SameTriple i ∧ SameResult stored r) ∨
    ∃ id, r = conflictResponse id ∨ r = busyResponse id ∨ r = lateResponse id
  /-- Guest control succeeds for qualified peers only. -/
  guest_control : ∀ τ i now r, Started config (tr.map Entry.event) τ i now →
    Occurs tr ⟨.respond τ r, ()⟩ → r.ok = true → i.operation = .guestControl →
    i.peer.guestControlQualified = true

/-! ## Why it holds -/

variable {config : Config} {P : Pool hostInterface HostState Empty}

namespace HostRun

variable {k : String}

variable (h : HostRun config P)
include h

/-- A later entry of the same key is made only when the earlier one was done and its time has
passed. -/
lemma own_after_own (hroom : ∀ e ∈ P.trace, Roomy config e)
    {pre post : List HostEntry} {e : HostEntry} (htr : P.trace = pre ++ e :: post)
    {τ τ' n m : ℕ} {d d' : Digest} {t c : ℕ}
    (he : e.event = ⟨.lookup τ k d t, .own m⟩) (hown : Occurs pre ⟨.lookup τ' k d' c, .own n⟩) :
    (∃ stored, Occurs pre ⟨.complete τ' n stored, ()⟩) ∧ c + config.ttl ≤ e.before.clock := by
  rcases h.lookup_after_own hroom htr he hown with hfnd | ⟨hsome, htime⟩
  · split at hfnd <;> cases hfnd
  · refine ⟨?_, htime⟩
    obtain ⟨stored, hsto⟩ := Option.isSome_iff_exists.1 hsome
    obtain ⟨σ, hcomp⟩ := (h.recorded htr).stored n stored hsto
    obtain ⟨_, _, -, hown', -⟩ := h.complete_owner (hcomp.of_split htr)
    obtain ⟨rfl, -⟩ := h.own_unique hown' (hown.of_split htr)
    exact ⟨stored, hcomp⟩

/-- The service is invoked at most once for a triple. -/
lemma invoked_once (hroom : ∀ e ∈ P.trace, Roomy config e)
    {pre mid post : List HostEntry} {a b : HostEntry} {τ τ' : ℕ} {i j : Invocation}
    {outcome outcome' : ServiceOutcome} (htr : P.trace = pre ++ a :: (mid ++ b :: post))
    (ha : a.event = ⟨.service τ i, outcome⟩) (hb : b.event = ⟨.service τ' j, outcome'⟩)
    (hsame : i.SameTriple j) (hkey : i.idempotencyKey ≠ "") :
    ∃ clock entry, Occurs pre ⟨.lookup τ i.key i.digest clock, .own entry⟩ ∧
      clock + config.ttl ≤ b.before.clock := by
  have htr' : P.trace = (pre ++ a :: mid) ++ b :: post := by simp [htr]
  obtain ⟨-, -, -, c, -, hown⟩ := h.allowed htr ha rfl
  obtain ⟨n, hown⟩ := hown hkey
  obtain ⟨hone, hnone, -, c', -, hown'⟩ := h.allowed htr' hb rfl
  obtain ⟨m, hown'⟩ := hown' (hsame.2.2 ▸ hkey)
  refine ⟨c, n, hown, ?_⟩
  rw [hsame.key_eq] at hown
  -- where the second entry was made
  obtain ⟨o, ho, hoev⟩ := mem_map.1 hown'
  obtain ⟨p, q, hpq⟩ := append_of_mem ho
  have htro : P.trace = p ++ o :: (q ++ b :: post) := by simp [htr', hpq]
  obtain ⟨o', ho', hoev'⟩ := mem_map.1 hown
  have hmem : o' ∈ p ++ o :: q := by rw [← hpq]; exact mem_append_left _ ho'
  rcases mem_append.1 hmem with hp | hq
  · -- after the first one: its time has passed
    have hfst : Occurs p ⟨.lookup τ j.key i.digest c, .own n⟩ := mem_map.2 ⟨o', hp, hoev'⟩
    refine le_trans (h.own_after_own hroom htro hoev hfst).2 ?_
    exact (h.recorded htr').past o (by rw [hpq]; simp)
  · rcases mem_cons.1 hq with rfl | hq
    · -- the same entry: one request would invoke the service twice
      rw [hoev'] at hoev
      obtain rfl : τ = τ' :=
        Option.some.inj (congrArg (fun ev : HostEvent => requests.names ev.1) hoev)
      exact absurd (by simp [ha]) (hone i outcome)
    · -- before the first one: it was done then, and its request would invoke the service later
      obtain ⟨q, q', rfl⟩ := append_of_mem hq
      have htro' : P.trace = (p ++ o :: q) ++ o' :: (q' ++ b :: post) := by simp [htro]
      obtain ⟨⟨stored, hcomp⟩, -⟩ := h.own_after_own hroom htro' hoev'
        (mem_map.2 ⟨o, by simp, hoev⟩)
      have hsplit : pre ++ a :: mid = (p ++ o :: q) ++ o' :: q' := by simp [hpq]
      exact absurd (hcomp.of_split hsplit) (hnone m stored)

/-- What a request finds that looks up under the key of an entry in time. -/
lemma found_in_time (hroom : ∀ e ∈ P.trace, Roomy config e)
    {τ τ' clock entry : ℕ} {i j : Invocation} {later : List HostEntry}
    (hmade : Made config P.trace τ i clock entry later)
    (hlooks : LooksUp config P.trace τ' j later (clock + config.ttl)) (hsame : i.SameTriple j) :
    ∃ t, Occurs P.trace ⟨.lookup τ' j.key j.digest t,
      if i.digest ≠ j.digest then .conflict else .wait entry⟩ := by
  obtain ⟨-, pre, o, htr, ho⟩ := hmade
  obtain ⟨⟨now, hj⟩, l, hl, ⟨k, d, t, found, hlev⟩, htime⟩ := hlooks
  obtain ⟨mid, post, rfl⟩ := append_of_mem hl
  have htr' : P.trace = (pre ++ o :: mid) ++ l :: post := by simp [htr]
  have hocc : Occurs P.trace ⟨.lookup τ' k d t, found⟩ :=
    mem_map.2 ⟨l, by simp [htr'], hlev⟩
  obtain ⟨j', hj', -, rfl, rfl⟩ := h.lookup_started hocc
  obtain ⟨rfl, -⟩ := h.started_unique hj hj'
  have hown : Occurs (pre ++ o :: mid) ⟨.lookup τ j.key i.digest clock, .own entry⟩ := by
    rw [← hsame.key_eq]
    exact mem_map.2 ⟨o, by simp, ho⟩
  rcases h.lookup_after_own hroom htr' hlev hown with hfnd | ⟨-, hpass⟩
  · exact ⟨t, hfnd ▸ hocc⟩
  · omega

variable {i : Invocation}

/-- All calls of a triple get its response. -/
lemma same_response (hroom : ∀ e ∈ P.trace, Roomy config e)
    {τ clock entry : ℕ} {later : List HostEntry}
    (hmade : Made config P.trace τ i clock entry later) :
    ∃ stored, (∀ r, Occurs P.trace ⟨.respond τ r, ()⟩ → SameResult stored r) ∧
      ∀ τ' j, LooksUp config P.trace τ' j later (clock + config.ttl) → i.SameTriple j →
        i.payload = j.payload → ∀ r, Occurs P.trace ⟨.respond τ' r, ()⟩ →
        SameResult stored r ∨ ∃ id, r = lateResponse id := by
  have hown : Occurs P.trace ⟨.lookup τ i.key i.digest clock, .own entry⟩ := by
    obtain ⟨-, pre, o, htr, ho⟩ := hmade
    exact mem_map.2 ⟨o, by simp [htr], ho⟩
  -- the response that was stored for the entry, if there is one
  obtain ⟨stored, hsto⟩ : ∃ stored, ∀ σ r, Occurs P.trace ⟨.complete σ entry r, ()⟩ →
      r = stored := by
    by_cases hsome : ∃ σ r, Occurs P.trace ⟨.complete σ entry r, ()⟩
    · obtain ⟨σ, r, hr⟩ := hsome
      exact ⟨r, fun σ' r' hr' => (h.complete_unique hr' hr).2⟩
    · exact ⟨lateResponse "", fun σ r hr => absurd ⟨σ, r, hr⟩ hsome⟩
  refine ⟨stored, fun r hr => ?_, fun τ' j hlooks hsame hpay r hr => ?_⟩
  · obtain ⟨r', id, hcomp, rfl⟩ := h.respond_returned hown hr
    exact ⟨id, by rw [hsto τ r' hcomp]⟩
  · obtain ⟨t, hfnd⟩ := h.found_in_time hroom hmade hlooks hsame
    have hdig : i.digest = j.digest := by
      simp only [Invocation.digest, hsame.2.1, hpay]
    rw [if_neg (not_not.2 hdig)] at hfnd
    rcases h.respond_returned hfnd hr with ⟨r', id, hawait, rfl⟩ | hlate
    · obtain ⟨σ, hcomp⟩ := h.await_stored hawait
      exact .inl ⟨id, by rw [hsto σ r' hcomp]⟩
    · exact .inr hlate

variable {found : Lookup} {d : Digest} {t : ℕ}

/-- A request that has not made an entry does not invoke the service. -/
lemma not_service_of_lookup {τ : ℕ} (hget : Occurs P.trace ⟨.lookup τ k d t, found⟩)
    (hfnd : ∀ n, found ≠ .own n) (i : Invocation) (outcome : ServiceOutcome) :
    ¬ Occurs P.trace ⟨.service τ i, outcome⟩ := by
  intro hsvc
  obtain ⟨e, he, hev⟩ := mem_map.1 hsvc
  obtain ⟨pre, post, htr⟩ := append_of_mem he
  obtain ⟨-, -, -, now, hi, hown⟩ := h.allowed htr hev rfl
  obtain ⟨j, hj, hkey, -, -⟩ := h.lookup_started hget
  obtain ⟨rfl, -⟩ := h.started_unique (started_of_split htr hi) hj
  obtain ⟨n, hown⟩ := hown hkey
  exact hfnd n (h.lookup_unique hget (Occurs.of_split hown htr)).2.2.2

variable {r : ResponseEnvelope} {τ now : ℕ}

/-- A response comes from the same triple or reports a failure. -/
lemma isolated (hi : Started config (P.trace.map Entry.event) τ i now)
    (hget : Occurs P.trace ⟨.lookup τ k d t, found⟩) (hr : Occurs P.trace ⟨.respond τ r, ()⟩) :
    (∃ τ' j now' entry stored, Started config (P.trace.map Entry.event) τ' j now' ∧
      Occurs P.trace ⟨.complete τ' entry stored, ()⟩ ∧ j.SameTriple i ∧ SameResult stored r) ∨
    ∃ id, r = conflictResponse id ∨ r = busyResponse id ∨ r = lateResponse id := by
  obtain ⟨i', hi', -, rfl, rfl⟩ := h.lookup_started hget
  obtain ⟨rfl, -⟩ := h.started_unique hi hi'
  -- the entry of a stored response was made under the key of the request
  have hsto : ∀ (entry σ σ' c : ℕ) (stored : ResponseEnvelope) (d : Digest),
      Occurs P.trace ⟨.complete σ entry stored, ()⟩ →
      Occurs P.trace ⟨.lookup σ' i.key d c, .own entry⟩ → SameResult stored r →
      ∃ τ' j now' entry stored, Started config (P.trace.map Entry.event) τ' j now' ∧
        Occurs P.trace ⟨.complete τ' entry stored, ()⟩ ∧ j.SameTriple i ∧
        SameResult stored r := by
    intro entry σ σ' c stored d hcomp hmade hres
    obtain ⟨j, now', hj, hown, -⟩ := h.complete_owner hcomp
    obtain ⟨-, hkey, -⟩ := h.own_unique hown hmade
    obtain ⟨_, _, -, hallowed⟩ := hi
    obtain ⟨_, _, -, hallowed'⟩ := id hj
    exact ⟨σ, j, now', entry, stored, hj, hcomp,
      cacheKey_inj (nulFree_idempotencyKey hallowed') (nulFree_idempotencyKey hallowed) hkey, hres⟩
  cases found with
  | conflict =>
    obtain ⟨id, hid⟩ := h.respond_returned hget hr
    exact .inr ⟨id, .inl hid⟩
  | full =>
    obtain ⟨id, hid⟩ := h.respond_returned hget hr
    exact .inr ⟨id, .inr (.inl hid)⟩
  | own entry =>
    obtain ⟨stored, id, hcomp, hid⟩ := h.respond_returned hget hr
    exact .inl (hsto entry τ τ t stored i.digest hcomp hget ⟨id, hid⟩)
  | wait entry =>
    rcases h.respond_returned hget hr with ⟨stored, id, hawait, hid⟩ | ⟨id, hid⟩
    · obtain ⟨σ, hcomp⟩ := h.await_stored hawait
      obtain ⟨σ', c, hmade⟩ := h.wait_made hget
      exact .inl (hsto entry σ σ' c stored i.digest hcomp hmade ⟨id, hid⟩)
    · exact .inr ⟨id, .inr (.inr hid)⟩

/-- A request succeeds only when its peer may run the operation. -/
lemma permitted_of_ok (hi : Started config (P.trace.map Entry.event) τ i now)
    (hr : Occurs P.trace ⟨.respond τ r, ()⟩) (hok : r.ok = true) : i.permitted := by
  by_cases hget : ∃ k d t found, Occurs P.trace ⟨.lookup τ k d t, found⟩
  · obtain ⟨k, d, t, found, hget⟩ := hget
    rcases h.isolated hi hget hr with
      ⟨τ', j, now', entry, stored, hj, hcomp, hsame, id, rfl⟩ | ⟨id, rfl | rfl | rfl⟩
    · -- the response was computed for a peer with the same qualification
      obtain ⟨j', now'', hj', -, hperm⟩ := h.complete_owner hcomp
      obtain ⟨rfl, -⟩ := h.started_unique hj hj'
      intro hguest
      rw [← hsame.1.2.2.2.2.2.2.2.1]
      exact hperm hok (hsame.2.1.trans hguest)
    · cases hok
    · cases hok
    · cases hok
  · obtain ⟨e, he, hev⟩ := mem_map.1 hr
    obtain ⟨pre, post, htr⟩ := append_of_mem he
    obtain ⟨-, -, hdir⟩ := h.allowed htr hev rfl
    refine hdir (fun k d t found hocc => ?_) i now (h.started_before htr hev rfl hi) hok
    exact hget ⟨k, d, t, found, Occurs.of_split hocc htr⟩

end HostRun

/-- In every run in which fewer requests are live than the cache can hold, the service is invoked
once for each principal, operation and idempotency key until the entry's time to live has passed;
the requests under the key share its response or are refused; and no principal gets the response
of another one. -/
theorem idempotent_of_roomy (h : HostRun config P) (hroom : ∀ e ∈ P.trace, Roomy config e) :
    Idempotent config P.trace where
  invoked_once pre a mid b post τ τ' i j outcome outcome' htr ha hb hsame hkey :=
    h.invoked_once hroom htr ha hb hsame hkey
  same_response τ i clock entry later hmade := h.same_response hroom hmade
  conflict τ i clock entry later hmade τ' j hlooks hsame _ := by
    by_cases hdig : i.digest = j.digest
    · exact .inl hdig
    · obtain ⟨t, hfnd⟩ := h.found_in_time hroom hmade hlooks hsame
      rw [if_pos hdig] at hfnd
      refine .inr ⟨fun r hr => h.respond_returned hfnd hr, ?_⟩
      exact h.not_service_of_lookup hfnd (by simp)
  isolated τ i now k d t found r hi hlookup hr := h.isolated hi hlookup hr
  guest_control τ i now r hi hr hok := h.permitted_of_ok hi hr hok

end

namespace SharedResult

def frame : List UInt8 := [123, 125]

local instance hostLibrary : HostLibrary := oneFrame frame
  ⟨envelopeVersion, "shared-request", "start_vm", "", "shared-idempotency-key", [123]⟩

/-- A digest of no interest. -/
local instance sha256 : Sha256Library := ⟨fun _ => 0⟩

def config : Config := ⟨2000, 4, 500⟩

def peer : PeerIdentity := ⟨"shared-user", 1, 2, 2, 3, 4, true, false, .windowsNamedPipe⟩

/-- Two requests that start together: the second one waits for the result of the first one. -/
def pool : Pool hostInterface HostState Empty :=
  [0, 1, 0, 1, 0, 1, 0, 0, 0, 0, 0, 1, 1].foldl (Pool.advance (alone config 0 false [123, 125]))
    (((Pool.idle HostState.empty).start (serve config peer frame)).start (serve config peer frame))

lemma hostRun_pool : HostRun config pool := by
  have hidle : Pool.Reachable (hostSystem config) (IsCall config) HostState.empty
      (Pool.idle HostState.empty) := .refl
  have hstarts := (hidle.start ⟨peer, frame, rfl⟩).start ⟨peer, frame, rfl⟩
  exact hstarts.advance (alone_answers _ _ _ _) _

lemma roomy_pool : ∀ e ∈ pool.trace, Roomy config e := by
  have hlive : (pool.trace.all fun e => decide (e.before.entries.entries.length < 4)) = true := by
    decide +kernel
  intro e he _ _ _ _ _ _
  -- entries that are not live count against the room as well
  exact lt_of_le_of_lt (length_filter_le _ _) (of_decide_eq_true (all_eq_true.1 hlive e he))

/-- Both requests of the pool get the one result. -/
theorem idempotent_pool :
    HostRun config pool ∧ (∀ e ∈ pool.trace, Roomy config e) ∧ Idempotent config pool.trace :=
  ⟨hostRun_pool, roomy_pool, idempotent_of_roomy hostRun_pool roomy_pool⟩

end SharedResult

end GrokDesktop.VmHost
