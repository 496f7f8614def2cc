import GrokDesktop.VmHost.Handle

/-!
# The calls of one request

What `serve` does, as a protocol: which call it may make after the ones it has made. Every call
after the first carries the number of the request, so the calls of one request are a session of
the host, and in every interleaving a request keeps to the protocol.
-/

namespace GrokDesktop.VmHost

open Resumption Resumption.Program List

/-! ## Sessions -/

/-- The session of a request is its number. -/
def requests : Sessions hostInterface where
  opens e :=
    match e with
    | ⟨.enter _ _, (ticket, _)⟩ => some ticket
    | _ => none
  names c :=
    match c with
    | .enter _ _ => none
    | .resolve ticket _ | .contextErr ticket | .lookup ticket _ _ _ | .await ticket _
    | .service ticket _ | .complete ticket _ _ | .respond ticket _ => some ticket

/-- A call that names a request belongs to it. -/
theorem session_of_names {c : HostCall} {r : c.Reply} {τ : ℕ} (h : requests.names c = some τ) :
    requests.session ⟨c, r⟩ = some τ := by
  cases c with
  | enter peer frame => cases h
  | _ => exact h

/-- A lookup and a completion keep the number of calls and the clock. -/
theorem lookup_kept {config : Config} {s s' : HostState} {key : String} {digest : Digest}
    {now : ℕ} {r : Lookup} (h : s.lookup config key digest now = (r, s')) :
    s'.calls = s.calls ∧ s'.clock = s.clock := by
  rcases HostState.lookup_cases h with
    ⟨n, e, -, -, -, rfl⟩ | ⟨-, rfl, -⟩ | ⟨-, -, t, ht, -, hcalls, hclk, -⟩
  · exact ⟨rfl, rfl⟩
  · exact ⟨rfl, rfl⟩
  · rw [(Prod.mk.inj ht).2]
    exact ⟨hcalls, hclk⟩

/-- The host numbers the requests in the order in which they start. -/
theorem requests_numbered (config : Config) :
    requests.Numbered (hostSystem config) HostState.calls where
  opened s c r s' t h ht := by
    cases c with
    | enter peer frame =>
      obtain ⟨htick, -, rfl⟩ := h
      exact ⟨(Option.some.inj ht).symm.trans htick, rfl⟩
    | _ => cases ht
  kept s c r s' h ht := by
    cases c with
    | enter peer frame => cases ht
    | lookup ticket key digest now => exact (lookup_kept h).1
    | await ticket entry =>
      cases r with
      | none => rw [show s' = s from h]
      | some response => rw [h.2]
    | complete ticket entry response =>
      rw [show s' = s.complete entry response from h]
      rfl
    | _ => rw [show s' = s from h]

/-- The calls of `callService` name the request. -/
lemma callService_within (ticket : ℕ) (invocation : Invocation) :
    requests.Within ticket (callService ticket invocation) := by
  unfold callService
  split
  · trivial
  · exact ⟨⟨rfl, fun _ => rfl⟩, fun _ => trivial⟩

section

variable [HostLibrary]

/-- The calls of `invoke` name the request. -/
lemma invoke_within (ticket : ℕ) (invocation : Invocation) :
    requests.Within ticket (invoke ticket invocation) := by
  refine ⟨⟨rfl, fun _ => rfl⟩, fun ended => ?_⟩
  cases ended with
  | true => trivial
  | false =>
    refine (callService_within ticket invocation).seq fun outcome _ => ?_
    cases outcome with
    | panic => trivial
    | failure failure =>
      refine ⟨⟨rfl, fun _ => rfl⟩, fun ended => ?_⟩
      cases ended <;> trivial
    | result encoded =>
      refine ⟨⟨rfl, fun _ => rfl⟩, fun ended => ?_⟩
      cases ended <;> cases encoded <;> trivial

variable [Sha256Library]

/-- The calls of a handled request name it. -/
lemma handle_within (config : Config) (ticket now : ℕ) (peer : PeerIdentity)
    (frame : List UInt8) : requests.Within ticket (handle config ticket now peer frame) := by
  unfold handle
  split
  · trivial
  · refine ⟨⟨rfl, fun _ => rfl⟩, fun failure => ?_⟩
    cases failure with
    | some failure => trivial
    | none =>
      split
      · trivial
      · split
        · exact invoke_within ticket _
        · refine ⟨⟨rfl, fun _ => rfl⟩, fun found => ?_⟩
          cases found with
          | conflict => trivial
          | full => trivial
          | wait entry =>
            refine ⟨⟨rfl, fun _ => rfl⟩, fun response => ?_⟩
            cases response <;> trivial
          | own entry =>
            exact (invoke_within ticket _).seq fun response _ =>
              ⟨⟨rfl, fun _ => rfl⟩, fun _ => trivial⟩

/-- A request opens its session and stays within it. -/
theorem serve_opening (config : Config) (p : HostService Unit) (hp : IsCall config p) :
    requests.Opening p := by
  obtain ⟨peer, frame, rfl⟩ := hp
  rintro ⟨ticket, now⟩
  refine ⟨ticket, rfl, ?_⟩
  exact (handle_within config ticket now peer frame).seq fun response _ =>
    ⟨⟨rfl, fun _ => rfl⟩, fun _ => trivial⟩

end

/-! ## The protocol -/

/-- An answered call of the host. -/
abbrev HostEvent : Type := Event hostInterface

/-- The events of an invocation: looks at the context, and the service call. -/
def InvocationEvents (ticket : ℕ) (invocation : Invocation) (events : List HostEvent) : Prop :=
  ∀ e ∈ events, (∃ ended, e = ⟨.contextErr ticket, ended⟩) ∨
    ∃ outcome, e = ⟨.service ticket invocation, outcome⟩

variable {events : List HostEvent} {ticket : ℕ}

/-- Other calls are not among the events of an invocation. -/
lemma InvocationEvents.notMem {invocation : Invocation}
    (h : InvocationEvents ticket invocation events) {e : HostEvent}
    (hctx : ∀ ended, e ≠ ⟨.contextErr ticket, ended⟩)
    (hsvc : ∀ outcome, e ≠ ⟨.service ticket invocation, outcome⟩) : e ∉ events := by
  intro he
  rcases h e he with ⟨ended, rfl⟩ | ⟨outcome, rfl⟩
  · exact hctx ended rfl
  · exact hsvc outcome rfl

/-- What a request returns after what it found in the cache. -/
def Returned (events : List HostEvent) (ticket : ℕ) (response : ResponseEnvelope) :
    Lookup → Prop
  | .own entry => ∃ stored id, ⟨.complete ticket entry stored, ()⟩ ∈ events ∧
      response = { stored with id := id }
  | .wait entry => (∃ stored id, ⟨.await ticket entry, some stored⟩ ∈ events ∧
      response = { stored with id := id }) ∨ ∃ id, response = lateResponse id
  | .conflict => ∃ id, response = conflictResponse id
  | .full => ∃ id, response = busyResponse id

/-- More events do not change what a request returned. -/
theorem Returned.append {response : ResponseEnvelope}
    {found : Lookup} (h : Returned events ticket response found) (later : List HostEvent) :
    Returned (events ++ later) ticket response found := by
  cases found with
  | own entry =>
    obtain ⟨stored, id, hmem, heq⟩ := h
    exact ⟨stored, id, mem_append_left _ hmem, heq⟩
  | wait entry =>
    rcases h with ⟨stored, id, hmem, heq⟩ | hlate
    · exact .inl ⟨stored, id, mem_append_left _ hmem, heq⟩
    · exact .inr hlate
  | conflict | full => exact h

section

variable [HostLibrary]

/-- The invocation of a request whose frame is accepted. -/
def invocationOf (config : Config) (peer : PeerIdentity) (frame : List UInt8) (now : ℕ) :
    Option Invocation :=
  match decodeEnvelope frame now config.maxRequestDeadline with
  | .error _ => none
  | .ok validated =>
      match decodePayload validated with
      | .error _ => none
      | .ok payload =>
          some ⟨peer, validated.id, validated.operation, validated.idempotencyKey, payload⟩

variable {config : Config} {events : List HostEvent} {now ticket : ℕ} {invocation : Invocation}

lemma invocationOf_eq_some {peer : PeerIdentity} {frame : List UInt8} {i : Invocation} :
    invocationOf config peer frame now = some i ↔
      ∃ validated payload, decodeEnvelope frame now config.maxRequestDeadline = .ok validated ∧
        decodePayload validated = .ok payload ∧
        i = ⟨peer, validated.id, validated.operation, validated.idempotencyKey, payload⟩ := by
  unfold invocationOf
  constructor
  · intro h
    split at h
    · cases h
    · rename_i validated hval
      split at h
      · cases h
      · rename_i payload hpay
        exact ⟨validated, payload, hval, hpay, (Option.some.inj h).symm⟩
  · rintro ⟨validated, payload, hval, hpay, rfl⟩
    rw [hval]
    dsimp only
    rw [hpay]

/-- The events tell that the request started with this invocation and this reading of the
clock. -/
def Started (config : Config) (events : List HostEvent) (ticket : ℕ) (invocation : Invocation)
    (now : ℕ) : Prop :=
  ∃ peer frame, ⟨.enter peer frame, (ticket, now)⟩ ∈ events ∧
    invocationOf config peer frame now = some invocation

/-- More events do not change how a request started. -/
theorem Started.append (h : Started config events ticket invocation now) (later : List HostEvent) :
    Started config (events ++ later) ticket invocation now := by
  obtain ⟨peer, frame, henter, hinv⟩ := h
  exact ⟨peer, frame, mem_append_left _ henter, hinv⟩

/-- A peer may run the operation: guest control needs a qualified one. -/
def Invocation.permitted (invocation : Invocation) : Prop :=
  invocation.operation = .guestControl → invocation.peer.guestControlQualified = true

variable [Sha256Library]

/-- The call may follow the events of its request. -/
def Allowed (config : Config) (events : List HostEvent) : HostCall → Prop
  | .enter _ _ => events = []
  | .resolve _ _ | .contextErr _ => True
  -- one lookup, with the key and digest of the request and its own reading of the clock
  | .lookup ticket key digest now => (∀ k d t r, ⟨.lookup ticket k d t, r⟩ ∉ events) ∧
      (∀ r, ⟨.respond ticket r, ()⟩ ∉ events) ∧
      ∃ invocation, Started config events ticket invocation now ∧
        invocation.idempotencyKey ≠ "" ∧ key = invocation.key ∧ digest = invocation.digest
  | .await ticket entry => ∃ k d t, ⟨.lookup ticket k d t, .wait entry⟩ ∈ events
  -- one service call, before the completion, and with a key only for the maker of the entry
  | .service ticket invocation => (∀ i r, ⟨.service ticket i, r⟩ ∉ events) ∧
      (∀ n r, ⟨.complete ticket n r, ()⟩ ∉ events) ∧ invocation.permitted ∧
      ∃ now, Started config events ticket invocation now ∧ (invocation.idempotencyKey ≠ "" →
        ∃ n, ⟨.lookup ticket invocation.key invocation.digest now, .own n⟩ ∈ events)
  | .complete ticket entry response => (∀ n r, ⟨.complete ticket n r, ()⟩ ∉ events) ∧
      ∃ invocation now, Started config events ticket invocation now ∧
        ⟨.lookup ticket invocation.key invocation.digest now, .own entry⟩ ∈ events ∧
        (response.ok = true → invocation.permitted)
  | .respond ticket response => (∀ r, ⟨.respond ticket r, ()⟩ ∉ events) ∧
      (∀ k d t r, ⟨.lookup ticket k d t, r⟩ ∈ events → Returned events ticket response r) ∧
      ((∀ k d t r, ⟨.lookup ticket k d t, r⟩ ∉ events) → ∀ invocation now,
        Started config events ticket invocation now → response.ok = true → invocation.permitted)

/-- Whether a call is allowed depends only on the events of its request. -/
theorem Allowed.congr {events' : List HostEvent} {c : HostCall} {τ : ℕ}
    (hτ : requests.names c = some τ)
    (h : ∀ ev, requests.session ev = some τ → (ev ∈ events ↔ ev ∈ events')) :
    Allowed config events c ↔ Allowed config events' c := by
  have henter : ∀ peer frame now,
      ⟨.enter peer frame, (τ, now)⟩ ∈ events ↔ ⟨.enter peer frame, (τ, now)⟩ ∈ events' :=
    fun _ _ _ => h _ rfl
  have hget : ∀ k d t r,
      ⟨.lookup τ k d t, r⟩ ∈ events ↔ ⟨.lookup τ k d t, r⟩ ∈ events' := fun _ _ _ _ => h _ rfl
  have hsvc : ∀ i r, ⟨.service τ i, r⟩ ∈ events ↔ ⟨.service τ i, r⟩ ∈ events' :=
    fun _ _ => h _ rfl
  have hcomp : ∀ n r, ⟨.complete τ n r, ()⟩ ∈ events ↔ ⟨.complete τ n r, ()⟩ ∈ events' :=
    fun _ _ => h _ rfl
  have hresp : ∀ r, ⟨.respond τ r, ()⟩ ∈ events ↔ ⟨.respond τ r, ()⟩ ∈ events' :=
    fun _ => h _ rfl
  have hawait : ∀ n r, ⟨.await τ n, r⟩ ∈ events ↔ ⟨.await τ n, r⟩ ∈ events' := fun _ _ => h _ rfl
  have hret : ∀ response r, Returned events τ response r ↔ Returned events' τ response r := by
    intro response r
    cases r <;> simp only [Returned, hcomp, hawait]
  cases c with
  | enter peer frame => cases hτ
  | resolve ticket peer | contextErr ticket => exact Iff.rfl
  | lookup ticket key digest now | await ticket entry | service ticket invocation
  | complete ticket entry response | respond ticket response =>
    obtain rfl : ticket = τ := Option.some.inj hτ
    simp only [Allowed, Started, henter, hget, hsvc, hcomp, hresp, hret]

section Invocation

variable (hstd : Started config events ticket invocation now)
  (hsvc : ∀ i r, ⟨.service ticket i, r⟩ ∉ events)
  (hcomp : ∀ n r, ⟨.complete ticket n r, ()⟩ ∉ events)
  (hown : invocation.idempotencyKey ≠ "" →
    ∃ n, ⟨.lookup ticket invocation.key invocation.digest now, .own n⟩ ∈ events)
include hstd hsvc hcomp hown

/-- The service call of an invocation keeps to the protocol, and has a result only when it is
permitted. -/
lemma callService_protocol :
    (callService ticket invocation).wp (historyContract (Allowed config))
      (fun r evs' => ∃ outcome new, r = .ok outcome ∧ evs' = events ++ new ∧
        InvocationEvents ticket invocation new ∧
        ((∃ encoded, outcome = .result encoded) → invocation.permitted)) events := by
  unfold callService
  split
  · refine ⟨_, [], rfl, by simp, by simp [InvocationEvents], ?_⟩
    rintro ⟨encoded, hres⟩
    cases hres
  · rename_i hperm
    have hperm : invocation.permitted := fun hguest => by
      by_contra hqual
      exact hperm ⟨hguest, by simpa using hqual⟩
    refine ⟨⟨hsvc, hcomp, hperm, now, hstd, hown⟩, ?_⟩
    rintro outcome _ rfl
    refine ⟨outcome, [⟨.service ticket invocation, outcome⟩], rfl, rfl, ?_, fun _ => hperm⟩
    simp [InvocationEvents]

/-- An invocation keeps to the protocol, and succeeds only when it is permitted. -/
lemma invoke_protocol :
    (invoke ticket invocation).wp (historyContract (Allowed config))
      (fun r evs' => ∃ response new, r = .ok response ∧ evs' = events ++ new ∧
        InvocationEvents ticket invocation new ∧
        (response.ok = true → invocation.permitted)) events := by
  refine wp_history trivial fun ended => ?_
  cases ended with
  | true =>
    refine ⟨_, [⟨.contextErr ticket, true⟩], rfl, rfl, ?_, fun hok => by cases hok⟩
    simp [InvocationEvents]
  | false =>
    refine (wp_bind _ _ _).2 (wp_mono (callService_protocol (hstd.append _)
      (by simpa using hsvc) (by simpa using hcomp) fun hkey => ?_) ?_)
    · obtain ⟨n, hn⟩ := hown hkey
      exact ⟨n, mem_append_left _ hn⟩
    · rintro _ _ ⟨outcome, new, rfl, rfl, hnew, hperm⟩
      have hlat : ∀ later, InvocationEvents ticket invocation later → InvocationEvents ticket
          invocation (⟨.contextErr ticket, false⟩ :: (new ++ later)) := by
        intro later hlat e he
        rcases mem_cons.1 he with rfl | he
        · exact .inl ⟨false, rfl⟩
        · rcases mem_append.1 he with he | he
          · exact hnew e he
          · exact hlat e he
      have hlook : ∀ ended, InvocationEvents ticket invocation [⟨.contextErr ticket, ended⟩] :=
        fun ended => by simp [InvocationEvents]
      cases outcome with
      | panic =>
        exact ⟨_, _, rfl, by simp, hlat [] (by simp [InvocationEvents]),
          fun hok => by cases hok⟩
      | failure failure =>
        refine wp_history trivial fun ended => ?_
        cases ended with
        | true =>
          exact ⟨_, _, rfl, by simp, hlat _ (hlook true), fun hok => by cases hok⟩
        | false =>
          refine ⟨_, _, rfl, by simp, hlat _ (hlook false), fun hok => ?_⟩
          cases failure <;> cases hok
      | result encoded =>
        have hmay := hperm ⟨encoded, rfl⟩
        refine wp_history trivial fun ended => ?_
        cases ended with
        | true => exact ⟨_, _, rfl, by simp, hlat _ (hlook true), fun _ => hmay⟩
        | false =>
          cases encoded with
          | none | some res => exact ⟨_, _, rfl, by simp, hlat _ (hlook false), fun _ => hmay⟩

end Invocation

variable {response : ResponseEnvelope}

/-- Answering a request that has not looked into the cache. -/
lemma respond_protocol (hresp : ∀ r, ⟨.respond ticket r, ()⟩ ∉ events)
    (hget : ∀ k d t r, ⟨.lookup ticket k d t, r⟩ ∉ events)
    (hok : ∀ invocation now, Started config events ticket invocation now → response.ok = true →
      invocation.permitted) :
    (request (.respond ticket response)).wp (historyContract (Allowed config))
      (fun _ _ => True) events :=
  ⟨⟨hresp, fun k d t r h => absurd h (hget k d t r), fun _ => hok⟩, fun _ _ _ => trivial⟩

/-- A request that runs through the cache keeps to the protocol and may return its response. -/
lemma throughCache_protocol (hstd : Started config events ticket invocation now)
    (hkey : invocation.idempotencyKey ≠ "")
    (hfresh : ∀ e ∈ events, (∃ peer frame r, e = ⟨.enter peer frame, r⟩) ∨
      ∃ peer r, e = ⟨.resolve ticket peer, r⟩) :
    (throughCache ticket now invocation).wp (historyContract (Allowed config))
      (fun r evs' => ∃ response, r = .ok response ∧
        Allowed config evs' (.respond ticket response)) events := by
  have hno : ∀ e : HostEvent, (∀ peer frame r, e ≠ ⟨.enter peer frame, r⟩) →
      (∀ peer r, e ≠ ⟨.resolve ticket peer, r⟩) → e ∉ events := by
    intro e henter hrsv he
    rcases hfresh e he with ⟨peer, frame, r, rfl⟩ | ⟨peer, r, rfl⟩
    · exact henter peer frame r rfl
    · exact hrsv peer r rfl
  have hget : ∀ k d t r, ⟨.lookup ticket k d t, r⟩ ∉ events :=
    fun k d t r => hno _ (by simp) (by simp)
  have hresp : ∀ r, ⟨.respond ticket r, ()⟩ ∉ events := fun r => hno _ (by simp) (by simp)
  have hcomp : ∀ n r, ⟨.complete ticket n r, ()⟩ ∉ events :=
    fun n r => hno _ (by simp) (by simp)
  have hsvc : ∀ i r, ⟨.service ticket i, r⟩ ∉ events := fun i r => hno _ (by simp) (by simp)
  have hend : ∀ (found : Lookup) (later : List HostEvent) (response : ResponseEnvelope),
      (∀ r, ⟨.respond ticket r, ()⟩ ∉ later) → (∀ k d t r, ⟨.lookup ticket k d t, r⟩ ∉ later) →
      Returned (events ++ ⟨.lookup ticket invocation.key invocation.digest now, found⟩ :: later)
        ticket response found →
      Allowed config
        (events ++ ⟨.lookup ticket invocation.key invocation.digest now, found⟩ :: later)
        (.respond ticket response) := by
    intro found later response hresp' hget' hret
    refine ⟨by simp [hresp, hresp'], fun k d t r h => ?_, fun hnone => ?_⟩
    · have hsame : r = found := by
        revert h
        simp [hget, hget']
      rwa [hsame]
    · exact absurd (by simp) (hnone invocation.key invocation.digest now found)
  refine wp_history ⟨hget, hresp, invocation, hstd, hkey, rfl, rfl⟩ fun found => ?_
  cases found with
  | conflict => exact ⟨_, rfl, hend .conflict [] _ (by simp) (by simp) ⟨_, rfl⟩⟩
  | full => exact ⟨_, rfl, hend .full [] _ (by simp) (by simp) ⟨_, rfl⟩⟩
  | wait entry =>
    refine wp_history ⟨invocation.key, invocation.digest, now, by simp⟩ fun response => ?_
    rw [append_assoc]
    cases response with
    | none => exact ⟨_, rfl, hend (.wait entry) _ _ (by simp) (by simp) (.inr ⟨_, rfl⟩)⟩
    | some response =>
      exact ⟨_, rfl, hend (.wait entry) _ _ (by simp) (by simp)
        (.inl ⟨response, _, by simp, rfl⟩)⟩
  | own entry =>
    refine (wp_bind _ _ _).2 (wp_mono (invoke_protocol (hstd.append _)
      (by simpa using hsvc) (by simpa using hcomp) fun _ => ⟨entry, by simp⟩) ?_)
    rintro _ _ ⟨response, new, rfl, rfl, hnew, hok⟩
    have hcomp' : ∀ n r, ⟨.complete ticket n r, ()⟩ ∉ new :=
      fun n r => hnew.notMem (by simp) (by simp)
    have hresp' : ∀ r, ⟨.respond ticket r, ()⟩ ∉ new := fun r => hnew.notMem (by simp) (by simp)
    have hget' : ∀ k d t r, ⟨.lookup ticket k d t, r⟩ ∉ new :=
      fun k d t r => hnew.notMem (by simp) (by simp)
    refine wp_history ⟨?_, invocation, now, (hstd.append _).append _, by simp, hok⟩ fun _ => ?_
    · simp [hcomp, hcomp']
    · rw [append_assoc, append_assoc]
      refine ⟨_, rfl, hend (.own entry) _ _ ?_ ?_ ⟨response, _, by simp, rfl⟩⟩
      · simp [hresp']
      · simp [hget']

/-- A request keeps to the protocol. -/
theorem serve_protocol (config : Config) (p : HostService Unit) (hp : IsCall config p) :
    p.wp (historyContract (Allowed config)) (fun _ _ => True) [] := by
  obtain ⟨peer, frame, rfl⟩ := hp
  refine wp_history rfl fun ⟨ticket, now⟩ => ?_
  have hfail : ∀ {events : List HostEvent} {response : ResponseEnvelope},
      (∀ r, ⟨.respond ticket r, ()⟩ ∉ events) → (∀ k d t r, ⟨.lookup ticket k d t, r⟩ ∉ events) →
      response.ok = false → (request (.respond ticket response)).wp
        (historyContract (Allowed config)) (fun _ _ => True) events := by
    intro events response hresp hget hok
    exact respond_protocol hresp hget fun _ _ _ htrue => by simp [hok] at htrue
  dsimp only
  unfold handle
  split
  · exact hfail (by simp) (by simp) rfl
  · rename_i validated hval
    refine (wp_bind _ _ _).2 (wp_history trivial fun failure => ?_)
    cases failure with
    | some failure =>
      refine hfail (by simp) (by simp) ?_
      cases failure <;> rfl
    | none =>
      dsimp only
      split
      · exact hfail (by simp) (by simp) rfl
      · rename_i payload hpay
        have hinv : invocationOf config peer frame now = some ⟨peer, validated.id,
            validated.operation, validated.idempotencyKey, payload⟩ := by
          simp [invocationOf, hval, hpay]
        have hstd : Started config
            [⟨.enter peer frame, (ticket, now)⟩, ⟨.resolve ticket peer, none⟩] ticket _ now :=
          ⟨peer, frame, by simp, hinv⟩
        split
        · rename_i hkey
          refine wp_mono (invoke_protocol hstd (by simp) (by simp) (by simp [hkey])) ?_
          rintro _ _ ⟨response, new, rfl, rfl, hnew, hok⟩
          refine respond_protocol ?_ ?_ ?_
          · simp [hnew.notMem]
          · simp [hnew.notMem]
          · rintro invocation now' ⟨peer', frame', henter, hinv'⟩ htrue
            have henter' : (peer' = peer ∧ frame' = frame) ∧ now' = now := by
              simpa [hnew.notMem] using henter
            obtain ⟨⟨rfl, rfl⟩, rfl⟩ := henter'
            rw [hinv, Option.some.injEq] at hinv'
            rw [← hinv']
            exact hok htrue
        · rename_i hkey
          refine wp_mono (throughCache_protocol hstd hkey (by simp)) ?_
          rintro _ _ ⟨response, rfl, hall⟩
          exact ⟨hall, fun _ _ _ => trivial⟩

end

end GrokDesktop.VmHost
