import GrokDesktop.Lib.Session
import GrokDesktop.VmHost.Envelope

/-!
# Handling a request

`handle` checks a frame, resolves the tenant's service, and runs a request that carries an
idempotency key through a cache: the first call under a key invokes the service and stores its
response, and later calls under that key get the stored response, or wait for it.

The clock of the host, the resolver, the service and the end of a request's context are the
environment. The cache is the shared state; its lock makes one lookup and one completion a step.
-/

namespace GrokDesktop.VmHost

open Resumption Resumption.Program

/-! ## The cache -/

/-- An entry of the cache. It is done when it has a response. -/
structure IdempotencyEntry where
  digest : Digest
  created : ℕ
  response : Option ResponseEnvelope

/-- The configuration that a request depends on. -/
structure Config where
  maxRequestDeadline : ℕ
  maxEntries : ℕ
  ttl : ℕ

/-- The state of the host: the last reading of its clock, the number of calls so far, every entry
that was made, and the entries that are found under a key. A call that waits keeps its entry after
the cache has dropped it. -/
structure HostState where
  clock : ℕ
  calls : ℕ
  heap : List IdempotencyEntry
  entries : Table String ℕ

/-- What a call finds in the cache. -/
inductive Lookup where
  /-- The key was used for another request. -/
  | conflict
  /-- Another call has the entry. -/
  | wait (entry : ℕ)
  /-- The cache is full. -/
  | full
  /-- The call has made the entry and is to invoke the service. -/
  | own (entry : ℕ)
  deriving DecidableEq

namespace HostState

variable (s : HostState)

/-- The entry with the given number is done and has lived for the time to live. -/
def expired (ttl now entry : ℕ) : Bool :=
  match s.heap[entry]? with
  | some e => e.response.isSome && e.created + ttl ≤ now
  | none => false

def pruneLocked (ttl now : ℕ) : HostState :=
  { s with entries := s.entries.keep fun _ entry => !s.expired ttl now entry }

/-- Pruning keeps the entries that have not expired. -/
theorem lookup_pruneLocked {s : HostState} {ttl now n : ℕ} {key : String} :
    (s.pruneLocked ttl now).entries.lookup key = some n ↔
      s.entries.lookup key = some n ∧ s.expired ttl now n = false := by
  simp [pruneLocked, Table.lookup_keep_eq_some]

/-- The oldest done entry so far, with another entry looked at. -/
def older (oldest : Option (String × ℕ)) (entry : (_ : String) × ℕ) : Option (String × ℕ) :=
  match s.heap[entry.2]? with
  | some e =>
      if e.response.isSome then
        match oldest with
        | some (_, time) => if e.created < time then some (entry.1, e.created) else oldest
        | none => some (entry.1, e.created)
      else oldest
  | none => oldest

/-- The key of the done entry that was made first. -/
def oldestCompleted : Option String :=
  (s.entries.entries.foldl s.older none).map Prod.fst

/-- Makes an entry under a key. -/
def insert (s : HostState) (key : String) (digest : Digest) (now : ℕ) : Lookup × HostState :=
  (.own s.heap.length,
    { s with
      heap := s.heap ++ [⟨digest, now, none⟩]
      entries := s.entries.insert key s.heap.length })

/-- The first locked part of a call: it prunes, and finds an entry or makes one. -/
def lookup (s : HostState) (config : Config) (key : String) (digest : Digest) (now : ℕ) :
    Lookup × HostState :=
  let s := s.pruneLocked config.ttl now
  match (s.entries.lookup key).bind fun entry => (s.heap[entry]?).map fun e => (entry, e) with
  | some (entry, e) => if e.digest ≠ digest then (.conflict, s) else (.wait entry, s)
  | none =>
      if config.maxEntries ≤ s.entries.entries.length then
        match s.oldestCompleted with
        | none => (.full, s)
        | some oldest => { s with entries := s.entries.erase oldest }.insert key digest now
      else s.insert key digest now

/-- What a lookup does: it finds an entry of the key, or the cache is full, or it makes an entry
under the key. An old entry is given up only when the cache is full. -/
theorem lookup_cases {s s' : HostState} {cfg : Config} {key : String} {digest : Digest}
    {now : ℕ} {r : Lookup} (h : s.lookup cfg key digest now = (r, s')) :
    (∃ n e, (s.pruneLocked cfg.ttl now).entries.lookup key = some n ∧ s.heap[n]? = some e ∧
      r = (if e.digest ≠ digest then .conflict else .wait n) ∧
      s' = s.pruneLocked cfg.ttl now) ∨
    (r = .full ∧ s' = s.pruneLocked cfg.ttl now ∧
      cfg.maxEntries ≤ (s.pruneLocked cfg.ttl now).entries.entries.length) ∨
    (r = .own s.heap.length ∧
      (∀ n, (s.pruneLocked cfg.ttl now).entries.lookup key = some n → s.heap[n]? = none) ∧
      ∃ t : HostState, (r, s') = t.insert key digest now ∧
        t.heap = s.heap ∧ t.calls = s.calls ∧ t.clock = s.clock ∧
        (∀ k n, t.entries.lookup k = some n →
          (s.pruneLocked cfg.ttl now).entries.lookup k = some n) ∧
        ((s.pruneLocked cfg.ttl now).entries.entries.length < cfg.maxEntries →
          t = s.pruneLocked cfg.ttl now)) := by
  unfold lookup at h
  dsimp only at h
  split at h
  · rename_i n e hfound
    obtain ⟨m, hm, he⟩ := Option.bind_eq_some_iff.1 hfound
    obtain ⟨e', he', heq⟩ := Option.map_eq_some_iff.1 he
    obtain ⟨rfl, rfl⟩ := Prod.mk.inj heq
    refine .inl ⟨m, e', hm, he', ?_⟩
    split at h <;> obtain ⟨rfl, rfl⟩ := Prod.mk.inj h <;> simp [*]
  · rename_i hnone
    have hdangling : ∀ n, (s.pruneLocked cfg.ttl now).entries.lookup key = some n →
        s.heap[n]? = none := by
      intro n hn
      rw [hn] at hnone
      exact Option.map_eq_none_iff.1 hnone
    split at h
    · rename_i hfull
      split at h
      · obtain ⟨rfl, rfl⟩ := Prod.mk.inj h
        exact .inr (.inl ⟨rfl, rfl, hfull⟩)
      · refine .inr (.inr ⟨(congrArg Prod.fst h).symm, hdangling, _, h.symm, rfl, rfl, rfl, ?_, ?_⟩)
        · intro k n hk
          rename_i oldest _
          by_cases hoe : k = oldest
          · rw [hoe, AList.lookup_erase] at hk
            cases hk
          · rwa [AList.lookup_erase_ne hoe] at hk
        · exact fun hroom => absurd hroom (by omega)
    · refine .inr (.inr ⟨(congrArg Prod.fst h).symm, hdangling, _, h.symm, rfl, rfl, rfl, ?_, ?_⟩)
      · exact fun k n hk => hk
      · exact fun _ => rfl

/-- The second locked part of the call that made an entry. -/
def complete (entry : ℕ) (response : ResponseEnvelope) : HostState :=
  { s with heap := s.heap.modify entry fun e => { e with response := some response } }

/-- The stored response of an entry. -/
def response? (entry : ℕ) : Option ResponseEnvelope :=
  (s.heap[entry]?).bind IdempotencyEntry.response

end HostState

/-! ## Calls -/

/-- What the service is asked to do, and for whom. -/
structure Invocation where
  peer : PeerIdentity
  requestId : String
  operation : Operation
  idempotencyKey : String
  payload : List UInt8

section

variable [HostLibrary] [Sha256Library]

/-- The key under which the response of an invocation is stored. -/
def Invocation.key (invocation : Invocation) : String :=
  cacheKey invocation.peer invocation.operation invocation.idempotencyKey

/-- What tells the requests under one key apart. -/
def Invocation.digest (invocation : Invocation) : Digest :=
  operationDigest invocation.operation invocation.payload

end

/-- How a service method ended. -/
inductive ServiceOutcome where
  /-- With a result; `none` when the result has no encoding. -/
  | result (encoded : Option (List UInt8))
  | failure (failure : ServiceFailure)
  | panic

/-- The calls of the host. All but the first carry the number of the call they belong to. -/
inductive HostCall where
  /-- A call starts: it gets its number and reads the clock. -/
  | enter (peer : PeerIdentity) (frame : List UInt8)
  | resolve (ticket : ℕ) (peer : PeerIdentity)
  /-- Whether the context of the call has ended. -/
  | contextErr (ticket : ℕ)
  | lookup (ticket : ℕ) (key : String) (digest : Digest) (now : ℕ)
  /-- Waits for the response of an entry or for the end of the context. -/
  | await (ticket entry : ℕ)
  | service (ticket : ℕ) (invocation : Invocation)
  | complete (ticket entry : ℕ) (response : ResponseEnvelope)
  /-- The call returns its response to the peer. -/
  | respond (ticket : ℕ) (response : ResponseEnvelope)

namespace HostCall

@[reducible] def Reply : HostCall → Type
  | enter _ _ => ℕ × ℕ
  | resolve _ _ => Option ServiceFailure
  | contextErr _ => Bool
  | lookup _ _ _ _ => Lookup
  | await _ _ => Option ResponseEnvelope
  | service _ _ => ServiceOutcome
  | complete _ _ _ | respond _ _ => Unit

end HostCall

abbrev hostInterface : Interface := ⟨HostCall, HostCall.Reply⟩

/-- The clock does not go back, the cache answers lookups and completions, and a wait ends with
the response of its entry or with the end of the context. -/
def hostSystem (config : Config) : System hostInterface HostState where
  answers s c r s' :=
    match c, r with
    | .enter _ _, (ticket, now) =>
        ticket = s.calls ∧ s.clock ≤ now ∧ s' = { s with calls := s.calls + 1, clock := now }
    | .lookup _ key digest now, r => s.lookup config key digest now = (r, s')
    | .await _ entry, some response => s.response? entry = some response ∧ s' = s
    | .complete _ entry response, _ => s' = s.complete entry response
    | _, _ => s' = s

/-- A function of the host. It always returns. -/
abbrev HostService (α : Type) : Type := Program hostInterface Empty α

/-- Makes a call. -/
def request (c : HostCall) : HostService c.Reply := Program.call c Program.done

/-! ## Handling -/

section

variable [HostLibrary] [Sha256Library]

/-- Calls the service method. Guest control is refused for a peer that is not qualified. -/
def callService (ticket : ℕ) (invocation : Invocation) : HostService ServiceOutcome :=
  if invocation.operation = .guestControl ∧ invocation.peer.guestControlQualified = false then
    return .failure (.service
      ⟨.permissionDenied, "guest control requires a qualified signed desktop process"⟩)
  else request (.service ticket invocation)

def invoke (ticket : ℕ) (invocation : Invocation) : HostService ResponseEnvelope := do
  let id := invocation.requestId
  if ← request (.contextErr ticket) then
    return deadlineExpired id
  else
    let outcome ← callService ticket invocation
    match outcome with
    -- a panic is recovered before the context is looked at again
    | .panic => return protocolErrorResponse id ⟨"internal", "service operation failed", false⟩
    | .failure failure =>
        if ← request (.contextErr ticket) then return deadlineExpired id
        else return errorResponse id failure
    | .result encoded =>
        if ← request (.contextErr ticket) then return deadlineExpired id
        else
          match encoded with
          | none =>
              return protocolErrorResponse id
                ⟨"internal", "service result could not be encoded", false⟩
          | some result => return ⟨envelopeVersion, id, true, result, none⟩

/-- The response to a call whose key was used for another request. -/
def conflictResponse (id : String) : ResponseEnvelope :=
  protocolErrorResponse id
    ⟨"idempotency_conflict", "idempotency key was already used for another request", false⟩

/-- The response to a call that found the cache full. -/
def busyResponse (id : String) : ResponseEnvelope :=
  protocolErrorResponse id ⟨"server_busy", "idempotency capacity is exhausted", true⟩

/-- The response to a call whose context ended before the response it waited for. -/
def lateResponse (id : String) : ResponseEnvelope :=
  protocolErrorResponse id
    ⟨"deadline_exceeded", "request ended while waiting for its idempotent result", true⟩

/-- Runs a call through the cache. -/
def throughCache (ticket now : ℕ) (invocation : Invocation) : HostService ResponseEnvelope := do
  let id := invocation.requestId
  match ← request (.lookup ticket invocation.key invocation.digest now) with
  | .conflict => return conflictResponse id
  | .full => return busyResponse id
  | .wait entry =>
      match ← request (.await ticket entry) with
      | some response => return { response with id := id }
      | none => return lateResponse id
  | .own entry =>
      let response ← invoke ticket invocation
      request (.complete ticket entry response)
      return { response with id := id }

def handle (config : Config) (ticket now : ℕ) (peer : PeerIdentity) (frame : List UInt8) :
    HostService ResponseEnvelope := do
  match decodeEnvelope frame now config.maxRequestDeadline with
  | .error error => return protocolErrorResponse (bestEffortRequestId frame) error
  | .ok validated =>
      match ← request (.resolve ticket peer) with
      | some failure => return errorResponse validated.id failure
      | none =>
          match decodePayload validated with
          | .error error => return protocolErrorResponse validated.id error
          | .ok payload =>
              let invocation : Invocation :=
                ⟨peer, validated.id, validated.operation, validated.idempotencyKey, payload⟩
              if validated.idempotencyKey = "" then invoke ticket invocation
              else throughCache ticket now invocation

/-- Handles one frame of a connection and writes the response. -/
def serve (config : Config) (peer : PeerIdentity) (frame : List UInt8) : HostService Unit := do
  let (ticket, now) ← request (.enter peer frame)
  let response ← handle config ticket now peer frame
  request (.respond ticket response)

/-- The calls that peers may make. -/
def IsCall (config : Config) (p : HostService Unit) : Prop :=
  ∃ peer frame, p = serve config peer frame

end

/-- The host before its first call. -/
def HostState.empty : HostState := ⟨0, 0, [], ∅⟩

end GrokDesktop.VmHost
