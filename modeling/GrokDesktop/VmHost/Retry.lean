import GrokDesktop.Lib.Rely
import GrokDesktop.VmHost.Runs

/-!
# Repeating a request after a retryable error

A response tells its peer whether the error may be retried. The cache, however, stores every
response of the request that made an entry, retryable errors included. A repeated request reaches
the service only when the cache holds no live entry for its key, and can hold one more.
-/

namespace GrokDesktop.VmHost

open Resumption Resumption.Program

/-! ## Which lookups make an entry -/

namespace HostState

/-- The cache gives a new entry to a key: it has no live entry for it, and it has room or a done
entry that it can give up. -/
def Admits (s : HostState) (config : Config) (key : String) (now : ℕ) : Prop :=
  (∀ n, s.entries.lookup key = some n → s.expired config.ttl now n = true) ∧
    ((s.pruneLocked config.ttl now).entries.entries.length < config.maxEntries ∨
      ∃ k n, (s.pruneLocked config.ttl now).entries.lookup k = some n ∧ (s.response? n).isSome)

variable {s : HostState}

/-- An entry that is looked at makes an oldest done entry when it is done. -/
lemma isSome_older {oldest : Option (String × ℕ)} {entry : (_ : String) × ℕ} :
    (s.older oldest entry).isSome ↔ oldest.isSome ∨ (s.response? entry.2).isSome := by
  unfold older response?
  cases s.heap[entry.2]? with
  | none => simp
  | some e =>
    cases hr : e.response with
    | none => simp [hr]
    | some resp =>
      cases oldest with
      | none => simp [hr]
      | some oldest =>
        simp only [hr, Option.isSome_some, if_true, true_or, iff_true]
        split <;> rfl

/-- There is an oldest done entry when there is a done entry. -/
lemma isSome_oldestCompleted :
    s.oldestCompleted.isSome ↔ ∃ k n, s.entries.lookup k = some n ∧ (s.response? n).isSome := by
  have hfold : ∀ (l : List ((_ : String) × ℕ)) (oldest : Option (String × ℕ)),
      (l.foldl s.older oldest).isSome ↔
        oldest.isSome ∨ ∃ entry ∈ l, (s.response? entry.2).isSome := by
    intro l
    induction l with
    | nil => simp
    | cons entry l ih =>
      intro oldest
      rw [List.foldl_cons, ih, isSome_older]
      simp [or_assoc]
  rw [oldestCompleted, Option.isSome_map, hfold]
  constructor
  · rintro (h | ⟨⟨k, n⟩, hmem, hdone⟩)
    · cases h
    · exact ⟨k, n, AList.mem_lookup_iff.2 hmem, hdone⟩
  · rintro ⟨k, n, hk, hdone⟩
    exact .inr ⟨⟨k, n⟩, AList.mem_lookup_iff.1 hk, hdone⟩

/-- When no entry dangles, a lookup makes an entry if and only if the cache admits the key. -/
lemma lookup_own_iff {config : Config} {key : String} {digest : Digest} {now : ℕ}
    (hheap : ∀ k n, s.entries.lookup k = some n → n < s.heap.length) :
    (∃ n, (s.lookup config key digest now).1 = .own n) ↔ s.Admits config key now := by
  unfold lookup Admits
  dsimp only
  split
  · rename_i n e hfound
    obtain ⟨m, hm, -⟩ := Option.bind_eq_some_iff.1 hfound
    obtain ⟨hk, hlive⟩ := lookup_pruneLocked.1 hm
    constructor
    · rintro ⟨n, hown⟩
      split at hown <;> cases hown
    · rintro ⟨hexp, -⟩
      rw [hexp m hk] at hlive
      cases hlive
  · rename_i hnone
    have hexp : ∀ n, s.entries.lookup key = some n → s.expired config.ttl now n = true := by
      intro n hn
      by_contra hlive
      have hm : (s.pruneLocked config.ttl now).entries.lookup key = some n :=
        lookup_pruneLocked.2 ⟨hn, by simpa using hlive⟩
      rw [hm, Option.bind_some, Option.map_eq_none_iff, List.getElem?_eq_none_iff] at hnone
      exact absurd (hheap key n hn) (Nat.not_lt.2 hnone)
    rw [and_iff_right hexp]
    have hdone := isSome_oldestCompleted (s := s.pruneLocked config.ttl now)
    simp only [response?_pruneLocked] at hdone
    split
    · rename_i hfull
      rw [← hdone, or_iff_right (Nat.not_lt.2 hfull)]
      cases (s.pruneLocked config.ttl now).oldestCompleted with
      | none => simp
      | some oldest => simp [insert]
    · rename_i hroom
      exact iff_of_true ⟨_, rfl⟩ (.inl (Nat.not_le.1 hroom))

end HostState

/-! ## Repeated requests -/

/-- The service was called. -/
def isService (e : HostEvent) : Bool :=
  match e.1 with
  | .service _ _ => true
  | _ => false

section

variable [HostLibrary]

/-- The frames ask for the same but for their ids and deadlines. -/
def SameRequest (frame frame' : List UInt8) : Prop :=
  ∃ request id deadline, HostLibrary.parseEnvelope frame = .ok request ∧
    HostLibrary.parseEnvelope frame' = .ok { request with id := id, deadline := deadline }

variable {config : Config} {now : ℕ} {result : List UInt8} {s : HostState} {i : Invocation}

/-- A permitted invocation that runs alone calls the service. -/
lemma any_isService_invoke {τ : ℕ} (hperm : i.permitted) {α : Type}
    (f : ResponseEnvelope → HostService α) :
    (((invoke τ i).bind f).runEvents (alone config now false result) s).any isService = true := by
  have hcall : callService τ i = request (.service τ i) := by
    unfold callService
    rw [if_neg]
    rintro ⟨hguest, hqual⟩
    rw [hperm hguest] at hqual
    cases hqual
  unfold invoke
  rw [hcall]
  rfl

variable [Sha256Library]

/-- A request that runs alone through the cache reaches the service if and only if its lookup makes
an entry. -/
lemma any_isService_throughCache {τ : ℕ} (hperm : i.permitted) :
    (((throughCache τ now i).bind fun resp => request (.respond τ resp)).runEvents
      (alone config now false result) s).any isService = true ↔
    ∃ n, (s.lookup config i.key i.digest now).1 = .own n := by
  simp only [throughCache, request, bind_eq, call_bind, runEvents, alone]
  generalize s.lookup config i.key i.digest now = answer
  obtain ⟨found, s'⟩ := answer
  cases found with
  | conflict | full => simp [isService, runEvents]
  | wait entry =>
    cases hr : s'.response? entry <;> simp [isService, runEvents, alone, hr]
  | own entry =>
    simp [bind_assoc, any_isService_invoke hperm]

/-- A request that was answered with a retryable error is repeated with a fresh deadline, and the
peer may run the operation. -/
structure Repeated (config : Config) (P : Pool hostInterface HostState Empty) (now : ℕ)
    (peer : PeerIdentity) (frame : List UInt8) (i : Invocation) : Prop where
  run : HostRun config P
  answered : ∃ peer' frame' τ time r error, Occurs P.trace ⟨.enter peer' frame', (τ, time)⟩ ∧
    Occurs P.trace ⟨.respond τ r, ()⟩ ∧ r.error = some error ∧ error.retryable = true ∧
    SamePrincipalKey peer' peer ∧ SameRequest frame' frame
  later : P.state.clock ≤ now
  accepted : invocationOf config peer frame now = some i
  permitted : i.permitted

/-- The request reaches the service when it runs alone and the service succeeds. -/
def Reaches (config : Config) (s : HostState) (now : ℕ) (result : List UInt8)
    (peer : PeerIdentity) (frame : List UInt8) : Prop :=
  ((serve config peer frame).runEvents (alone config now false result) s).any isService = true

/-- The events of an accepted request that runs alone. -/
lemma runEvents_serve {peer : PeerIdentity} {frame : List UInt8} (hnow : s.clock ≤ now)
    (hi : invocationOf config peer frame now = some i) :
    (serve config peer frame).runEvents (alone config now false result) s =
      ⟨.enter peer frame, (s.calls, now)⟩ :: ⟨.resolve s.calls peer, none⟩ ::
        ((if i.idempotencyKey = "" then invoke s.calls i else throughCache s.calls now i).bind
          fun resp => request (.respond s.calls resp)).runEvents
            (alone config now false result) { s with calls := s.calls + 1, clock := now } := by
  obtain ⟨validated, payload, hval, hpayl, rfl⟩ := invocationOf_eq_some.1 hi
  have hserve : (serve config peer frame).runEvents (alone config now false result) s =
      ⟨.enter peer frame, (s.calls, max s.clock now)⟩ ::
        ((handle config s.calls (max s.clock now) peer frame).bind fun resp =>
          request (.respond s.calls resp)).runEvents (alone config now false result)
            { s with calls := s.calls + 1, clock := max s.clock now } := rfl
  rw [hserve, max_eq_right hnow]
  unfold handle
  rw [hval]
  dsimp only
  rw [hpayl]
  rfl

/-- A repeated request reaches the service if and only if it has no idempotency key, or the cache
has no live entry for its key and can hold one more. -/
theorem retry_reaches_service_iff {config : Config} {P : Pool hostInterface HostState Empty}
    {now : ℕ} {peer : PeerIdentity} {frame : List UInt8} {i : Invocation}
    (h : Repeated config P now peer frame i) (result : List UInt8) :
    Reaches config P.state now result peer frame ↔
      i.idempotencyKey = "" ∨ P.state.Admits config i.key now := by
  have hheap : ∀ k n, P.state.entries.lookup k = some n → n < P.state.heap.length := by
    intro k n hk
    obtain ⟨τ, d, c, hocc⟩ := h.run.recorded_state.found k n hk
    obtain ⟨e, he, -⟩ := h.run.recorded_state.made τ k d c n hocc
    exact (List.getElem?_eq_some_iff.1 he).1
  unfold Reaches
  rw [runEvents_serve h.later h.accepted]
  by_cases hkey : i.idempotencyKey = ""
  · rw [if_pos hkey]
    exact iff_of_true (any_isService_invoke h.permitted _) (.inl hkey)
  · rw [if_neg hkey, or_iff_right hkey]
    exact (any_isService_throughCache h.permitted).trans (HostState.lookup_own_iff hheap)

end

namespace ExpiredOwner

def frame : List UInt8 := [123, 125]

local instance hostLibrary : HostLibrary := oneFrame frame
  ⟨envelopeVersion, "expired-request", "stop_vm", "", "expired-idempotency-key", [123]⟩

/-- A digest of no interest. -/
local instance sha256 : Sha256Library := ⟨fun _ => 0⟩

def config : Config := ⟨2000, 4, 500⟩

def peer : PeerIdentity := ⟨"expired-user", 1, 2, 2, 3, 4, true, false, .windowsNamedPipe⟩

def invocation : Invocation :=
  ⟨peer, "expired-request", .stopVm, "expired-idempotency-key", [123]⟩

/-- A request whose context has ended before it could call the service. -/
def pool : Pool hostInterface HostState Empty :=
  [0, 0, 0, 0, 0, 0].foldl (Pool.advance (alone config 0 true []))
    ((Pool.idle HostState.empty).start (serve config peer frame))

lemma hostRun_pool : HostRun config pool := by
  have hidle : Pool.Reachable (hostSystem config) (IsCall config) HostState.empty
      (Pool.idle HostState.empty) := .refl
  exact (hidle.start ⟨peer, frame, rfl⟩).advance (alone_answers _ _ _ _) _

/-- The request is repeated before its deadline. -/
theorem repeated (now : ℕ) (hnow : now < 1000) :
    Repeated config pool now peer frame invocation where
  run := hostRun_pool
  answered := by
    refine ⟨peer, frame, 0, 0, deadlineExpired "expired-request", _, ?_, ?_, rfl, rfl, ?_, ?_⟩
    · exact List.mem_map.2 ⟨pool.trace[0], List.getElem_mem _, rfl⟩
    · exact List.mem_map.2 ⟨pool.trace[5], List.getElem_mem _, rfl⟩
    · exact ⟨rfl, rfl, rfl, rfl, rfl, rfl, rfl, rfl, rfl⟩
    · exact ⟨_, _, _, rfl, rfl⟩
  later := Nat.zero_le now
  accepted := by
    refine invocationOf_eq_some.2
      ⟨⟨"expired-request", .stopVm, "expired-idempotency-key", [123], 1000⟩, [123], ?_, rfl, rfl⟩
    exact decodeEnvelope_eq_ok.2 ⟨_, rfl, rfl, by decide +kernel, .stopVm, by decide +kernel, rfl,
      1000, rfl, hnow, by simp [config], fun _ => by decide +kernel, by simp, rfl⟩
  permitted := by simp [Invocation.permitted, invocation]

/-- Repeated at once, the request is answered with the stored error. -/
theorem not_reaches_at_once :
    Repeated config pool 0 peer frame invocation ∧ ¬ Reaches config pool.state 0 [] peer frame := by
  refine ⟨repeated 0 (by decide), ?_⟩
  unfold Reaches
  decide +kernel

/-- Repeated after the time to live, the request reaches the service. -/
theorem reaches_after_ttl :
    Repeated config pool 600 peer frame invocation ∧
      Reaches config pool.state 600 [] peer frame := by
  refine ⟨repeated 600 (by decide), ?_⟩
  refine (retry_reaches_service_iff (repeated 600 (by decide)) []).2 (.inr ⟨fun n hn => ?_, ?_⟩)
  · have hentry : pool.state.entries.lookup invocation.key = some 0 := by decide +kernel
    obtain rfl := Option.mem_unique hn hentry
    decide +kernel
  · left
    decide +kernel

end ExpiredOwner

end GrokDesktop.VmHost
