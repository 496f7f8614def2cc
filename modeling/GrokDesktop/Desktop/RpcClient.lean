import GrokDesktop.Lib.Except
import GrokDesktop.Lib.Machine
import Mathlib.Data.Int.Notation

/-!
# The RPC client of the desktop

`DaemonRpcClient` runs on one event loop: what stands between two awaits happens at once, and calls
overlap only where they wait. `request` counts the pending requests before it waits for the
connection and adds its own after that, so all the calls that wait for one connection pass the
check. The bound holds in every run in which a call that passes finds room beside those that wait.
-/

namespace GrokDesktop.Desktop

open Except List

def maxFrameBytes : ℕ := 4 * 1024 * 1024

inductive RpcError where
  | transport (message : String)
  | protocol (message : String)
  deriving DecidableEq

/-- What `ensureConnected` returns: a stream, or the attempt to get one. -/
inductive Connection where
  | stream (stream : ℕ)
  | attempt (attempt : ℕ)
  deriving DecidableEq

/-- A call of `request`: it waits for its connection, has written its frame, or is rejected. -/
inductive RequestCall where
  | waiting (connection : Connection)
  | sent (stream : ℕ) (requestId : String)
  | rejected (error : RpcError)
  deriving DecidableEq

def RequestCall.isWaiting : RequestCall → Bool
  | .waiting _ => true
  | .sent _ _ | .rejected _ => false

/-- A client, with the streams that were destroyed, the attempts to connect with their results, and
its calls. -/
structure RpcClient where
  closed : Bool := false
  stream : Option ℕ := none
  connectPromise : Option ℕ := none
  pending : List String := []
  destroyed : List ℕ := []
  attempts : List (Option (Except RpcError ℕ)) := []
  calls : List RequestCall := []
  deriving DecidableEq

/-- What happens on the event loop. -/
inductive RpcEvent where
  | request (timeoutMs : ℤ)
  | connectorResolves (attempt stream : ℕ)
  /-- The connector rejects, with the message of a transport error or another error. -/
  | connectorRejects (attempt : ℕ) (cause : Option String)
  | connectFinishes
  /-- A call goes on with its connection. -/
  | resumes (call : ℕ) (requestId : String) (payloadBytes : ℕ)
  | responds (requestId : String)
  | timesOut (requestId : String)
  | writeFails (stream : ℕ) (requestId : String)
  /-- A stream fails, closes, or brings what is no response to the client. -/
  | streamFails (stream : ℕ)
  | streamDestroyed (stream : ℕ)
  | close

namespace RpcClient

def ensureConnected (client : RpcClient) : Connection × RpcClient :=
  match client.stream.filter (· ∉ client.destroyed), client.connectPromise with
  | some stream, _ => (.stream stream, client)
  | none, some attempt => (.attempt attempt, client)
  | none, none => (.attempt client.attempts.length, { client with
      attempts := client.attempts ++ [none]
      connectPromise := some client.attempts.length })

variable (maxPendingRequests : ℕ) (client : RpcClient)

/-- `request` up to its first await. -/
def beginRequest (timeoutMs : ℤ) : Except RpcError (Connection × RpcClient) := do
  rejectIf client.closed (.transport "daemon client is closed")
  rejectIf (maxPendingRequests ≤ client.pending.length)
    (.transport "too many pending daemon requests")
  rejectIf (timeoutMs < 1 ∨ 180000 < timeoutMs) (.protocol "invalid daemon request timeout")
  return client.ensureConnected

/-- What a call that waits for a connection gets, once its promise is settled. -/
def connected : Connection → Option (Except RpcError ℕ)
  | .stream stream => some (.ok stream)
  | .attempt attempt =>
      if client.connectPromise = some attempt then none else client.attempts[attempt]?.join

/-- `request` from there to its second await, where it has written its frame. -/
def resumeRequest (call : ℕ) (requestId : String) (payloadBytes : ℕ)
    (connection : Except RpcError ℕ) : RpcClient :=
  let sent := do
    let stream ← connection
    rejectIf (payloadBytes = 0 ∨ maxFrameBytes < payloadBytes)
      (RpcError.protocol "encoded daemon request exceeds the frame limit")
    return stream
  match sent with
  | .error e => { client with calls := client.calls.set call (.rejected e) }
  | .ok stream => { client with
      pending := client.pending.insert requestId
      calls := client.calls.set call (.sent stream requestId) }

def failConnection (stream : ℕ) : RpcClient :=
  if client.stream = some stream then
    { client with stream := none, destroyed := stream :: client.destroyed, pending := [] }
  else client

def close : RpcClient :=
  if client.closed then client
  else
    { client with
      closed := true
      stream := none
      connectPromise := none
      pending := []
      destroyed := client.stream.toList ++ client.destroyed }

/-- One turn of the event loop, if it can happen. -/
def step : RpcEvent → Option RpcClient
  | .request timeoutMs => some <| match client.beginRequest maxPendingRequests timeoutMs with
    | .error e => { client with calls := client.calls ++ [.rejected e] }
    | .ok (connection, next) => { next with calls := client.calls ++ [.waiting connection] }
  | .connectorResolves attempt stream =>
      if client.attempts[attempt]? ≠ some none then none
      else if client.closed then some { client with
        destroyed := stream :: client.destroyed
        attempts := client.attempts.set attempt
          (some (.error (.transport "daemon client closed while connecting"))) }
      else some { client with
        stream := some stream
        attempts := client.attempts.set attempt (some (.ok stream)) }
  | .connectorRejects attempt cause =>
      if client.attempts[attempt]? ≠ some none then none
      else some { client with
        attempts := client.attempts.set attempt
          (some (.error (.transport (cause.getD "could not connect to the daemon")))) }
  | .connectFinishes =>
      if (client.connectPromise.bind fun attempt => client.attempts[attempt]?.join).isSome then
        some { client with connectPromise := none }
      else none
  | .resumes call requestId payloadBytes => match client.calls[call]? with
    | some (.waiting connection) =>
        (client.connected connection).map (client.resumeRequest call requestId payloadBytes)
    | _ => none
  | .responds requestId | .timesOut requestId =>
      some { client with pending := client.pending.erase requestId }
  | .writeFails stream requestId =>
      some (failConnection { client with pending := client.pending.erase requestId } stream)
  | .streamFails stream => some (client.failConnection stream)
  | .streamDestroyed stream => some { client with destroyed := stream :: client.destroyed }
  | .close => some client.close

/-! ## The bound -/

/-- The pending requests and the calls that wait for a connection. -/
def load : ℕ :=
  client.pending.length + client.calls.countP RequestCall.isWaiting

/-- A call that passes the check finds room beside the calls that wait. -/
def findsRoom : RpcEvent → Bool
  | .request timeoutMs => !(client.beginRequest maxPendingRequests timeoutMs).isOk ||
      decide (client.load < maxPendingRequests)
  | _ => true

variable {maxPendingRequests} {client} {next : RpcClient} {event : RpcEvent}

/-- The load is kept by a turn that moves no call and adds nothing. -/
lemma load_le (hcalls : next.calls = client.calls)
    (hpend : next.pending.length ≤ client.pending.length) : next.load ≤ client.load := by
  rw [load, hcalls]
  exact Nat.add_le_add_right hpend _

variable {i : ℕ} {connection : Connection}

lemma awaiting_pos (h : client.calls[i]? = some (.waiting connection)) :
    0 < client.calls.countP RequestCall.isWaiting :=
  countP_pos_iff.2 ⟨_, mem_of_getElem? h, rfl⟩

/-- A call that stops waiting makes room for its own request. -/
lemma load_set {call : RequestCall}
    (h : client.calls[i]? = some (.waiting connection)) (hcall : call.isWaiting = false)
    (hcalls : next.calls = client.calls.set i call)
    (hpend : next.pending.length ≤ client.pending.length + 1) : next.load ≤ client.load := by
  obtain ⟨hlt, hget⟩ := List.getElem?_eq_some_iff.1 h
  have hpos := awaiting_pos h
  rw [load, load, hcalls, countP_set hlt, hget, hcall]
  simp only [RequestCall.isWaiting, if_true, Bool.false_eq_true, if_false]
  omega

/-- A failed connection adds no load. -/
lemma failConnection_load (stream : ℕ) : (client.failConnection stream).load ≤ client.load := by
  unfold failConnection
  split
  · exact load_le rfl (Nat.zero_le _)
  · exact Nat.le_refl _

/-- Only a request that passes the check adds to the load. -/
lemma step_load (h : client.step maxPendingRequests event = some next) :
    next.load ≤ client.load ∨ ∃ timeoutMs, event = .request timeoutMs ∧
      (client.beginRequest maxPendingRequests timeoutMs).isOk = true ∧
        next.load = client.load + 1 := by
  cases event with
  | request timeoutMs =>
    obtain rfl := Option.some.inj h
    cases hbegin : client.beginRequest maxPendingRequests timeoutMs with
    | error e =>
      left
      simp [load, RequestCall.isWaiting]
    | ok res =>
      refine .inr ⟨timeoutMs, rfl, isOk_iff.2 ⟨_, hbegin⟩, ?_⟩
      simp only [beginRequest, bind_eq_ok, return_eq_ok] at hbegin
      obtain ⟨_, -, _, -, _, -, rfl⟩ := hbegin
      have hpend : client.ensureConnected.2.pending = client.pending := by
        unfold ensureConnected
        split <;> rfl
      simp [load, hpend, RequestCall.isWaiting, Nat.add_assoc]
  | resumes call requestId payloadBytes =>
    rw [step] at h
    split at h
    · rename_i connection hcall
      obtain ⟨res, -, rfl⟩ := Option.map_eq_some_iff.1 h
      left
      unfold resumeRequest
      dsimp only
      split
      · exact load_set hcall rfl rfl (Nat.le_succ _)
      · refine load_set hcall rfl rfl ?_
        rw [length_insert]
        split <;> omega
    · cases h
  | writeFails stream requestId =>
    obtain rfl := Option.some.inj h
    exact .inl (Nat.le_trans (failConnection_load stream) (load_le rfl length_erase_le))
  | streamFails stream =>
    obtain rfl := Option.some.inj h
    exact .inl (failConnection_load stream)
  | close =>
    obtain rfl := Option.some.inj h
    left
    unfold close
    split
    · exact Nat.le_refl _
    · exact load_le rfl (Nat.zero_le _)
  | responds requestId | timesOut requestId =>
    obtain rfl := Option.some.inj h
    exact .inl (load_le rfl length_erase_le)
  | connectorResolves attempt stream | connectorRejects attempt cause | connectFinishes
  | streamDestroyed stream =>
    simp only [step] at h
    repeat' split at h
    all_goals cases h
    all_goals exact .inl (Nat.le_refl _)

/-- In every run in which a call that passes the check finds room beside the calls that wait, at
most the allowed number of requests is pending, a call goes on to write its frame only while fewer
are, and a request that comes when there are as many is rejected at once. -/
theorem pending_bounded {maxPendingRequests : ℕ}
    (h : Machine.Reaches (step maxPendingRequests) (findsRoom maxPendingRequests) {} client) :
    client.pending.length ≤ maxPendingRequests ∧
    (∀ call requestId payloadBytes,
      client.step maxPendingRequests (.resumes call requestId payloadBytes) ≠ none →
      client.pending.length < maxPendingRequests) ∧
    ∀ timeoutMs, maxPendingRequests ≤ client.pending.length → ∃ e,
      client.step maxPendingRequests (.request timeoutMs)
        = some { client with calls := client.calls ++ [.rejected e] } := by
  have hload : client.load ≤ maxPendingRequests := by
    refine h.invariant (P := fun client => client.load ≤ maxPendingRequests) (Nat.zero_le _) ?_
    intro client event next hload hroom hstep
    obtain hle | ⟨timeoutMs, rfl, hbegin, heq⟩ := step_load hstep
    · exact Nat.le_trans hle hload
    · have hlt : client.load < maxPendingRequests := by
        simpa [findsRoom, hbegin] using hroom
      rw [heq]
      exact hlt
  refine ⟨Nat.le_trans (Nat.le_add_right _ _) hload, ?_, ?_⟩
  · intro call requestId payloadBytes hstep
    obtain ⟨next, hnext⟩ := Option.ne_none_iff_exists'.1 hstep
    rw [step] at hnext
    split at hnext
    · have hpos := awaiting_pos ‹_›
      unfold load at hload
      omega
    · cases hnext
  · intro timeoutMs hfull
    by_cases hclo : client.closed = true
    · exact ⟨.transport "daemon client is closed", by simp [step, beginRequest, rejectIf, hclo]⟩
    · exact ⟨.transport "too many pending daemon requests", by
        simp [step, beginRequest, rejectIf, hclo, hfull]⟩

/-- Two calls wait for one connection, both become pending, and a third request is refused. -/
theorem pending_bounded_full : ∃ client : RpcClient, client.pending.length = 2 ∧
    client.calls.getLast? = some (.rejected (.transport "too many pending daemon requests")) ∧
    Machine.Reaches (step 2) (findsRoom 2) {} client ∧ client.pending.length ≤ 2 := by
  have h : Machine.Reaches (step 2) (findsRoom 2) {}
      { stream := some 7, pending := ["b", "a"], attempts := [some (.ok 7)]
        calls := [.sent 7 "a", .sent 7 "b",
          .rejected (.transport "too many pending daemon requests")] } :=
    ⟨[.request 1000, .request 1000, .connectorResolves 0 7, .connectFinishes, .resumes 0 "a" 16,
      .resumes 1 "b" 16, .request 1000], by decide⟩
  exact ⟨_, rfl, rfl, h, (pending_bounded h).1⟩

/-- Two calls wait for one connection, and both become pending. -/
theorem pending_not_bounded : ¬ ∀ maxPendingRequests client,
    Machine.Reaches (step maxPendingRequests) (fun _ _ => true) {} client →
      client.pending.length ≤ maxPendingRequests := by
  intro h
  have hpend := h 1
    { stream := some 7, pending := ["b", "a"], attempts := [some (.ok 7)]
      calls := [.sent 7 "a", .sent 7 "b"] }
    ⟨[.request 1000, .request 1000, .connectorResolves 0 7, .connectFinishes, .resumes 0 "a" 16,
      .resumes 1 "b" 16], by decide⟩
  exact absurd hpend (by decide)

end RpcClient

end GrokDesktop.Desktop
