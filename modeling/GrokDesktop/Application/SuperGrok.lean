import GrokDesktop.Application.Errors
import GrokDesktop.Lib.Json.Write
import Mathlib.Data.List.Count
import Mathlib.Data.List.Nodup

/-!
# The SuperGrok grant

The daemon keeps one OAuth grant in its vault. An enrollment stores a grant, a refresh replaces it
and a disconnect deletes it; each of them holds the write side of the credential gate, so they
happen one after the other. A grant carries a generation, by which a credential that was read
earlier is told from the one that is stored now and which names the grant in the binding of a turn.
-/

namespace GrokDesktop.SuperGrok

open List

open Except (bind_eq_ok okOr okOr_eq_ok rejectIf rejectIf_eq_ok return_eq_ok)
open JsonText (object member quoted)

def tokenFormatVersion : ℕ := 1
def maxTokenBytes : ℕ := 16 * 1024
def maxScopeBytes : ℕ := 1024
def maxScopeCount : ℕ := 16
def maxIndividualScopeBytes : ℕ := 128

/-- A token grant returned by the OAuth adapter. -/
structure OAuthTokenGrant where
  accessToken : String
  refreshToken : String
  expiresAtMs : ℤ
  scopes : List String

/-- The grant as the vault has it. -/
structure StoredToken extends OAuthTokenGrant where
  version : ℕ
  generation : ℕ

/-- Failures of the OAuth provider. -/
inductive OAuthFailure where
  | pending
  | slowDown
  | denied
  | expired
  | cancelled
  | unauthorized
  | unavailable
  | invalidResponse

/-- Failures of the vault. -/
inductive VaultError where
  | notFound
  | unavailable
  | invalidName
  | invalidValue
  | internal

def mapVault : VaultError → ApplicationError
  | .notFound => .notFound
  | .unavailable => .unavailable "secure vault unavailable"
  | .invalidName | .invalidValue | .internal => .storage "secure vault operation failed"

def mapOauth : OAuthFailure → ApplicationError
  | .cancelled => .cancelled
  | .expired => .deadlineExceeded
  | .denied | .unauthorized => .unauthorized "SuperGrok authorization rejected"
  | .invalidResponse => .integrity "OAuth provider returned an invalid response"
  | .unavailable => .unavailable "OAuth provider unavailable"
  | .pending | .slowDown => .invalidState "OAuth authorization is still pending"

/-- The errors of the vault calls of one request, by their place in it. -/
abbrev Faults : Type := ℕ → Option VaultError

def vaultReply (fault : Option VaultError) : Except ApplicationError Unit :=
  match fault with
  | some error => .error (mapVault error)
  | none => .ok ()

/-! ## Stored grants -/

def validToken (token : String) : Bool :=
  !token.isEmpty && token.utf8ByteSize ≤ maxTokenBytes &&
    token.toList.all fun c => '!' ≤ c && c ≤ '~'

def validScope (scope : String) : Bool :=
  !scope.isEmpty && scope.utf8ByteSize ≤ maxIndividualScopeBytes &&
    scope.toList.all fun c => isAsciiAlphanumeric c || c ∈ [':', '.', '_', '-']

def validScopes (scopes : List String) : Bool :=
  !scopes.isEmpty && scopes.length ≤ maxScopeCount &&
    (scopes.map String.utf8ByteSize).sum ≤ maxScopeBytes && scopes.all validScope &&
    "api:access" ∈ scopes

variable (grant : OAuthTokenGrant)

/-- The checks that `validate_grant` and `validate_stored` share: the grant lasts beyond `limit`. -/
def OAuthTokenGrant.valid (limit : ℤ) : Bool :=
  validToken grant.accessToken && validToken grant.refreshToken && limit < grant.expiresAtMs &&
    validScopes grant.scopes

def validateGrant (nowMs : ℤ) : Except ApplicationError Unit :=
  rejectIf (¬ grant.valid nowMs) (.integrity "OAuth provider returned an invalid token grant")

variable (token : StoredToken)

def validateStored : Except ApplicationError Unit :=
  rejectIf (¬ token.valid 0) (.integrity "OAuth credential is invalid")

/-- The JSON text that is put into the vault. -/
def StoredToken.json : String :=
  object [member "version" (toString token.version),
    member "access_token" (quoted token.accessToken),
    member "refresh_token" (quoted token.refreshToken),
    member "expires_at_ms" (toString token.expiresAtMs),
    member "scopes" (JsonText.list (token.scopes.map quoted)),
    member "generation" (toString token.generation)]

def checkSize : Except ApplicationError Unit :=
  rejectIf (maxTokenBytes < token.json.utf8ByteSize)
    (.integrity "OAuth credential exceeds storage bound")

/-- `persist_grant`: the token that is put into the vault. -/
def persistGrant (generation : ℕ) (nowMs : ℤ) (fault : Option VaultError) :
    Except ApplicationError StoredToken := do
  validateGrant grant nowMs
  let stored : StoredToken := { grant with version := tokenFormatVersion, generation }
  checkSize stored
  vaultReply fault
  pure stored

variable (vault : Option StoredToken)

/-- What the daemon reads of the vault. A stored token is decoded as it was written. -/
def load (fault : Option VaultError) : Except ApplicationError StoredToken := do
  vaultReply fault
  let token ← okOr vault (mapVault .notFound)
  checkSize token
  rejectIf (token.version ≠ tokenFormatVersion ∨ token.generation = 0)
    (.integrity "OAuth credential version is invalid")
  validateStored token
  pure token

/-! ## Requests -/

/-- One turn of the polling loop: whether the request is cancelled when the turn begins, when the
gate has been taken and while the daemon sleeps, the two readings of the clock, `none` before the
epoch, and the answer of the provider. -/
structure Poll where
  cancelled : Bool
  nowMs : Option ℤ
  reply : Except OAuthFailure OAuthTokenGrant
  cancelledAtGate : Bool
  laterMs : Option ℤ
  cancelledAsleep : Bool

/-- The polling loop of `complete_device`: the grant and when it was asked for. The loop is still
running when the turns are used up; how long it sleeps between two turns is left open. -/
def poll (expiresAtMs : ℤ) : List Poll → Option (Except ApplicationError (OAuthTokenGrant × ℤ))
  | [] => none
  | turn :: turns =>
      if turn.cancelled then some (.error .cancelled) else
      match turn.nowMs with
      | none => some (.error (.integrity "system clock precedes Unix epoch"))
      | some nowMs =>
          if expiresAtMs ≤ nowMs then some (.error .deadlineExceeded) else
          match turn.reply with
          | .ok grant =>
              some (if turn.cancelledAtGate then .error .cancelled else .ok (grant, nowMs))
          | .error .pending | .error .slowDown =>
              if turn.laterMs = none then
                some (.error (.integrity "system clock precedes Unix epoch"))
              else if turn.cancelledAsleep then some (.error .cancelled)
              else poll expiresAtMs turns
          | .error failure => some (.error (mapOauth failure))

/-- `complete_device`: the token of the enrollment. -/
def completeDevice (expiresAtMs : ℤ) (polls : List Poll) (faults : Faults) :
    Option (Except ApplicationError StoredToken) :=
  (poll expiresAtMs polls).map fun polled => do
    let (grant, nowMs) ← polled
    persistGrant grant 1 nowMs (faults 0)

/-- `i64::saturating_sub`. -/
def saturatingSub (a b : ℤ) : ℤ := max (-2 ^ 63) (min (2 ^ 63 - 1) (a - b))

/-- `credential` once it holds both gates: the token that replaces the stored one, if that has to
be refreshed. What the request reads before the gates is read again here. -/
def rotate (nowMs refreshBeforeMs : ℤ) (reply : Except OAuthFailure OAuthTokenGrant)
    (faults : Faults) : Except ApplicationError (Option StoredToken) := do
  let token ← load vault (faults 0)
  if refreshBeforeMs < saturatingSub token.expiresAtMs nowMs then pure none
  else
    let next ← okOr (checkedAdd token.generation 1)
      (.invalidState "OAuth credential generation exhausted")
    let grant ← reply.mapError mapOauth
    some <$> persistGrant grant next nowMs (faults 1)

def supergrokBinding (generation : ℕ) : String := "supergrok-api:" ++ generation.repr

def acquireCredentialUse (expectedGeneration : ℕ) (fault : Option VaultError) :
    Except ApplicationError Unit := do
  let token ← load vault fault
  rejectIf (token.generation ≠ expectedGeneration)
    (.invalidState "OAuth credential changed before provider dispatch")

/-- The second half of `credential_for_use`, once the read gate is held, and the comparison with
the binding of the thread: the binding of the turn that is reserved. -/
def bindTurn (generation : ℕ) (expected : Option String) (fault : Option VaultError) :
    Except ApplicationError String := do
  let current ← load vault fault
  rejectIf (current.generation ≠ generation) (.invalidState "OAuth credential changed before use")
  let binding := supergrokBinding current.generation
  rejectIf (∃ e ∈ expected, e ≠ binding) (.invalidState ("the Chat credential changed after " ++
    "this conversation thread was bound; start a new thread to use the current credential"))
  pure binding

/-! ## Runs -/

/-- The vault with the history of the daemon. A grant is known by its place in `grants`. -/
structure State where
  vault : Option StoredToken := none
  /-- The grants that were stored, the oldest first. -/
  grants : List StoredToken := []
  /-- How many of them an enrollment stored. -/
  enrollments : ℕ := 0
  /-- The generations that were read, each with its grant. -/
  reads : List (ℕ × ℕ) := []
  /-- The bindings of the turns, each with the grant under which the turn was reserved. -/
  turns : List (String × ℕ) := []

inductive Event where
  | completeDevice (expiresAtMs : ℤ) (polls : List Poll) (faults : Faults)
  | credential (nowMs refreshBeforeMs : ℤ) (reply : Except OAuthFailure OAuthTokenGrant)
      (faults : Faults)
  | reserveTurn (read : ℕ × ℕ) (expected : Option String) (fault : Option VaultError)
  | disconnect (fault : Option VaultError)
  | restart

namespace State

variable (s : State)

/-- The place of the grant that was stored last. -/
def last : ℕ := s.grants.length - 1

def generations : List ℕ := s.grants.map StoredToken.generation

def store (token : StoredToken) (enrollments : ℕ) : State :=
  { s with
    vault := some token, grants := s.grants ++ [token]
    enrollments := s.enrollments + enrollments }

/-- The request reads the stored token. -/
def read (fault : Option VaultError) : State :=
  match load s.vault fault with
  | .ok token => { s with reads := (token.generation, s.last) :: s.reads }
  | .error _ => s

def step : Event → State
  | .completeDevice expiresAtMs polls faults =>
      match SuperGrok.completeDevice expiresAtMs polls faults with
      | some (.ok token) => s.store token 1
      | _ => s
  | .credential nowMs refreshBeforeMs reply faults =>
      match rotate s.vault nowMs refreshBeforeMs reply faults with
      | .ok none => s.read none
      | .ok (some token) => (s.store token 0).read (faults 2)
      | .error _ => s
  | .reserveTurn read expected fault =>
      match bindTurn s.vault read.1 expected fault with
      | .ok binding =>
          if read ∈ s.reads then { s with turns := (binding, s.last) :: s.turns } else s
      | .error _ => s
  | .disconnect fault => if fault.isNone then { s with vault := none } else s
  | .restart => s

def run (events : List Event) : State := events.foldl step {}

/-- The generation of a grant is its own: no two grants share one, a generation that was read can
be used only while its grant is stored, and turns with one binding have one grant. -/
structure NeverReused (s : State) : Prop where
  grants : s.generations.Nodup
  uses : ∀ read ∈ s.reads, ∀ fault, acquireCredentialUse s.vault read.1 fault = .ok () →
    read.2 = s.last
  turns : ∀ turn ∈ s.turns, ∀ turn' ∈ s.turns, turn.1 = turn'.1 → turn.2 = turn'.2

/-- What every run keeps. -/
structure Traced (s : State) : Prop where
  stored : ∀ token ∈ s.vault, s.grants.getLast? = some token
  empty : s.enrollments = 0 → s.grants = []
  counted : s.enrollments ≤ s.generations.count 1
  numbered : s.enrollments ≤ 1 → s.generations = List.range' 1 s.grants.length
  reads : ∀ read ∈ s.reads, s.generations[read.2]? = some read.1
  turns : ∀ turn ∈ s.turns, ∃ generation, s.generations[turn.2]? = some generation ∧
    turn.1 = supergrokBinding generation

end State

/-! ## What the requests read and write -/

variable {token : StoredToken} {vault : Option StoredToken} {fault : Option VaultError}

lemma of_load (h : load vault fault = .ok token) : vault = some token := by
  simp only [load, bind_eq_ok, return_eq_ok, okOr_eq_ok] at h
  obtain ⟨-, -, loaded, hload, -, -, -, -, -, -, rfl⟩ := h
  exact hload

lemma generation_of_persistGrant {grant : OAuthTokenGrant} {generation : ℕ} {nowMs : ℤ}
    (h : persistGrant grant generation nowMs fault = .ok token) :
    token.generation = generation := by
  simp only [persistGrant, bind_eq_ok, return_eq_ok] at h
  obtain ⟨-, -, -, -, -, -, rfl⟩ := h
  rfl

/-- A refresh writes the generation that follows the stored one. -/
lemma generation_of_rotate {nowMs refreshBeforeMs : ℤ}
    {reply : Except OAuthFailure OAuthTokenGrant} {faults : Faults}
    (h : rotate vault nowMs refreshBeforeMs reply faults = .ok (some token)) :
    ∃ cur ∈ vault, token.generation = cur.generation + 1 := by
  obtain ⟨cur, hload, h⟩ := bind_eq_ok.1 h
  refine ⟨cur, of_load hload, ?_⟩
  split at h
  · cases return_eq_ok.1 h
  · obtain ⟨next, hnext, h⟩ := bind_eq_ok.1 h
    obtain ⟨grant, -, h⟩ := bind_eq_ok.1 h
    have hnext := (checkedAdd_eq_some.1 (okOr_eq_ok.1 hnext)).2
    cases hpers : persistGrant grant next nowMs (faults 1) with
    | error error => rw [hpers] at h; cases h
    | ok stored =>
      rw [hpers] at h
      obtain rfl : stored = token := Option.some.inj (Except.ok.inj h)
      rw [generation_of_persistGrant hpers, hnext]

namespace State

variable {s : State}

namespace Traced

lemma generation_last (h : s.Traced) {token : StoredToken} (htoken : s.vault = some token) :
    s.generations[s.last]? = some token.generation := by
  have hlast := h.stored token htoken
  rw [getLast?_eq_getElem?] at hlast
  rw [generations, List.getElem?_map, last, hlast]
  rfl

/-- A grant is stored: by an enrollment, or as the successor of the stored one. -/
theorem store (h : s.Traced) {token : StoredToken} {enrollments : ℕ}
    (hnext : enrollments = 1 ∧ token.generation = 1 ∨
      enrollments = 0 ∧ ∃ cur ∈ s.vault, token.generation = cur.generation + 1) :
    (s.store token enrollments).Traced := by
  have hgen :
      (s.store token enrollments).generations = s.generations ++ [token.generation] :=
    map_append
  have hkept : ∀ {n generation : ℕ}, s.generations[n]? = some generation →
      (s.store token enrollments).generations[n]? = some generation := by
    intro n generation hn
    have hlt := (List.getElem?_eq_some_iff.1 hn).1
    rw [hgen, List.getElem?_append_left hlt, hn]
  refine ⟨?_, ?_, ?_, ?_, fun read hread => hkept (h.reads read hread), ?_⟩
  · rintro cur ⟨rfl⟩
    exact getLast?_concat
  · intro hnone
    obtain ⟨rfl, -⟩ | ⟨rfl, cur, hcurr, -⟩ := hnext
    · cases hnone
    · have hlast := h.stored cur hcurr
      rw [h.empty hnone] at hlast
      cases hlast
  · rw [hgen, count_append]
    have hcnt := h.counted
    obtain ⟨rfl, hone⟩ | ⟨rfl, -⟩ := hnext
    · rw [hone]
      exact Nat.add_le_add_right hcnt 1
    · exact Nat.le_add_right_of_le hcnt
  · intro hone
    obtain ⟨rfl, hfst⟩ | ⟨rfl, cur, hcurr, hsucc⟩ := hnext
    · have hnone : s.grants = [] := h.empty (by simpa [State.store] using hone)
      simp [State.store, generations, hnone, hfst]
    · have hnumb := h.numbered hone
      have hplace := h.generation_last hcurr
      rw [hnumb] at hplace
      obtain ⟨hlt, hlast⟩ := List.getElem?_eq_some_iff.1 hplace
      rw [List.getElem_range', last] at hlast
      rw [List.length_range'] at hlt
      have hgeneration : token.generation = 1 + s.grants.length := by omega
      rw [hgen, hnumb, hgeneration, ← range'_1_concat]
      simp [State.store]
  · intro turn hturn
    obtain ⟨generation, hplace, hbind⟩ := h.turns turn hturn
    exact ⟨generation, hkept hplace, hbind⟩

lemma read (h : s.Traced) (fault : Option VaultError) : (s.read fault).Traced := by
  unfold State.read
  split
  · rename_i token hload
    refine ⟨h.stored, h.empty, h.counted, h.numbered, ?_, h.turns⟩
    intro read hread
    obtain rfl | hread := mem_cons.1 hread
    · exact h.generation_last (of_load hload)
    · exact h.reads read hread
  · exact h

/-- Every request keeps the history in order. -/
theorem step (h : s.Traced) (event : Event) : (s.step event).Traced := by
  cases event with
  | completeDevice expiresAtMs polls faults =>
    simp only [State.step]
    split
    · rename_i token hdone
      obtain ⟨polled, -, hpoll⟩ := Option.map_eq_some_iff.1 hdone
      obtain ⟨⟨grant, nowMs⟩, -, hsto⟩ := bind_eq_ok.1 hpoll
      exact h.store (.inl ⟨rfl, generation_of_persistGrant hsto⟩)
    · exact h
  | credential nowMs refreshBeforeMs reply faults =>
    simp only [State.step]
    split
    · exact h.read none
    · rename_i token hrot
      exact (h.store (.inr ⟨rfl, generation_of_rotate hrot⟩)).read (faults 2)
    · exact h
  | reserveTurn read expected fault =>
    simp only [State.step]
    split
    · rename_i binding hbind
      simp only [bindTurn, bind_eq_ok, return_eq_ok] at hbind
      obtain ⟨cur, hload, -, -, -, -, hbinding⟩ := hbind
      split
      · refine ⟨h.stored, h.empty, h.counted, h.numbered, h.reads, ?_⟩
        intro turn hturn
        obtain rfl | hturn := mem_cons.1 hturn
        · exact ⟨cur.generation, h.generation_last (of_load hload), hbinding.symm⟩
        · exact h.turns turn hturn
      · exact h
    · exact h
  | disconnect fault =>
    simp only [State.step]
    split
    · exact ⟨by simp, h.empty, h.counted, h.numbered, h.reads, h.turns⟩
    · exact h
  | restart => exact h

end Traced

lemma traced_run (evs : List Event) : (run evs).Traced :=
  foldlRecOn evs step ⟨by simp, fun _ => rfl, by simp, fun _ => rfl, by simp, by simp⟩
    fun _ h event _ => h.step event

/-- Generations that are all different name their grants. -/
lemma Traced.neverReused (h : s.Traced) (hnd : s.generations.Nodup) : s.NeverReused := by
  have hinj : ∀ {i j generation : ℕ}, s.generations[i]? = some generation →
      s.generations[j]? = some generation → i = j := by
    intro i j generation hi hj
    have hlt := (List.getElem?_eq_some_iff.1 hi).1
    exact (List.getElem?_inj hlt hnd).1 (hi.trans hj.symm)
  refine ⟨hnd, ?_, ?_⟩
  · intro read hread fault huse
    obtain ⟨token, hload, hgen⟩ := bind_eq_ok.1 huse
    have hgen : token.generation = read.1 := not_not.1 (rejectIf_eq_ok.1 hgen)
    have hsto := h.generation_last (of_load hload)
    rw [hgen] at hsto
    exact hinj (h.reads read hread) hsto
  · intro turn hturn turn' hturn' hbind
    obtain ⟨generation, hplace, hname⟩ := h.turns turn hturn
    obtain ⟨generation', hplace', hname'⟩ := h.turns turn' hturn'
    rw [hname, hname', supergrokBinding, supergrokBinding, String.append_right_inj] at hbind
    obtain rfl := repr_inj hbind
    exact hinj hplace hplace'

/-- A generation is never reused exactly when the daemon was enrolled at most once: an enrollment
after a disconnect, or over a stored grant, starts again with generation one. -/
theorem neverReused_iff (events : List Event) :
    (run events).NeverReused ↔ (run events).enrollments ≤ 1 := by
  have h := traced_run events
  constructor
  · intro hnever
    have hcount := nodup_iff_count_le_one.1 hnever.grants 1
    exact h.counted.trans hcount
  · intro hone
    refine h.neverReused ?_
    rw [h.numbered hone]
    exact nodup_range' 1

/-- An enrollment that the provider grants at the first poll. -/
def enrollment (token : String) : Event :=
  .completeDevice 600000 [{
    cancelled := false, nowMs := some 1000, reply := .ok ⟨token, "refresh", 3600000, ["api:access"]⟩
    cancelledAtGate := false, laterMs := none, cancelledAsleep := false }] fun _ => none

/-- A generation that was read before a disconnect can be used under the next account. -/
theorem reconnect_reuses_generation :
    ¬ (run [enrollment "first", .credential 1000 120000 (.error .unavailable) fun _ => none,
      .disconnect none, enrollment "second"]).NeverReused := by
  intro h
  have huse := h.uses (1, 0) (by decide +kernel) none (by decide +kernel)
  revert huse
  decide +kernel

end State
end GrokDesktop.SuperGrok
