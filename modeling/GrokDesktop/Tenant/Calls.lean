import GrokDesktop.Tenant.Manager

/-!
# What a call of the tenant manager has in hand

Between its sections a call of `Resolve` or `Close` knows more than the shared state says: which
entry it creates, which backend it was given, which services it still has to close. `Hand` is that
knowledge, and the contract of this module says how each call of the surface uses it.
-/

namespace GrokDesktop.Tenant

open Resumption Program
open TenantLibrary (toUpper)

/-- What a running call has in hand. -/
inductive Hand where
  | idle
  /-- Another call creates the entry, or has created it. -/
  | awaiting (key : String) (entry : ℕ)
  /-- The call creates the backend of the entry. -/
  | creating (key : String) (entry : ℕ)
  /-- The factory has returned a backend. -/
  | made (key : String) (entry backend : ℕ)
  /-- The outcome is in the entry; a backend may be left to discard. -/
  | settled (key : String) (entry : ℕ) (service discard : Option ℕ)
  /-- The call has a service to return. -/
  | holding (key : String) (entry service : ℕ)
  /-- `Close` has stopped the manager. -/
  | closing
  /-- `Close` has waited for the creations. -/
  | drained
  /-- `Close` has these services left to close. -/
  | sweeping (rest : List ℕ)

/-- What a creation has in hand when its steps are over. -/
def Hand.created (key : String) (entry : ℕ) : Option ℕ → Hand
  | none => .creating key entry
  | some backend => .made key entry backend

/-- What a call has in hand after a reply. -/
def Hand.follow : Hand → (c : TenantCall) → TenantReply c → Hand
  | _, .enter key, .existing entry => .awaiting key entry
  | _, .enter key, .create entry => .creating key entry
  | .awaiting key entry, .awaitEntry _, .done (some service) => .holding key entry service
  | .creating key entry, .prepareStorage _ _, _ => .creating key entry
  | .creating key entry, .newBackend _, .error _ => .creating key entry
  | .creating key entry, .newBackend _, .ok backend => .made key entry backend
  | _, .settle key entry _, r => .settled key entry r.service r.discard
  | .settled key entry service _, .closeBackend _, _ => .settled key entry service none
  | .sweeping (_ :: rest), .closeBackend _, .ok () => .sweeping rest
  | .settled key entry (some service) _, .creationDone, _ => .holding key entry service
  | _, .markClosed, _ => .closing
  | _, .awaitCreations, .done () => .drained
  | _, .collect, services => .sweeping services
  | .sweeping rest, .contextErr, _ => .sweeping rest
  | _, _, _ => .idle

section

variable [TenantLibrary] [Sha256Library] (config : Config)

/-- The configuration of the backend of a user. -/
def backendConfig (sid : String) : BackendConfig where
  currentUserSid := sid
  imageRoot := (storageRoots config.dataRoot sid).imageRoot
  workspaceRoot := (storageRoots config.dataRoot sid).workspaceRoot

/-- The calls that a call with the given hand may make. -/
def allowed (hand : Hand) : TenantCall → Prop
  | .enter _ => hand = .idle
  | .awaitEntry entry => ∃ key, hand = .awaiting key entry
  | .prepareStorage _ _ => ∃ key entry, hand = .creating key entry
  | .newBackend backend =>
    (∃ entry, hand = .creating (TenantLibrary.toUpper backend.currentUserSid) entry) ∧
      backend = backendConfig config backend.currentUserSid
  | .settle key entry none => hand = .creating key entry
  | .settle key entry (some backend) => hand = .made key entry backend
  | .closeBackend backend =>
    (∃ key entry service, hand = .settled key entry service (some backend)) ∨
      ∃ rest, hand = .sweeping (backend :: rest)
  | .creationDone => ∃ key entry service, hand = .settled key entry service none
  | .markClosed => hand = .idle
  | .awaitCreations => hand = .closing
  | .collect => hand = .drained
  | .contextErr => ∃ rest, hand = .sweeping rest
  | .deliver sid entry service => hand = .holding (TenantLibrary.toUpper sid) entry service
  | .stopped => hand = .sweeping []

/-- The contract of a call of the surface. -/
def handContract : Contract TenantInterface Hand where
  allowed hand c := allowed config hand c
  next hand c r hand' := hand' = hand.follow c r

/-- The call comes back with the service that it holds, or with an error. -/
abbrev Holds (p : TenantProgram ℕ) (key : String) (entry : ℕ) (hand : Hand) : Prop :=
  p.wp (handContract config)
    (fun r hand => ∀ service, r = .ok service → hand = .holding key entry service) hand

variable {config}

/-- A call that is allowed. -/
lemma wp_request {α : Type} {c : TenantCall} {f : TenantReply c → TenantProgram α}
    {Q : Except TenantError α → Hand → Prop} {hand : Hand} (hall : allowed config hand c)
    (hrest : ∀ r, (f r).wp (handContract config) Q (hand.follow c r)) :
    ((request c).bind f).wp (handContract config) Q hand := by
  refine ⟨hall, ?_⟩
  rintro r _ rfl
  exact hrest r

end

end GrokDesktop.Tenant
