import GrokDesktop.Domain.Basic

/-!
# Host Tools enrollment

The daemon-owned policy that authorizes Host Work.
-/

namespace GrokDesktop

/-- The disclosure contract that an enrollment accepts. -/
def hostAcknowledgmentVersion : ℕ := 1

/-- The closed set of Host Tools classes. -/
structure HostToolClasses where
  filesystemRead : Bool
  filesystemWrite : Bool
  processExecute : Bool
  deriving DecidableEq

/-- At least one class was selected. -/
def HostToolClasses.any (classes : HostToolClasses) : Bool :=
  classes.filesystemRead || classes.filesystemWrite || classes.processExecute

/-- Versioned, revocable Host Tools enrollment. -/
structure HostExecutionPolicy where
  revision : ℕ
  active : Bool
  acknowledgmentVersion : ℕ
  acknowledgedAt : UnixMillis
  toolClasses : HostToolClasses
  canonicalRoots : List String
  broadScopeAcknowledged : Bool
  updatedAt : UnixMillis
  deriving DecidableEq

namespace HostExecutionPolicy

/-- The policy can authorize a new Host Work run. -/
def isEffectivelyActive (policy : HostExecutionPolicy) : Bool :=
  policy.active && policy.acknowledgmentVersion = hostAcknowledgmentVersion &&
    policy.toolClasses.any && !policy.canonicalRoots.isEmpty

end HostExecutionPolicy

end GrokDesktop
