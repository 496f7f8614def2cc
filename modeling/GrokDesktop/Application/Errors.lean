import GrokDesktop.Application.Ports
import GrokDesktop.Domain.Automation

/-!
# Application errors

The error categories of the application services and the conversions into them, with the texts of
the domain errors they carry.
-/

namespace GrokDesktop

/-- Stable error categories returned by application use cases. -/
inductive ApplicationError where
  | invalidInput (text : String)
  | notFound
  | conflict
  | invalidState (text : String)
  | unavailable (text : String)
  | integrity (text : String)
  | unauthorized (text : String)
  | storage (text : String)
  | deadlineExceeded
  | cancelled
  deriving DecidableEq

/-! ## Texts -/

def IdError.display : IdError → String
  | .empty => "identifier cannot be empty"
  | .tooLong => "identifier exceeds 128 bytes"
  | .controlCharacter => "identifier contains control characters"

def RunState.debug : RunState → String
  | .queued => "Queued"
  | .planning => "Planning"
  | .awaitingApproval => "AwaitingApproval"
  | .running => "Running"
  | .paused => "Paused"
  | .completed => "Completed"
  | .failed => "Failed"
  | .cancelled => "Cancelled"
  | .interruptedNeedsReview => "InterruptedNeedsReview"

def TransitionError.display : TransitionError → String
  | .invalidRunTransition source target =>
      "invalid run transition from " ++ source.debug ++ " to " ++ target.debug
  | .clockRegression current attempted =>
      "transition timestamp " ++ toString attempted ++ " predates last update " ++ toString current

def EffectState.debug : EffectState → String
  | .prepared => "Prepared"
  | .executing => "Executing"
  | .succeeded => "Succeeded"
  | .failed => "Failed"
  | .needsReview => "NeedsReview"

def EffectTransitionError.display (error : EffectTransitionError) : String :=
  "invalid effect transition from " ++ error.source.debug ++ " to " ++ error.target.debug

def WorkspaceError.display : WorkspaceError → String
  | .invalidField field reason => "invalid " ++ field ++ ": " ++ reason
  | .invalidLifecycle entity => entity ++ " is not editable in its current state"
  | .clockRegression => "workspace timestamp predates the current revision"
  | .revisionExhausted => "workspace revision is exhausted"

/-- The text of a turn state in an error message. -/
def ConversationTurnState.debug : ConversationTurnState → String
  | .reserved => "Reserved"
  | .providerStarted => "ProviderStarted"
  | .completed => "Completed"
  | .failed => "Failed"
  | .cancelled => "Cancelled"
  | .interruptedNeedsReview => "InterruptedNeedsReview"

def ConversationTurnError.display : ConversationTurnError → String
  | .invalidField field => "invalid conversation turn field: " ++ field
  | .invalidTransition source target =>
      "invalid conversation turn transition from " ++ source.debug ++ " to " ++ target.debug
  | .clockRegression => "conversation turn timestamp predates the current revision"
  | .revisionExhausted => "conversation turn revision is exhausted"

/-! ## Conversions -/

namespace ApplicationError

def ofId (error : IdError) : ApplicationError := .invalidInput error.display

def ofTransition (error : TransitionError) : ApplicationError := .invalidState error.display

def ofEffect (error : EffectTransitionError) : ApplicationError := .invalidState error.display

def ofWorkspace (error : WorkspaceError) : ApplicationError :=
  match error with
  | .invalidField .. => .invalidInput error.display
  | .invalidLifecycle _ | .clockRegression | .revisionExhausted => .invalidState error.display

def ofTurn (error : ConversationTurnError) : ApplicationError :=
  match error with
  | .invalidField _ => .invalidInput error.display
  | .invalidTransition .. | .clockRegression | .revisionExhausted => .invalidState error.display

def ofStore : StoreError → ApplicationError
  | .notFound => .notFound
  | .conflict => .conflict
  | .unavailable message => .unavailable message
  | .internal message => .storage message

end ApplicationError

end GrokDesktop
