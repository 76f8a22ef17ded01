import SearchGateway.Json.Display

/-!
# Faults: how operations fail

An operation of the gateway fails with an announced cause and a message, or with a `Defect`.  The
message is text in all but one case: an error answer of the engine may give any JSON value as its
reason, and that value is passed on as it is.
-/

set_option autoImplicit false

namespace SearchGateway

/-- What an announced failure is about. -/
inductive Cause where
  /-- The engine or the embedding service cannot be reached. -/
  | unavailable
  /-- The engine or the embedding service did not answer in time. -/
  | timeout
  /-- The engine or the embedding service refused, with the status of its answer if it had one. -/
  | service (status : Option Int)
  | indexNotFound
  | documentNotFound
  /-- The request cannot be carried out as it stands. -/
  | invalidRequest
  /-- An answer does not have the shape that the operation asks for. -/
  | malformedAnswer
  /-- The gateway called itself in a way it must not. -/
  | internal
  /-- A document cannot be divided into parts. -/
  | indivisible
deriving Repr, DecidableEq

namespace Cause

/-- The name of a cause in messages. -/
def title : Cause → String
  | unavailable => "ServiceUnavailableError"
  | timeout => "RequestTimeoutError"
  | service _ => "ServiceError"
  | indexNotFound => "IndexNotFoundError"
  | documentNotFound => "DocumentNotFoundError"
  | invalidRequest => "ValidationError"
  | malformedAnswer => "SerdeError"
  | internal => "InternalError"
  | indivisible => "CantSplitLargeDocumentsError"

end Cause

/-- How an operation fails. -/
inductive Fault where
  /-- A failure that the operation announces, with a message for the caller. -/
  | announced (cause : Cause) (message : Json)
  | defect (cause : Defect)

namespace Fault

instance : Coe Defect Fault := ⟨defect⟩

/-- A request that cannot be carried out. -/
def invalid (message : String) : Fault := announced .invalidRequest message

/-- An answer of the wrong shape. -/
def malformed (message : String) : Fault := announced .malformedAnswer message

/-- Whether the failure is an announced one. -/
def isAnnounced : Fault → Bool
  | announced _ _ => true
  | defect _ => false

end Fault

/-- An operation that fails with a defect only may stand among those that announce failures. -/
instance : MonadLift (Except Defect) (Except Fault) where
  monadLift
    | .ok a => .ok a
    | .error d => .error (.defect d)

end SearchGateway
