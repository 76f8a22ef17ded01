import SearchGateway.Exchange
import SearchGateway.Fault
import SearchGateway.Json.Reader

/-!
# Failures of the engine

The engine reports a failure by its status and, mostly, by an object under `error`.  Its `type`
decides what the failure is about if it is a known one, and the status decides otherwise.  The
message is made of the reasons of the root causes, or else is the reason of the error itself, which
is passed on whatever value it is.

Reasons that are no text among root causes, root causes that cannot be listed, a type that cannot be
looked up, and a body that is nested too deep to be read are defects: such an answer is refused
without a message.
-/

set_option autoImplicit false

namespace SearchGateway.Failure

/-- What the types of the engine's errors are about. -/
def knownTypes : List (String × Cause) :=
  [("index_not_found_exception", .indexNotFound),
    ("document_missing_exception", .documentNotFound),
    ("document_not_found", .documentNotFound),
    ("validation_exception", .invalidRequest),
    ("illegal_argument_exception", .invalidRequest),
    ("parsing_exception", .invalidRequest),
    ("timeout_exception", .timeout)]

/-- What a failure with the given status is about. -/
def causeOfStatus (status : Int) : Cause :=
  if status = 404 then .indexNotFound
  else if status = 400 then .invalidRequest
  else if status = 408 ∨ status = 504 then .timeout
  else if status = 503 then .unavailable
  else .service (some status)

/-- A failure about which its status says all. -/
def ofStatus (status : Int) (message : Json) : Fault := .announced (causeOfStatus status) message

/-- A failure without an answer. -/
def ofLoss (loss : Loss) (text : String) : Fault :=
  match loss with
  | .late => .announced .timeout s!"opensearch request timed out: {text}"
  | .unreachable => .announced .unavailable s!"opensearch is unavailable: {text}"
  | .broken _ => .announced (.service none) s!"opensearch request failed: {text}"

/-! ## Error objects -/

/-- The root causes of an error that are objects.  A value that counts as nothing has none, and so
have texts and objects, which list characters and keys. -/
def rootCauses (details : Json.Fields) : Except Defect (List Json.Fields) :=
  match (details.get? "root_cause").getD .null with
  | .arr causes => .ok (causes.filterMap Json.fields?)
  | .str _ => .ok []
  | .obj _ => .ok []
  | value => if value.isSomething then .error .wrongType else .ok []

/-- The reason of a root cause, if it gives one that counts as something. -/
def reason? (cause : Json.Fields) : Option Json :=
  (cause.get? "reason").filter Json.isSomething

/-- A reason that has to be text. -/
def textOfReason : Json → Except Defect String
  | .str s => .ok s
  | _ => .error .wrongType

/-- The reasons of the root causes in one text. -/
def rootReasons (details : Json.Fields) : Except Defect String := do
  let reasons ← ((← rootCauses details).filterMap reason?).mapM textOfReason
  return ": ".intercalate reasons

/-- The message of an error. -/
def message (details : Json.Fields) : Except Defect Json := do
  let reasons ← rootReasons details
  if !reasons.isEmpty then return .str reasons
  return (reason? details).getD "unknown error"

/-- What the type of an error says about it, if it is a known one. -/
def causeOfType (details : Json.Fields) : Except Defect (Option Cause) :=
  match details.get? "type" with
  | some (.str type) => .ok (List.lookup type knownTypes)
  | some (.arr _) => .error .wrongType
  | some (.obj _) => .error .wrongType
  | _ => .ok none

/-- The failure that an error object describes. -/
def ofDetails (details : Json.Fields) (status : Int) : Except Defect Fault := do
  let message ← message details
  let cause ← causeOfType details
  return .announced (cause.getD (causeOfStatus status)) message

/-! ## Answers -/

/-- Whether the answer says that a document was not found. -/
def isMissingDocument (fields : Json.Fields) : Bool :=
  match fields.get? "found" with
  | some (.bool false) => (fields.get? "_id").isSome
  | _ => false

/-- The message about a document that was not found. -/
def missingDocument (fields : Json.Fields) : String :=
  let id := ((fields.get? "_id").getD .null).display
  let index := ((fields.get? "_index").getD .null).display
  s!"document [{id}] not found in index [{index}]"

/-- The text of an answer's body, or its status if the body is empty. -/
def bodyText (status : Int) (body : String) : String :=
  if body.isEmpty then s!"returned status {status}" else body

/-- The failure that an answer with the given status reports, if its body is an object. -/
def ofObject (fields : Json.Fields) (status : Int) (body : String) : Fault :=
  match fields.get? "error" with
  | some (.obj details) => match ofDetails details status with
    | .ok fault => fault
    | .error defect => .defect defect
  | _ =>
    if isMissingDocument fields then .announced .documentNotFound (missingDocument fields)
    else ofStatus status (bodyText status body)

/-- The failure that an answer reports. -/
def ofAnswer (status : Int) (body : String) : Fault :=
  match Json.parse Exchange.depth body with
  | .ok (.obj fields) => ofObject fields status body
  | .error .tooDeep => .defect .tooDeep
  | _ => ofStatus status (bodyText status body)

/-- The failure that a reply reports, whether it is an answer or not. -/
def ofReply : Reply → Fault
  | .answer status body => ofAnswer status body
  | .lost loss text => ofLoss loss text

end SearchGateway.Failure
