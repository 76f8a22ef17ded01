import SearchGateway.Fault
import SearchGateway.Record.Basic

/-!
# Storing many parts at once

A bulk request has two lines for every part: the identifier it is stored under, and its record.  The
answer lists what became of every part.
-/

set_option autoImplicit false

namespace SearchGateway

/-- What was stored of a document. -/
structure Stored where
  documentId : String
  firstPartId : String
  parts : Nat
deriving Repr, DecidableEq

namespace Bulk

/-- The line with the identifier that a part is stored under. -/
def actionLine (partId : String) : String :=
  (Json.obj [("index", .obj [("_id", .str partId)])]).render .line

/-- The line with the record of a part. -/
def recordLine (part : Part) : Except Defect String := (Record.ofPart part).toJson.encode .line

/-- The two lines of a part. -/
def partLines (index : String) (part : Part) : Except Defect (List String) := do
  return [actionLine (part.storedId index), ← recordLine part]

/-- The text of the request. -/
def text (index : String) (parts : List Part) : Except Defect String := do
  let lines ← parts.mapM (partLines index)
  return "\n".intercalate lines.flatten ++ "\n"

/-! ## The answer -/

/-- The error of one action, if it has one that counts as something. -/
def actionError? (action : Json) : Option Json :=
  (action.get? "error").filter Json.isSomething

/-- The text of an error: its reason, or else all of it. -/
def errorText (error : Json) : String :=
  match error with
  | .obj fields => ((Json.Fields.get? fields "reason").getD error).display
  | _ => error.display

/-- The text of the first error among the items of an answer. -/
def firstError : List Json → Except Defect String
  | [] => .ok "unknown bulk error"
  | .obj actions :: rest => match actions.findSome? fun (_, action) => actionError? action with
    | some error => .ok (errorText error)
    | none => firstError rest
  | _ :: _ => .error .missingMember

/-- The items of an answer, as far as they can be listed.  What a text or an object lists are texts,
and an empty one lists nothing. -/
def itemsOf (answer : Json.Fields) : Except Defect (List Json) :=
  match answer.get? "items" with
  | none => .ok []
  | some (.arr items) => .ok items
  | some (.str s) => .ok (s.toList.map fun c => .str (String.singleton c))
  | some (.obj fields) => .ok (fields.map fun (key, _) => .str key)
  | some _ => .error .wrongType

/-- Whether the engine stored all parts: an answer that is an object reports errors by a field of
that name, and any other answer reports none. -/
def acknowledge (answer : Json) : Except Fault Unit :=
  match answer with
  | .obj fields =>
    if ((Json.Fields.get? fields "errors").getD .null).isSomething then do
      let reason ← firstError (← itemsOf fields)
      .error (.announced (.service none) s!"failed to store document parts: {reason}")
    else .ok ()
  | _ => .ok ()

end Bulk

end SearchGateway
