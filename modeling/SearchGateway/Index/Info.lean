import SearchGateway.Fault
import SearchGateway.Text.Numeral

/-!
# What the engine tells about its indexes

The engine describes an index by an object.  The number of documents is read as a number however it
is written; everything else is passed on as it is.
-/

set_option autoImplicit false

namespace SearchGateway

/-- An index as the engine describes it. -/
structure IndexInfo where
  name : Json
  health : Json
  status : Json
  documents : Int
  storeSize : Json

namespace IndexInfo

/-- A count; a value that counts as nothing is zero. -/
def count (value : Json) : Except Defect Int :=
  if !value.isSomething then .ok 0
  else match value with
    | .int n => .ok n
    | .bool _ => .ok 1
    | .num d => d.truncate
    | .str s => match Numeral.integer? s with
      | some n => .ok n
      | none => .error .wrongValue
    | _ => .error .wrongType

/-- Reads one description; a value without the name of an index is none. -/
def read (value : Json) : Except Defect (Option IndexInfo) :=
  match value with
  | .obj fields => match Json.Fields.get? fields "index" with
    | none => .ok none
    | some name => do
      let field (key : String) : Json := (Json.Fields.get? fields key).getD .null
      let documents ← count (field "docs.count")
      return some ⟨name, field "health", field "status", documents, field "store.size"⟩
  | _ => .ok none

/-- Reads a list of descriptions. -/
def readAll (value : Json) : Except Fault (List IndexInfo) :=
  match value with
  | .arr items => do return (← items.mapM fun item => (read item : Except Defect _)).filterMap id
  | _ => .error (.malformed "expected list of indexes in response")

/-- Whether the engine keeps the index for itself: its name starts with a dot. -/
def isHidden (info : IndexInfo) : Except Defect Bool :=
  match info.name with
  | .str name => .ok (name.toList.head? == some '.')
  | _ => .error .missingMember

/-- The indexes that the engine does not keep for itself. -/
def visible (infos : List IndexInfo) : Except Defect (List IndexInfo) :=
  infos.filterM fun info => return !(← info.isHidden)

end IndexInfo

end SearchGateway
