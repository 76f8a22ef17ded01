import SearchGateway.Fault
import SearchGateway.Log
import SearchGateway.Record.Basic

/-!
# Pages of hits

The engine answers a search with a page of hits and, while there is more to fetch, a cursor.  Every
hit is read on its own; one that cannot be read is left out and counted, and costs the others
nothing.
-/

set_option autoImplicit false

namespace SearchGateway

/-- A stored part that a search found. -/
structure Hit where
  id : String
  index : String
  part : Part
  score : Option Double
  /-- The places where words of the search occur. -/
  highlight : List String
deriving DecidableEq

/-- A page of hits.  Without a cursor nothing more can be fetched. -/
structure Page where
  hits : List Hit
  cursor : Option String
deriving DecidableEq

/-- Whether nothing more can be fetched. -/
def Page.isExhausted (page : Page) : Bool := page.cursor.isNone

namespace Hit

/-- The places of all fields in one list, those in the content first. -/
def snippets (highlight : List (String × List String)) : List String :=
  (highlight.lookup "content").getD []
    ++ (highlight.filter (·.1 ≠ "content")).flatMap (·.2)

/-- A field of a hit, under the engine's name for it or, if that is absent, under its plain name. -/
def named (fields : Json.Fields) (engineName plainName : String) : String :=
  if (fields.get? engineName).isSome then engineName else plainName

/-- The hit of its fields. -/
def ofFields (id index : String) (score : Option Double) (source : Record)
    (highlight : Option (List (String × List String))) : Hit :=
  ⟨id, index, source.toPart, score, snippets (highlight.getD [])⟩

/-- Reads the fields of a hit. -/
def readFields (fields : Json.Fields) : Checked Hit :=
  ofFields
    <$> Checked.required fields (named fields "_id" "id") Lenient.text?
    <*> Checked.required fields (named fields "_index" "index") Lenient.text?
    <*> Checked.optional fields (named fields "_score" "score") Lenient.real?
    <*> Checked.required fields (named fields "_source" "source") Record.read?
    <*> Checked.optional fields "highlight" Lenient.textLists?

/-- Reads a hit. -/
def read? (value : Json) : Option Hit := do
  (readFields (← value.fields?)).value?

end Hit

/-- What was read of an answer to a search. -/
structure Extract where
  page : Page
  /-- The number of entries in the array of hits, if the answer has one. -/
  entries : Option Nat

namespace Extract

/-- The array of hits of an answer. -/
def hitValues? (fields : Json.Fields) : Option (List Json) := do
  (← (← fields.get? "hits").get? "hits").items?

/-- The cursor of an answer. -/
def cursor? (fields : Json.Fields) : Option String :=
  (fields.get? "_scroll_id").bind Lenient.text?

/-- What the operator is told about entries that were left out. -/
def notices (e : Extract) : List Log :=
  match e.entries with
  | none => [⟨.warning, "Response has no hits array, returning empty page"⟩]
  | some total =>
    let dropped := total - e.page.hits.length
    if dropped = 0 then [] else [⟨.warning, s!"Dropped {dropped}/{total} malformed hits"⟩]

/-- Reads the page of an answer that is an object. -/
def ofFields (fields : Json.Fields) : Extract :=
  let values := hitValues? fields
  ⟨⟨(values.getD []).filterMap Hit.read?, cursor? fields⟩, values.map List.length⟩

/-- Reads the page of an answer. -/
def ofJson : Json → Except Fault Extract
  | .obj fields => .ok (ofFields fields)
  | value => .error (.malformed s!"expected JSON object in response, got {value.kindName}")

end Extract

end SearchGateway
