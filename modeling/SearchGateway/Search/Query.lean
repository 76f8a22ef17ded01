import SearchGateway.Search.Clause

/-!
# Composing engine queries

`Query.compose` turns a request of a given kind into the query that is sent to the engine.  The
filters of a request always become conditions that do not take part in scoring, and nothing but the
kind and the filters decides which parts a query selects.
-/

set_option autoImplicit false

namespace SearchGateway

/-! ## The fields that queries speak about -/

namespace Field

def embeddings : String := "embeddings"
def vector : String := "embeddings.knn"
def content : String := "content"
def createdAt : String := "created_at"
def modifiedAt : String := "modified_at"
def fileSize : String := "file_size"
def filePath : String := "file_path"
def documentId : String := "large_doc_id"
def number : String := "doc_part_id"
def locations : String := "metadata.locations"
def coordinates : String := "metadata.locations.coords"
def classes : String := "metadata.classes"
def className : String := "metadata.classes.name"
def classProbability : String := "metadata.classes.probability"
def source : String := "metadata.source"
def semanticSource : String := "metadata.semantic_source"
def pipelines : String := "metadata.pipelines"

end Field

/-! ## Filters -/

namespace FiltersOf

variable {N T D : Type} [Operand N] [Operand T] [Operand D]

/-- A range over a field, if it is bounded at all. -/
def rangeClause (field : String) (lower upper : Option N) : List Clause :=
  if lower.isNone && upper.isNone then []
  else [.range field (lower.map Operand.json) (upper.map Operand.json)]

/-- A condition on a field's value, if one is given. -/
def termClause (field : String) (value : Option T) : List Clause :=
  value.toList.map fun v => .term field (Operand.json v)

/-- The distance that counts as near where none is given. -/
def defaultDistance : String := "5km"

/-- The distance that counts as near; an empty one is none. -/
def reach (f : FiltersOf N T D) : String :=
  match f.distance with
  | some d => if d.isEmpty then defaultDistance else d
  | none => defaultDistance

/-- The condition that some location is near the centre. -/
def locationClause (f : FiltersOf N T D) : List Clause :=
  f.centre.toList.map fun centre =>
    .nested Field.locations none (.geoDistance Field.coordinates f.reach centre)

/-- The conditions on a single class. -/
def classConditions (f : FiltersOf N T D) : List Clause :=
  termClause Field.className f.classLabel
    ++ f.classProbability.toList.map fun p =>
      .range Field.classProbability (some (Operand.json p)) none

/-- The condition that one class satisfies all that is asked of classes. -/
def classClause (f : FiltersOf N T D) : List Clause :=
  if f.classConditions.isEmpty then []
  else [.nested Field.classes none (.bool [] [] f.classConditions)]

/-- The clauses that the filters stand for. -/
def clauses (f : FiltersOf N T D) : List Clause :=
  rangeClause Field.createdAt f.createdFrom f.createdTo
    ++ rangeClause Field.modifiedAt f.modifiedFrom f.modifiedTo
    ++ rangeClause Field.fileSize f.sizeFrom f.sizeTo
    ++ f.locationClause
    ++ termClause Field.source f.source
    ++ termClause Field.semanticSource f.semanticSource
    ++ termClause Field.pipelines f.pipelineLabel
    ++ f.classClause

end FiltersOf

section Composing

variable {N T D : Type} [Operand N] [Operand T] [Operand D]

/-- The clauses of the filters of a request, none without filters. -/
def filterClauses : Option (FiltersOf N T D) → List Clause
  | none => []
  | some f => f.clauses

/-! ## Kinds of search -/

namespace KindOf

/-- The conditions of an exact retrieval.  Without an identifier of document or part every document
answers with its first part alone. -/
def exactClauses (path documentId : Option T) (number : Option N) : List Clause :=
  FiltersOf.termClause Field.filePath path
    ++ FiltersOf.termClause Field.documentId documentId
    ++ match number, documentId with
      | some n, _ => [.term Field.number (Operand.json n)]
      | none, none => [.term Field.number (.int 0)]
      | none, some _ => []

/-- The lexical condition of a text. -/
def lexicalClause (text : String) (wording : WordingOf T) : Clause :=
  .multiMatch text ((wording.fields.map (·.map Operand.json)).getD [.str Field.content])
    wording.operator

/-- The condition that one of a part's embeddings is among the nearest. -/
def nearestClause (near : Neighbours) : Clause :=
  .nested Field.embeddings (some "max")
    (.nearest Field.vector (near.vector.getD []) near.amount near.breadth)

/-- What a kind of search selects among the parts that satisfy the filters. -/
def clause (kind : KindOf N T) (filters : List Clause) : Clause :=
  match kind with
  | retrieve path documentId number => .bool [] [] (exactClauses path documentId number ++ filters)
  | fulltext none _ => .bool [.matchAll] [] filters
  | fulltext (some text) wording => .bool [lexicalClause text wording] [] filters
  | semantic _ near => .bool [nearestClause near] [] filters
  | hybrid text near wording =>
    .bool [] [lexicalClause text wording, nearestClause near] filters

/-- Whether the hits are ordered by creation time and not by score. -/
def isSorted : KindOf N T → Bool
  | retrieve .. | fulltext .. => true
  | _ => false

/-- Whether the places where words occur are marked. -/
def isHighlighted : KindOf N T → Bool
  | fulltext .. | hybrid .. => true
  | _ => false

end KindOf

/-! ## Queries -/

/-- A query as the engine takes it. -/
structure Query where
  clause : Clause
  /-- How the places where words occur are marked, if they are. -/
  highlight : Option Json
  order : Option SortOrder
  size : Int
  excluded : List String
  offset : Option Int
  minScore : Option Json

namespace Query

/-- How the places where words occur are marked. -/
def highlightJson (p : PresentationOf T D) : Json :=
  let tag (t : Option T) : Json := (t.map Operand.json).getD (.str "")
  .obj [("fields", .obj [(Field.content, .obj (
    [("pre_tags", Json.arr [tag p.highlightBefore]),
      ("post_tags", Json.arr [tag p.highlightAfter])]
    ++ p.highlightSize.toList.map (fun n => ("fragment_size", Json.int n))
    ++ p.highlightAmount.toList.map (fun n => ("number_of_fragments", Json.int n))))])]

/-- The query of a request of the given kind. -/
def compose (kind : KindOf N T) (p : PresentationOf T D) (filters : Option (FiltersOf N T D)) :
    Query where
  clause := kind.clause (filterClauses filters)
  highlight := if kind.isHighlighted then some (highlightJson p) else none
  order := if kind.isSorted then some p.order else none
  size := p.size
  excluded := p.excluded
  offset := if 0 < p.offset then some p.offset else none
  minScore := p.minScore.map Operand.json

/-- The order of hits. -/
def sortJson (order : SortOrder) : Json :=
  .arr [.obj [(Field.createdAt, .obj [("order", order.name)])]]

/-- The query as it stands in a request. -/
def toJson (q : Query) : Json :=
  .obj ([("query", q.clause.toJson)]
    ++ q.highlight.toList.map (("highlight", ·))
    ++ q.order.toList.map (fun o => ("sort", sortJson o))
    ++ [("size", Json.int q.size), ("_source", Json.obj [("exclude", .strings q.excluded)])]
    ++ q.offset.toList.map (fun n => ("from", Json.int n))
    ++ q.minScore.toList.map (("min_score", ·)))

end Query

/-- The query of a request, if it has a kind of search. -/
def RequestOf.compose (request : RequestOf N T D) : Except Defect Query :=
  match request.kind with
  | none => .error .missingKind
  | some kind => .ok (Query.compose kind request.presentation request.filters)

end Composing

end SearchGateway
