import SearchGateway.Proofs.Record.RoundTrip
import SearchGateway.Proofs.Search.Selection

/-!
# What stands in composed queries

A query is a tree: a combination has parts, and a nested query has one query inside.  `Stands` finds
whatever stands in a query as it is sent, together with the paths of the nested queries around it.

A composed query is made of few kinds of clauses.  `KindOf.Speaks` lists them once, each with the
paths that are around it, and nothing else stands in a composed query (`KindOf.speaks_of_stands`).
So what is true of every clause of every composed query is a case split on that list.
-/

set_option autoImplicit false

namespace SearchGateway

/-! ## Queries within queries -/

/-- A query stands within another one, in nested queries at the paths around it, the outermost path
first. -/
inductive Stands (query : Json) : List (List String) → Json → Prop
  | whole : Stands query [] query
  | nested {around : List (List String)} {clause inner : Json} {path : String}
      (h : Stands query around clause) (hform : Form.read? clause = some (.nested path inner)) :
      Stands query (around ++ [Field.segments path]) inner
  | part {around : List (List String)} {clause inner : Json} {must should filter : List Json}
      {least : Option Json} (h : Stands query around clause)
      (hform : Form.read? clause = some (.bool must should filter least))
      (hpart : inner ∈ must ++ should ++ filter) : Stands query around inner

namespace Clause

/-- Whether nothing stands within the clause but itself. -/
def isSingle : Clause → Bool
  | nested .. => false
  | bool .. => false
  | _ => true

/-- The predicate holds of a clause and of all that stands within it, below the given paths. -/
inductive Everywhere (P : List (List String) → Clause → Prop) : List (List String) → Clause → Prop
  | single {around : List (List String)} {clause : Clause} (here : P around clause)
      (hsingle : clause.isSingle = true) : Everywhere P around clause
  | nested {around : List (List String)} {path : String} {mode : Option String} {clause : Clause}
      (here : P around (.nested path mode clause))
      (inner : Everywhere P (around ++ [Field.segments path]) clause) :
      Everywhere P around (.nested path mode clause)
  | bool {around : List (List String)} {must should filter : List Clause}
      (here : P around (.bool must should filter))
      (parts : ∀ clause ∈ must ++ should ++ filter, Everywhere P around clause) :
      Everywhere P around (.bool must should filter)

variable {P Q : List (List String) → Clause → Prop} {around : List (List String)} {clause : Clause}

theorem Everywhere.here (h : clause.Everywhere P around) : P around clause := by
  cases h <;> assumption

theorem Everywhere.mono (h : clause.Everywhere P around)
    (himp : ∀ around clause, P around clause → Q around clause) : clause.Everywhere Q around := by
  induction h with
  | single here hsingle => exact .single (himp _ _ here) hsingle
  | nested here _ ih => exact .nested (himp _ _ here) ih
  | bool here _ ih => exact .bool (himp _ _ here) ih

theorem exists_of_form?_nested {path : String} {inner : Json}
    (h : clause.form? = some (.nested path inner)) :
    ∃ mode body, clause = .nested path mode body ∧ inner = body.toJson := by
  cases clause with
  | nested path mode body =>
    obtain ⟨rfl, rfl⟩ := Form.nested.inj (Option.some.inj h)
    exact ⟨mode, body, rfl, rfl⟩
  | geoDistance field => by_cases hfield : field = "distance" <;> simp [form?, hfield] at h
  | _ => cases h

theorem exists_of_form?_bool {must should filter : List Json} {least : Option Json}
    (h : clause.form? = some (.bool must should filter least)) :
    ∃ must' should' filter', clause = .bool must' should' filter' ∧
      must ++ should ++ filter = (must' ++ should' ++ filter').map toJson := by
  cases clause with
  | bool must' should' filter' =>
    obtain ⟨rfl, rfl, rfl, -⟩ := Form.bool.inj (Option.some.inj h)
    exact ⟨must', should', filter', rfl, by simp⟩
  | geoDistance field => by_cases hfield : field = "distance" <;> simp [form?, hfield] at h
  | _ => cases h

/-- **Whatever stands within a clause as it is sent is a clause that the predicate holds of.** -/
theorem Everywhere.of_stands {inner : Json} (h : clause.Everywhere P [])
    (hstands : Stands clause.toJson around inner) :
    ∃ found : Clause, inner = found.toJson ∧ found.Everywhere P around := by
  induction hstands with
  | whole => exact ⟨clause, rfl, h⟩
  | nested _ hform ih =>
    obtain ⟨outer, rfl, houter⟩ := ih
    rw [read?_toJson] at hform
    obtain ⟨mode, body, rfl, rfl⟩ := exists_of_form?_nested hform
    cases houter with
    | single _ hsingle => cases hsingle
    | nested _ hbody => exact ⟨body, rfl, hbody⟩
  | part _ hform hpart ih =>
    obtain ⟨outer, rfl, houter⟩ := ih
    rw [read?_toJson] at hform
    obtain ⟨must, should, filter, rfl, hparts⟩ := exists_of_form?_bool hform
    rw [hparts] at hpart
    obtain ⟨found, hfound, rfl⟩ := List.mem_map.mp hpart
    cases houter with
    | single _ hsingle => cases hsingle
    | bool _ hall => exact ⟨found, rfl, hall found hfound⟩

end Clause

/-! ## The clauses of filters -/

namespace FiltersOf

/-- What stands in the clauses of filters, and the paths around it. -/
inductive Speaks : List (List String) → Clause → Prop
  | created (lower upper : Option Json) : Speaks [] (.range Field.createdAt lower upper)
  | modified (lower upper : Option Json) : Speaks [] (.range Field.modifiedAt lower upper)
  | size (lower upper : Option Json) : Speaks [] (.range Field.fileSize lower upper)
  | source (value : Json) : Speaks [] (.term Field.source value)
  | semanticSource (value : Json) : Speaks [] (.term Field.semanticSource value)
  | pipeline (value : Json) : Speaks [] (.term Field.pipelines value)
  | locations (clause : Clause) : Speaks [] (.nested Field.locations none clause)
  | near (distance : String) (centre : List Double) :
      Speaks [Field.segments Field.locations] (.geoDistance Field.coordinates distance centre)
  | classes (clause : Clause) : Speaks [] (.nested Field.classes none clause)
  | conditions (clauses : List Clause) :
      Speaks [Field.segments Field.classes] (.bool [] [] clauses)
  | className (value : Json) :
      Speaks [Field.segments Field.classes] (.term Field.className value)
  | classProbability (lower upper : Option Json) :
      Speaks [Field.segments Field.classes] (.range Field.classProbability lower upper)

variable {N T D : Type}

open Clause

theorem everywhere_rangeClause [Operand N] {P : List (List String) → Clause → Prop} {field : String}
    (h : ∀ lower upper, P [] (.range field lower upper)) (lower upper : Option N) :
    ∀ clause ∈ rangeClause field lower upper, clause.Everywhere P [] := by
  unfold rangeClause
  split
  · simp
  · exact List.forall_mem_singleton.mpr (.single (h _ _) rfl)

theorem everywhere_termClause [Operand T] {P : List (List String) → Clause → Prop}
    {around : List (List String)} {field : String} (h : ∀ value, P around (.term field value))
    (value : Option T) : ∀ clause ∈ termClause field value, clause.Everywhere P around := by
  intro clause hclause
  obtain ⟨v, -, rfl⟩ := List.mem_map.mp hclause
  exact .single (h _) rfl

theorem everywhere_locationClause (filters : FiltersOf N T D) :
    ∀ clause ∈ filters.locationClause, clause.Everywhere Speaks [] := by
  intro clause hclause
  obtain ⟨centre, -, rfl⟩ := List.mem_map.mp hclause
  exact .nested (.locations _) (.single (.near _ _) rfl)

theorem everywhere_classClause [Operand T] [Operand D] (filters : FiltersOf N T D) :
    ∀ clause ∈ filters.classClause, clause.Everywhere Speaks [] := by
  have hconditions : ∀ clause ∈ filters.classConditions,
      clause.Everywhere Speaks [Field.segments Field.classes] := by
    intro clause hclause
    rcases List.mem_append.mp hclause with h | h
    · exact everywhere_termClause .className _ clause h
    · obtain ⟨p, -, rfl⟩ := List.mem_map.mp h
      exact .single (.classProbability _ _) rfl
  unfold classClause
  split
  · simp
  · exact List.forall_mem_singleton.mpr (.nested (.classes _) (.bool (.conditions _) hconditions))

/-- Nothing else stands in the clauses of filters. -/
theorem everywhere_clauses [Operand N] [Operand T] [Operand D] (filters : FiltersOf N T D) :
    ∀ clause ∈ filters.clauses, clause.Everywhere Speaks [] := by
  simp only [clauses, List.forall_mem_append]
  exact ⟨⟨⟨⟨⟨⟨⟨everywhere_rangeClause .created _ _, everywhere_rangeClause .modified _ _⟩,
    everywhere_rangeClause .size _ _⟩, everywhere_locationClause filters⟩,
    everywhere_termClause .source _⟩, everywhere_termClause .semanticSource _⟩,
    everywhere_termClause .pipeline _⟩, everywhere_classClause filters⟩

end FiltersOf

/-! ## The clauses of composed queries -/

namespace KindOf

open Clause

variable {N T D : Type}

/-- What a search looks for in the embeddings, if it does. -/
def near? : KindOf N T → Option Neighbours
  | semantic _ near => some near
  | hybrid _ near _ => some near
  | _ => none

/-- Where and how a search looks for words, if it does. -/
def wording? : KindOf N T → Option (WordingOf T)
  | fulltext _ wording => some wording
  | hybrid _ _ wording => some wording
  | _ => none

section

variable [Operand T]

/-- What stands in the query of a kind of search, and the paths around it. -/
inductive Speaks (kind : KindOf N T) : List (List String) → Clause → Prop
  | filter {around : List (List String)} {clause : Clause}
      (h : FiltersOf.Speaks around clause) : Speaks kind around clause
  | combination (must should filter : List Clause) : Speaks kind [] (.bool must should filter)
  | path (value : Json) : Speaks kind [] (.term Field.filePath value)
  | documentId (value : Json) : Speaks kind [] (.term Field.documentId value)
  | number (value : Json) : Speaks kind [] (.term Field.number value)
  | everything : Speaks kind [] .matchAll
  | words (text : String) {wording : WordingOf T} (h : kind.wording? = some wording) :
      Speaks kind [] (lexicalClause text wording)
  | neighbours {near : Neighbours} (h : kind.near? = some near) :
      Speaks kind [] (nearestClause near)
  | nearest {near : Neighbours} (h : kind.near? = some near) :
      Speaks kind [Field.segments Field.embeddings]
        (.nearest Field.vector (near.vector.getD []) near.amount near.breadth)

theorem everywhere_exactClauses [Operand N] (kind : KindOf N T) (path documentId : Option T)
    (number : Option N) :
    ∀ clause ∈ exactClauses path documentId number, clause.Everywhere kind.Speaks [] := by
  unfold exactClauses
  simp only [List.forall_mem_append]
  refine ⟨⟨FiltersOf.everywhere_termClause .path _,
    FiltersOf.everywhere_termClause .documentId _⟩, ?_⟩
  split
  · exact List.forall_mem_singleton.mpr (.single (.number _) rfl)
  · exact List.forall_mem_singleton.mpr (.single (.number _) rfl)
  · simp

theorem everywhere_nearestClause {kind : KindOf N T} {near : Neighbours}
    (h : kind.near? = some near) : (nearestClause near).Everywhere kind.Speaks [] :=
  .nested (.neighbours h) (.single (.nearest h) rfl)

end

section

variable [Operand N] [Operand T] [Operand D]

/-- **Nothing else stands in a composed query.** -/
theorem everywhere_clause (kind : KindOf N T) (filters : Option (FiltersOf N T D)) :
    (kind.clause (filterClauses filters)).Everywhere kind.Speaks [] := by
  have hfilters : ∀ clause ∈ filterClauses filters, clause.Everywhere kind.Speaks [] := by
    intro clause hclause
    cases filters with
    | none => cases hclause
    | some f => exact (f.everywhere_clauses clause hclause).mono fun _ _ => .filter
  cases kind with
  | retrieve path documentId number =>
    refine .bool (.combination _ _ _) ?_
    simp only [List.nil_append, List.forall_mem_append]
    exact ⟨everywhere_exactClauses _ _ _ _, hfilters⟩
  | fulltext text wording =>
    cases text with
    | none =>
      refine .bool (.combination _ _ _) ?_
      simp only [List.append_nil, List.forall_mem_append, List.forall_mem_singleton]
      exact ⟨.single .everything rfl, hfilters⟩
    | some text =>
      refine .bool (.combination _ _ _) ?_
      simp only [List.append_nil, List.forall_mem_append, List.forall_mem_singleton]
      exact ⟨.single (.words text rfl) rfl, hfilters⟩
  | semantic text near =>
    refine .bool (.combination _ _ _) ?_
    simp only [List.append_nil, List.forall_mem_append, List.forall_mem_singleton]
    exact ⟨everywhere_nearestClause rfl, hfilters⟩
  | hybrid text near wording =>
    refine .bool (.combination _ _ _) ?_
    simp only [List.nil_append, List.forall_mem_append, List.forall_mem_cons, List.not_mem_nil,
      false_implies, implies_true, and_true]
    exact ⟨⟨.single (.words text rfl) rfl, everywhere_nearestClause rfl⟩, hfilters⟩

/-- Whatever stands in a composed query as it is sent is one of the clauses of its kind. -/
theorem speaks_of_stands {kind : KindOf N T} {filters : Option (FiltersOf N T D)}
    {around : List (List String)} {inner : Json}
    (h : Stands (kind.clause (filterClauses filters)).toJson around inner) :
    ∃ clause : Clause, inner = clause.toJson ∧ kind.Speaks around clause := by
  obtain ⟨clause, rfl, hclause⟩ := (everywhere_clause kind filters).of_stands h
  exact ⟨clause, rfl, hclause.here⟩

end

end KindOf

/-! ## The entries of queries -/

namespace Query

variable (query : Query)

theorem get?_toJson (key : String) : query.toJson.get? key =
    (((((if "query" = key then some query.clause.toJson else none).or
      (if "highlight" = key then query.highlight.map id else none)).or
      (if "sort" = key then query.order.map sortJson else none)).or
      (if "size" = key then some (Json.int query.size)
        else if "_source" = key then some (Json.obj [("exclude", .strings query.excluded)])
        else none)).or
      (if "from" = key then query.offset.map Json.int else none)).or
      (if "min_score" = key then query.minScore.map id else none) := by
  show Association.get? key ([("query", query.clause.toJson)]
    ++ Record.stored "highlight" id query.highlight ++ Record.stored "sort" sortJson query.order
    ++ [("size", Json.int query.size), ("_source", Json.obj [("exclude", .strings query.excluded)])]
    ++ Record.stored "from" Json.int query.offset
    ++ Record.stored "min_score" id query.minScore) = _
  simp only [Association.get?_append, Record.get?_stored, Association.get?_cons]
  rfl

theorem get?_query : query.toJson.get? "query" = some query.clause.toJson := by
  simp [get?_toJson]

theorem get?_highlight : query.toJson.get? "highlight" = query.highlight := by
  simp [get?_toJson]

theorem get?_sort : query.toJson.get? "sort" = query.order.map sortJson := by
  simp [get?_toJson]

end Query

end SearchGateway
