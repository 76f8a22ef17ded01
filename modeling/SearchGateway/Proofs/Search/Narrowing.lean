import SearchGateway.Proofs.Search.Standing

/-!
# Filters narrow a search and do nothing else

The filters of a request have one place in the query that it is composed to, the `filter` of its
outermost combination.  `Query.narrows` says that this is all there is of them: queries of requests
that differ in their filters differ in this place only, where each has the clauses of its own
filters behind those of the kind of search.  Scores, order, projection and highlights come from
elsewhere, so filters cannot change them; what the query selects comes from the kind and the filters
alone, so the presentation cannot change that.
-/

set_option autoImplicit false

namespace SearchGateway

/-! ## Places in JSON values -/

namespace Json

/-- The value with another one in the place that names lead to, through objects.  Names that lead
nowhere change nothing. -/
def withAt : List String → Json → Json → Json
  | [], new, _ => new
  | name :: rest, new, .obj fields =>
    .obj (fields.map fun (key, value) =>
      if key = name then (key, withAt rest new value) else (key, value))
  | _ :: _, _, value => value

/-- The values are the same but for what they have in the place that the names lead to: with any
value put there they are equal. -/
def SameBut (path : List String) (a b : Json) : Prop := ∀ new, withAt path new a = withAt path new b

/-- Objects with the same entries but one, which differ in a place below it. -/
theorem SameBut.cons {path : List String} {a b : Json} (h : SameBut path a b) (name : String)
    (before after : Fields) : SameBut (name :: path)
      (.obj (before ++ (name, a) :: after)) (.obj (before ++ (name, b) :: after)) := by
  intro new
  simp only [withAt, List.map_append, List.map_cons, if_true, h new]

theorem sameBut_nil (a b : Json) : SameBut [] a b := fun _ => rfl

/-- Names lead on from the only entry with the first of them. -/
theorem follow_cons {name : String} {rest : List String} {fields : Fields} {value : Json}
    (h : fields.get? name = some value) :
    follow (name :: rest) (.obj fields) = follow rest value := by
  show ((Json.obj fields).get? name).bind (follow rest) = _
  rw [Json.get?, fields?, Option.bind_some, h, Option.bind_some]

end Json

/-! ## The clauses of a kind and those of the filters -/

namespace KindOf

variable {N T : Type} [Operand N] [Operand T]

/-- The conditions of a kind of search that stand next to those of the filters. -/
def ownClauses : KindOf N T → List Clause
  | retrieve path documentId number => exactClauses path documentId number
  | _ => []

/-- What a kind of search puts into its combination besides the filters: the conditions that all
have to hold, and those of which one has to. -/
def scored : KindOf N T → List Clause × List Clause
  | retrieve .. => ([], [])
  | fulltext none _ => ([.matchAll], [])
  | fulltext (some text) wording => ([lexicalClause text wording], [])
  | semantic _ near => ([nearestClause near], [])
  | hybrid text near wording => ([], [lexicalClause text wording, nearestClause near])

theorem clause_eq (kind : KindOf N T) (filters : List Clause) :
    kind.clause filters = .bool kind.scored.1 kind.scored.2 (kind.ownClauses ++ filters) := by
  rcases kind with _ | ⟨_ | _⟩ | _ | _ <;> rfl

end KindOf

namespace Clause

/-- The entries of a combination before its `filter`. -/
def scoredFields (must should : List Clause) : Json.Fields :=
  (if must.isEmpty then [] else [("must", .arr (listJson must))])
    ++ if should.isEmpty then []
      else [("should", .arr (listJson should)), ("minimum_should_match", .int 1)]

theorem toJson_bool (must should filter : List Clause) : (bool must should filter).toJson =
    .obj [("bool", .obj (scoredFields must should ++ [("filter", .arr (filter.map toJson))]))] := by
  rw [toJson, listJson_eq_map filter]
  rfl

/-- Combinations of the same clauses under other filters. -/
theorem sameBut_bool (must should filter other : List Clause) : Json.SameBut ["bool", "filter"]
    (bool must should filter).toJson (bool must should other).toJson := by
  rw [toJson_bool, toJson_bool]
  have hfilter := (Json.sameBut_nil (.arr (filter.map toJson)) (.arr (other.map toJson))).cons
    "filter" (scoredFields must should) []
  exact hfilter.cons "bool" [] []

theorem follow_bool (must should filter : List Clause) :
    (bool must should filter).toJson.follow ["bool", "filter"] =
      some (.arr (filter.map toJson)) := by
  have hfields : Json.Fields.get?
      (scoredFields must should ++ [("filter", .arr (filter.map toJson))]) "filter" =
      some (.arr (filter.map toJson)) := by
    rw [Json.Fields.get?, Association.get?_append, scoredFields]
    cases must <;> cases should <;> rfl
  rw [toJson_bool, Json.follow_cons rfl, Json.follow_cons hfields]
  rfl

end Clause

/-! ## Composed queries -/

namespace Query

variable {N T D : Type} [Operand N] [Operand T] [Operand D]

/-- Where the filters stand in a query. -/
def filterPath : List String := ["query", "bool", "filter"]

/-- The entries of a query behind its clause. -/
def furtherFields (query : Query) : Json.Fields :=
  query.highlight.toList.map (("highlight", ·))
    ++ query.order.toList.map (fun o => ("sort", sortJson o))
    ++ [("size", .int query.size), ("_source", .obj [("exclude", .strings query.excluded)])]
    ++ query.offset.toList.map (fun n => ("from", .int n))
    ++ query.minScore.toList.map (("min_score", ·))

theorem toJson_eq (query : Query) :
    query.toJson = .obj (("query", query.clause.toJson) :: query.furtherFields) := by
  simp [toJson, furtherFields]

/-- Nothing behind the clause comes from the filters. -/
theorem furtherFields_compose (kind : KindOf N T) (p : PresentationOf T D)
    (f g : Option (FiltersOf N T D)) :
    (compose kind p f).furtherFields = (compose kind p g).furtherFields := rfl

theorem sameBut_compose (kind : KindOf N T) (p : PresentationOf T D)
    (f g : Option (FiltersOf N T D)) :
    Json.SameBut filterPath (compose kind p f).toJson (compose kind p g).toJson := by
  have hclause : Json.SameBut ["bool", "filter"] (compose kind p f).clause.toJson
      (compose kind p g).clause.toJson := by
    simp only [compose, KindOf.clause_eq]
    exact Clause.sameBut_bool _ _ _ _
  rw [toJson_eq, toJson_eq, furtherFields_compose kind p f g]
  exact hclause.cons "query" [] _

theorem follow_compose (kind : KindOf N T) (p : PresentationOf T D)
    (f : Option (FiltersOf N T D)) : (compose kind p f).toJson.follow filterPath =
      some (.arr ((kind.ownClauses ++ filterClauses f).map Clause.toJson)) := by
  have hquery := get?_query (compose kind p f)
  rw [filterPath, Json.follow, hquery, Option.bind_some]
  simp only [compose, KindOf.clause_eq]
  exact Clause.follow_bool _ _ _

/-- **Filters narrow a search and do nothing else.**  Requests that differ in their filters alone
are composed to queries that are the same but for the filters of the outermost combination, where
each has the clauses of its kind and then those of its own filters, and nothing else.  Requests that
differ in how the hits are presented have the same clause, and it selects what the kind of search
selects by itself and what satisfies every filter. -/
theorem narrows (indexes : List String) (kind : KindOf N T) (p p' : PresentationOf T D)
    (f g : Option (FiltersOf N T D)) :
    RequestOf.compose ⟨indexes, some kind, p, f⟩ = .ok (compose kind p f) ∧
    Json.SameBut filterPath (compose kind p f).toJson (compose kind p g).toJson ∧
    (compose kind p f).toJson.follow filterPath =
      some (.arr ((kind.ownClauses ++ filterClauses f).map Clause.toJson)) ∧
    ∃ clause alone : Json,
      (compose kind p f).toJson.get? "query" = some clause ∧
      (compose kind p' f).toJson.get? "query" = some clause ∧
      (compose (N := N) kind p none).toJson.get? "query" = some alone ∧
      ∀ judge scope, Selects judge clause scope ↔
        Selects judge alone scope ∧ ∀ c ∈ filterClauses f, Selects judge c.toJson scope := by
  refine ⟨rfl, sameBut_compose kind p f g, follow_compose kind p f, _, _, get?_query _,
    get?_query _, get?_query _, fun judge scope => ?_⟩
  simp only [compose, KindOf.clause_eq, Clause.selects_bool, List.forall_mem_append,
    filterClauses, List.not_mem_nil, false_implies, implies_true, and_true, and_assoc]

end Query

end SearchGateway
