import Mathlib.Tactic
import SearchGateway.Search.Query

/-!
# What the engine selects

The engine's reading of queries, in the form in which they are sent.  A query is an object with the
name of its form as the only key (`Form.read?`), and `Selects` says which stored objects it selects:
one rule for each form, two for combinations.

How the engine finds words in texts, how far places are apart and which vectors are neighbours is
its own affair.  A `Judge` stands for that, and nothing is assumed about it.
-/

set_option autoImplicit false

namespace SearchGateway

/-! ## The order of numbers -/

/-- The place of a number among the rational numbers and the two infinities. -/
def Double.place? : Double → Option (WithBot (WithTop ℚ))
  | .finite negative mantissa exponent _ =>
    some ((Double.signed negative mantissa * (2 : ℚ) ^ exponent : ℚ) : WithTop ℚ)
  | .infinite negative => some (if negative then ⊥ else ⊤)
  | .nan => none

/-- The place of a JSON number. -/
def Json.place? : Json → Option (WithBot (WithTop ℚ))
  | .int n => some ((n : ℚ) : WithTop ℚ)
  | .num d => d.place?
  | _ => none

/-- Both are numbers and the first is not above the second. -/
def Json.AtMost (a b : Json) : Prop := ∃ x y, a.place? = some x ∧ b.place? = some y ∧ x ≤ y

/-- The order of binary64 numbers.  What is not a number is neither above nor below anything. -/
def Double.AtMost (a b : Double) : Prop := ∃ x y, a.place? = some x ∧ b.place? = some y ∧ x ≤ y

@[simp]
theorem Json.atMost_int (a b : ℤ) : Json.AtMost (.int a) (.int b) ↔ a ≤ b := by
  simp [AtMost, place?]

@[simp]
theorem Json.atMost_num (a b : Double) : Json.AtMost (.num a) (.num b) ↔ a.AtMost b := Iff.rfl

/-! ## Fields -/

/-- The names between the dots of a field's name. -/
def Field.segments (name : String) : List String :=
  (name.toList.splitOn '.').map String.ofList

example : Field.segments Field.classProbability = ["metadata", "classes", "probability"] := by
  decide

/-- The value that names lead to, through objects. -/
def Json.follow : List String → Json → Option Json
  | [], value => some value
  | name :: rest, value => (value.get? name).bind (follow rest)

/-- The values that a field has: those in its array, or its only one. -/
def Json.values : Json → List Json
  | .arr items => items
  | value => [value]

/-- What a query is asked about: a stored object, or an element of one of its arrays. -/
structure Scope where
  /-- The names that lead to the array; none for the object itself. -/
  path : List String
  value : Json

namespace Scope

/-- The scope of a stored object. -/
def whole (body : Json) : Scope := ⟨[], body⟩

/-- The value of a field.  Within an element only the fields below its array can be seen. -/
def field? (scope : Scope) (name : String) : Option Json :=
  ((Field.segments name).dropPrefix? scope.path).bind fun rest => scope.value.follow rest

/-- The field has the value, or an array with it. -/
def Has (scope : Scope) (name : String) (value : Json) : Prop :=
  ∃ found, scope.field? name = some found ∧ value ∈ found.values

end Scope

/-! ## Forms of queries -/

/-- A query taken apart. -/
inductive Form where
  | matchAll
  | multiMatch (text fields operator : Json)
  | term (field : String) (value : Json)
  | range (field : String) (lower upper : Option Json)
  | geoDistance (field : String) (distance centre : Json)
  | nearest (field : String) (vector amount : Json) (breadth : Option Json)
  | nested (path : String) (query : Json)
  | bool (must should filter : List Json) (least : Option Json)

namespace Form

/-- The queries under a key of a combination, none without the key. -/
def queries (body : Json) (key : String) : List Json :=
  ((body.get? key).bind Json.items?).getD []

/-- The form of a query with the given name. -/
def ofBody? (name : String) (body : Json) : Option Form :=
  match name, body with
  | "match_all", _ => some matchAll
  | "multi_match", body => do
    return multiMatch (← body.get? "query") (← body.get? "fields") (← body.get? "operator")
  | "term", .obj [(field, value)] => some (term field value)
  | "range", .obj [(field, bounds)] => some (range field (bounds.get? "gte") (bounds.get? "lte"))
  | "geo_distance", .obj fields => do
    match fields.filter (·.1 ≠ "distance") with
    | [(field, centre)] => return geoDistance field (← Json.Fields.get? fields "distance") centre
    | _ => none
  | "knn", .obj [(field, options)] => do
    return nearest field (← options.get? "vector") (← options.get? "k")
      ((options.get? "method_parameters").bind (·.get? "ef_search"))
  | "nested", body => do
    let .str path ← body.get? "path" | none
    return nested path (← body.get? "query")
  | "bool", body => some (bool (queries body "must") (queries body "should")
      (queries body "filter") (body.get? "minimum_should_match"))
  | _, _ => none

/-- The form of a query. -/
def read? : Json → Option Form
  | .obj [(name, body)] => ofBody? name body
  | _ => none

end Form

/-! ## Selection -/

/-- What the engine decides in its own ways. -/
structure Judge where
  /-- Whether the words of a text occur in fields of a stored object. -/
  mentions (text fields operator body : Json) : Prop
  /-- Whether a point is within the distance of a centre. -/
  isNear (distance centre point : Json) : Prop
  /-- Whether a vector is among the nearest to another one. -/
  isNeighbour (vector amount : Json) (breadth : Option Json) (candidate : Json) : Prop

/-- The query selects what is in scope. -/
inductive Selects (judge : Judge) : Json → Scope → Prop
  | matchAll {query : Json} {scope : Scope} (hform : Form.read? query = some .matchAll) :
      Selects judge query scope
  | multiMatch {query text fields operator : Json} {scope : Scope}
      (hform : Form.read? query = some (.multiMatch text fields operator))
      (hwords : judge.mentions text fields operator scope.value) : Selects judge query scope
  | term {query value : Json} {field : String} {scope : Scope}
      (hform : Form.read? query = some (.term field value)) (hvalue : scope.Has field value) :
      Selects judge query scope
  | range {query value : Json} {field : String} {lower upper : Option Json} {scope : Scope}
      (hform : Form.read? query = some (.range field lower upper))
      (hvalue : scope.Has field value) (hlower : ∀ bound, lower = some bound → bound.AtMost value)
      (hupper : ∀ bound, upper = some bound → value.AtMost bound) : Selects judge query scope
  | geoDistance {query distance centre point : Json} {field : String} {scope : Scope}
      (hform : Form.read? query = some (.geoDistance field distance centre))
      (hpoint : scope.field? field = some point) (hnear : judge.isNear distance centre point) :
      Selects judge query scope
  | nearest {query vector amount candidate : Json} {breadth : Option Json} {field : String}
      {scope : Scope} (hform : Form.read? query = some (.nearest field vector amount breadth))
      (hcandidate : scope.field? field = some candidate)
      (hneighbour : judge.isNeighbour vector amount breadth candidate) : Selects judge query scope
  | nested {query inner element : Json} {path : String} {scope : Scope}
      (hform : Form.read? query = some (.nested path inner)) (helement : scope.Has path element)
      (hinner : Selects judge inner ⟨Field.segments path, element⟩) : Selects judge query scope
  | conjunction {query : Json} {must filter : List Json} {scope : Scope}
      (hform : Form.read? query = some (.bool must [] filter none))
      (hmust : ∀ clause ∈ must, Selects judge clause scope)
      (hfilter : ∀ clause ∈ filter, Selects judge clause scope) : Selects judge query scope
  | disjunction {query chosen : Json} {must should filter : List Json} {scope : Scope}
      (hform : Form.read? query = some (.bool must should filter (some (.int 1))))
      (hmust : ∀ clause ∈ must, Selects judge clause scope) (hchosen : chosen ∈ should)
      (hshould : Selects judge chosen scope)
      (hfilter : ∀ clause ∈ filter, Selects judge clause scope) : Selects judge query scope

/-- What a query of the form selects. -/
def Form.Picks (judge : Judge) (scope : Scope) : Form → Prop
  | matchAll => True
  | multiMatch text fields operator => judge.mentions text fields operator scope.value
  | term field value => scope.Has field value
  | range field lower upper => ∃ value, scope.Has field value ∧
      (∀ bound, lower = some bound → bound.AtMost value) ∧
      ∀ bound, upper = some bound → value.AtMost bound
  | geoDistance field distance centre =>
      ∃ point, scope.field? field = some point ∧ judge.isNear distance centre point
  | nearest field vector amount breadth => ∃ candidate, scope.field? field = some candidate ∧
      judge.isNeighbour vector amount breadth candidate
  | nested path inner =>
      ∃ element, scope.Has path element ∧ Selects judge inner ⟨Field.segments path, element⟩
  | bool must should filter least => (∀ clause ∈ must, Selects judge clause scope) ∧
      (should = [] ∧ least = none ∨
        least = some (.int 1) ∧ ∃ chosen ∈ should, Selects judge chosen scope) ∧
      ∀ clause ∈ filter, Selects judge clause scope

/-- A query selects what its form says. -/
theorem selects_iff {judge : Judge} {scope : Scope} {query : Json} {form : Form}
    (hform : Form.read? query = some form) :
    Selects judge query scope ↔ form.Picks judge scope := by
  constructor
  · intro h
    -- Every rule reads the query, and what it reads there can only be this form.
    cases h with
    | matchAll hread =>
      cases hform.symm.trans hread
      trivial
    | multiMatch hread hwords =>
      cases hform.symm.trans hread
      exact hwords
    | term hread hvalue =>
      cases hform.symm.trans hread
      exact hvalue
    | range hread hvalue hlower hupper =>
      cases hform.symm.trans hread
      exact ⟨_, hvalue, hlower, hupper⟩
    | geoDistance hread hpoint hnear =>
      cases hform.symm.trans hread
      exact ⟨_, hpoint, hnear⟩
    | nearest hread hcandidate hneighbour =>
      cases hform.symm.trans hread
      exact ⟨_, hcandidate, hneighbour⟩
    | nested hread helement hinner =>
      cases hform.symm.trans hread
      exact ⟨_, helement, hinner⟩
    | conjunction hread hmust hfilter =>
      cases hform.symm.trans hread
      exact ⟨hmust, .inl ⟨rfl, rfl⟩, hfilter⟩
    | disjunction hread hmust hchosen hshould hfilter =>
      cases hform.symm.trans hread
      exact ⟨hmust, .inr ⟨rfl, _, hchosen, hshould⟩, hfilter⟩
  · intro h
    cases form with
    | matchAll => exact .matchAll hform
    | multiMatch => exact .multiMatch hform h
    | term => exact .term hform h
    | range =>
      obtain ⟨value, hvalue, hlower, hupper⟩ := h
      exact .range hform hvalue hlower hupper
    | geoDistance =>
      obtain ⟨point, hpoint, hnear⟩ := h
      exact .geoDistance hform hpoint hnear
    | nearest =>
      obtain ⟨candidate, hcandidate, hneighbour⟩ := h
      exact .nearest hform hcandidate hneighbour
    | nested =>
      obtain ⟨element, helement, hinner⟩ := h
      exact .nested hform helement hinner
    | bool =>
      obtain ⟨hmust, ⟨rfl, rfl⟩ | ⟨rfl, chosen, hchosen, hshould⟩, hfilter⟩ := h
      · exact .conjunction hform hmust hfilter
      · exact .disjunction hform hmust hchosen hshould hfilter

/-! ## What the clauses of the gateway select -/

namespace Clause

/-- The clauses of a list are sent as a list of queries. -/
theorem listJson_eq_map (clauses : List Clause) : listJson clauses = clauses.map toJson := by
  induction clauses with
  | nil => rfl
  | cons clause clauses ih => rw [listJson, ih, List.map_cons]

/-- The form that a clause is sent in.  The field of a place stands next to the distance, so it has
to have another name. -/
def form? : Clause → Option Form
  | matchAll => some .matchAll
  | multiMatch text fields operator =>
    some (.multiMatch (.str text) (.arr fields) (.str operator.name))
  | term field value => some (.term field value)
  | range field lower upper => some (.range field lower upper)
  | geoDistance field distance centre =>
    if field = "distance" then none
    else some (.geoDistance field (.str distance) (.numbers centre))
  | nearest field vector amount breadth =>
    some (.nearest field (.numbers vector) (.int amount) (breadth.map .int))
  | nested path _ clause => some (.nested path clause.toJson)
  | bool must should filter =>
    some (.bool (must.map toJson) (should.map toJson) (filter.map toJson)
      (if should = [] then none else some (.int 1)))

/-- A clause is read in the form that it is sent in. -/
theorem read?_toJson (clause : Clause) : Form.read? clause.toJson = clause.form? := by
  cases clause with
  | matchAll | multiMatch | term => rfl
  | range field lower upper => cases lower <;> cases upper <;> rfl
  | geoDistance field distance centre =>
    have hread : Form.read? (geoDistance field distance centre).toJson =
        match [("distance", Json.str distance), (field, .numbers centre)].filter
          (·.1 ≠ "distance") with
        | [(field, centre)] => some (.geoDistance field (.str distance) centre)
        | _ => none := rfl
    rw [hread, form?]
    by_cases hfield : field = "distance" <;> simp [hfield]
  | nearest field vector amount breadth => cases breadth <;> rfl
  | nested path mode clause => cases mode <;> rfl
  | bool must should filter =>
    simp only [form?, ← listJson_eq_map]
    cases must <;> cases should <;> rfl

variable {judge : Judge} {scope : Scope}

/-- A clause selects what its form says. -/
theorem selects_iff_picks {clause : Clause} {form : Form} (h : clause.form? = some form) :
    Selects judge clause.toJson scope ↔ form.Picks judge scope :=
  selects_iff ((read?_toJson clause).trans h)

@[simp]
theorem selects_matchAll : Selects judge (toJson .matchAll) scope := .matchAll rfl

@[simp]
theorem selects_multiMatch {text : String} {fields : List Json} {operator : MatchOperator} :
    Selects judge (toJson (.multiMatch text fields operator)) scope ↔
      judge.mentions (.str text) (.arr fields) (.str operator.name) scope.value := by
  rw [selects_iff_picks rfl, Form.Picks]

@[simp]
theorem selects_term {field : String} {value : Json} :
    Selects judge (toJson (.term field value)) scope ↔ scope.Has field value := by
  rw [selects_iff_picks rfl, Form.Picks]

@[simp]
theorem selects_range {field : String} {lower upper : Option Json} :
    Selects judge (toJson (.range field lower upper)) scope ↔
      ∃ value, scope.Has field value ∧ (∀ bound, lower = some bound → bound.AtMost value) ∧
        ∀ bound, upper = some bound → value.AtMost bound := by
  rw [selects_iff_picks rfl, Form.Picks]

/-- The field stands next to the distance, so it has to have another name. -/
theorem selects_geoDistance {field distance : String} {centre : List Double}
    (hfield : field ≠ "distance") :
    Selects judge (toJson (.geoDistance field distance centre)) scope ↔
      ∃ point, scope.field? field = some point ∧
        judge.isNear (.str distance) (.numbers centre) point := by
  have hform : (geoDistance field distance centre).form? =
      some (.geoDistance field (.str distance) (.numbers centre)) := if_neg hfield
  rw [selects_iff_picks hform, Form.Picks]

@[simp]
theorem selects_nearest {field : String} {vector : Embedding} {amount : ℤ} {breadth : Option ℤ} :
    Selects judge (toJson (.nearest field vector amount breadth)) scope ↔
      ∃ candidate, scope.field? field = some candidate ∧
        judge.isNeighbour (.numbers vector) (.int amount) (breadth.map .int) candidate := by
  rw [selects_iff_picks rfl, Form.Picks]

@[simp]
theorem selects_nested {path : String} {mode : Option String} {clause : Clause} :
    Selects judge (toJson (.nested path mode clause)) scope ↔
      ∃ element, scope.Has path element ∧
        Selects judge clause.toJson ⟨Field.segments path, element⟩ := by
  rw [selects_iff_picks rfl, Form.Picks]

@[simp]
theorem selects_bool {must should filter : List Clause} :
    Selects judge (toJson (.bool must should filter)) scope ↔
      (∀ clause ∈ must, Selects judge clause.toJson scope) ∧
      (should = [] ∨ ∃ clause ∈ should, Selects judge clause.toJson scope) ∧
      ∀ clause ∈ filter, Selects judge clause.toJson scope := by
  rw [selects_iff_picks rfl, Form.Picks]
  simp only [List.map_eq_nil_iff, List.mem_map, exists_exists_and_eq_and]
  by_cases hshould : should = [] <;> simp [hshould]

end Clause

end SearchGateway
