import SearchGateway.Proofs.Index.Mapping
import SearchGateway.Proofs.Search.Standing

/-!
# What composed queries address

Every clause of a composed query is about a field, and the engine answers nothing, without a word,
if the field has another name or another type in the mapping, or if the clause does not stand in the
nested query that its field needs.  `Query.suits_mapping` says that this never happens: whatever a
request asks for, its query addresses fields that mappings declare, with a type that goes with the
clause, and inside just the nested queries that the mapping asks for.

Together with what mappings say about stored parts that makes one description of the format out of
three (`IndexSpecOf.mapping_agrees`).
-/

set_option autoImplicit false

namespace SearchGateway

/-! ## Fields and forms -/

namespace Mapping

/-- The mapping declares the field with one of the types, and the paths around it are those of the
nested fields that it lies under. -/
structure Addresses (mapping : Json) (around : List (List String)) (field : String)
    (typeNames : List String) : Prop where
  declared : ∃ typeName ∈ typeNames,
    typeOf? mapping (Field.segments field) = some (.str typeName)
  wrapped : ∀ path, path ∈ around ↔ (path <+: Field.segments field ∧ path ≠ Field.segments field) ∧
    typeOf? mapping path = some (.str "nested")

end Mapping

/-- The field that a query is about, and the types that go with the form of the query.  Words may be
looked for in several fields. -/
def Form.target? : Form → Option (String × List String)
  | term field _ => some (field, ["keyword", "long"])
  | range field _ _ => some (field, ["long", "date", "float"])
  | geoDistance field _ _ => some (field, ["geo_point"])
  | nearest field _ _ _ => some (field, ["knn_vector"])
  | nested path _ => some (path, ["nested"])
  | matchAll | multiMatch .. | bool .. => none

namespace IndexSpecOf

variable {M : Type} [Operand M] (spec : IndexSpecOf M) (pipeline : Option String)

/-- The nested fields that a field lies under. -/
def nestedAround (spec : IndexSpecOf M) (field : String) : List (List String) :=
  (Field.segments field).inits.filter fun path =>
    decide (path ≠ Field.segments field) && (spec.partType.at? path).any FieldType.isNested

theorem typeOf?_eq_nested {path : List String} :
    Mapping.typeOf? (spec.mapping pipeline) path = some (.str "nested") ↔
      (spec.partType.at? path).any FieldType.isNested = true := by
  cases path with
  | nil => exact ⟨nofun, nofun⟩
  | cons name rest =>
    rw [spec.typeOf?_mapping pipeline (List.cons_ne_nil _ _)]
    cases spec.partType.at? (name :: rest) with
    | none => simp
    | some type => cases type <;> simp [FieldType.typeName, FieldType.isNested]

theorem addresses (type : FieldType) {field : String} {typeNames : List String}
    {around : List (List String)} (htype : spec.partType.at? (Field.segments field) = some type)
    (hname : type.typeName ∈ typeNames) (haround : spec.nestedAround field = around) :
    Mapping.Addresses (spec.mapping pipeline) around field typeNames := by
  have hne : Field.segments field ≠ [] := by simp [Field.segments]
  refine ⟨⟨type.typeName, hname, ?_⟩, fun path => ?_⟩
  · rw [spec.typeOf?_mapping pipeline hne, htype, Option.map_some]
  · rw [typeOf?_eq_nested, ← haround, nestedAround, List.mem_filter, List.mem_inits,
      Bool.and_eq_true, decide_eq_true_iff, and_assoc]

end IndexSpecOf

/-! ## Queries that suit a mapping -/

/-- A composed query of the kind addresses fields that the mapping declares, with types that go with
the clauses, and in the nested queries that they need. -/
structure Mapping.Suits {N T : Type} [Operand T] (mapping : Json) (kind : KindOf N T)
    (query clause : Json) : Prop where
  sent : query.get? "query" = some clause
  clauses : ∀ around inner, Stands clause around inner →
    ∃ form, Form.read? inner = some form ∧ ∀ field typeNames,
      form.target? = some (field, typeNames) → Addresses mapping around field typeNames
  /-- Words are looked for in the fields that the request names, and else in a field for that. -/
  words : ∀ around inner text fields operator, Stands clause around inner →
    Form.read? inner = some (.multiMatch text fields operator) →
    ∃ wording, kind.wording? = some wording ∧
      (∀ names, wording.fields = some names → fields = .arr (names.map Operand.json)) ∧
      (wording.fields = none → ∃ field, fields = .strings [field] ∧
        Addresses mapping around field ["text"])
  sort : ∀ sort, query.get? "sort" = some sort →
    ∃ field options, sort = .arr [.obj [(field, options)]] ∧ Addresses mapping [] field ["date"]
  highlight : ∀ highlight, query.get? "highlight" = some highlight →
    ∃ field options, highlight = .obj [("fields", .obj [(field, options)])] ∧
      Addresses mapping [] field ["text"]

section

variable {M N T D : Type} [Operand M] (spec : IndexSpecOf M) (pipeline : Option String)

/-- The clause is read in a form whose field the mapping declares. -/
def Clause.Suits (mapping : Json) (around : List (List String)) (clause : Clause) : Prop :=
  ∃ form, clause.form? = some form ∧ ∀ field typeNames,
    form.target? = some (field, typeNames) → Mapping.Addresses mapping around field typeNames

/-- A clause about a field. -/
theorem Clause.suits (type : FieldType) {around : List (List String)} {clause : Clause}
    {form : Form} {field : String} {typeNames : List String} (hform : clause.form? = some form)
    (htarget : form.target? = some (field, typeNames))
    (htype : spec.partType.at? (Field.segments field) = some type)
    (hname : type.typeName ∈ typeNames) (haround : spec.nestedAround field = around) :
    clause.Suits (spec.mapping pipeline) around := by
  refine ⟨form, hform, fun other others hother => ?_⟩
  obtain ⟨rfl, rfl⟩ := Prod.mk.inj (Option.some.inj (htarget.symm.trans hother))
  exact spec.addresses pipeline type htype hname haround

theorem FiltersOf.Speaks.suits {around : List (List String)} {clause : Clause}
    (h : FiltersOf.Speaks around clause) : clause.Suits (spec.mapping pipeline) around := by
  cases h with
  | created | modified =>
    exact Clause.suits spec pipeline .seconds rfl rfl rfl (by decide) rfl
  | size => exact Clause.suits spec pipeline .long rfl rfl rfl (by decide) rfl
  | source | semanticSource | pipeline | className =>
    exact Clause.suits spec pipeline .keyword rfl rfl rfl (by decide) rfl
  | locations | classes =>
    exact Clause.suits spec pipeline (.nested _) rfl rfl rfl (by decide) rfl
  | near => exact Clause.suits spec pipeline .geoPoint rfl rfl rfl (by decide) rfl
  | classProbability => exact Clause.suits spec pipeline .float rfl rfl rfl (by decide) rfl
  | conditions => exact ⟨_, rfl, nofun⟩

theorem KindOf.Speaks.suits [Operand T] {kind : KindOf N T} {around : List (List String)}
    {clause : Clause} (h : kind.Speaks around clause) :
    clause.Suits (spec.mapping pipeline) around := by
  cases h with
  | filter h => exact h.suits spec pipeline
  | path | documentId =>
    exact Clause.suits spec pipeline .keyword rfl rfl rfl (by decide) rfl
  | number => exact Clause.suits spec pipeline .long rfl rfl rfl (by decide) rfl
  | neighbours =>
    exact Clause.suits spec pipeline (.nested _) rfl rfl rfl (List.mem_singleton.mpr rfl) rfl
  | nearest =>
    exact Clause.suits spec pipeline (.vector _) rfl rfl rfl (List.mem_singleton.mpr rfl) rfl
  | combination | everything | words => exact ⟨_, rfl, nofun⟩

/-- Only for words a query has several fields, which are those of the request or the content. -/
theorem KindOf.Speaks.fields_eq [Operand T] {kind : KindOf N T} {around : List (List String)}
    {clause : Clause} (h : kind.Speaks around clause) {text fields operator : Json}
    (hform : clause.form? = some (.multiMatch text fields operator)) :
    around = [] ∧ ∃ wording, kind.wording? = some wording ∧
      fields = .arr ((wording.fields.map (·.map Operand.json)).getD [.str Field.content]) := by
  cases h with
  | filter h => cases h <;> cases hform
  | words words hwording =>
    obtain ⟨-, rfl, -⟩ := Form.multiMatch.inj (Option.some.inj hform)
    exact ⟨rfl, _, hwording, rfl⟩
  | _ => cases hform

variable [Operand N] [Operand T] [Operand D]

/-- **A composed query suits every mapping.** -/
theorem Query.suits_mapping (kind : KindOf N T) (p : PresentationOf T D)
    (filters : Option (FiltersOf N T D)) :
    Mapping.Suits (spec.mapping pipeline) kind (Query.compose kind p filters).toJson
      (kind.clause (filterClauses filters)).toJson := by
  have hcontent : Mapping.Addresses (spec.mapping pipeline) [] Field.content ["text"] :=
    spec.addresses pipeline .text rfl (by decide) rfl
  refine ⟨Query.get?_query _, ?_, ?_, ?_, ?_⟩
  · intro around inner hstands
    obtain ⟨clause, rfl, hspeaks⟩ := KindOf.speaks_of_stands hstands
    obtain ⟨form, hform, htarget⟩ := hspeaks.suits spec pipeline
    exact ⟨form, (Clause.read?_toJson clause).trans hform, htarget⟩
  · intro around inner text fields operator hstands hread
    obtain ⟨clause, rfl, hspeaks⟩ := KindOf.speaks_of_stands hstands
    rw [Clause.read?_toJson] at hread
    obtain ⟨rfl, wording, hwording, rfl⟩ := hspeaks.fields_eq hread
    refine ⟨wording, hwording, fun names hnames => ?_, fun hnone => ?_⟩
    · rw [hnames]
      rfl
    · rw [hnone]
      exact ⟨Field.content, rfl, hcontent⟩
  · intro sort hsort
    rw [Query.get?_sort, Option.map_eq_some_iff] at hsort
    obtain ⟨order, -, rfl⟩ := hsort
    exact ⟨Field.createdAt, _, rfl, spec.addresses pipeline .seconds rfl (by decide) rfl⟩
  · intro highlight hhighlight
    rw [Query.get?_highlight, Query.compose, Option.ite_none_right_eq_some] at hhighlight
    obtain ⟨-, hhighlight⟩ := hhighlight
    obtain rfl := Option.some.inj hhighlight
    exact ⟨Field.content, _, rfl, hcontent⟩

/-- **Mappings, stored parts and composed queries agree.**  Whatever the index and its pipeline, the
mapping describes the stored form of every part, it declares just those paths nested where parts
have arrays of objects, and the query of every request suits it. -/
theorem IndexSpecOf.mapping_agrees (part : Part) (path : List String) (indexes : List String)
    (kind : KindOf N T) (p : PresentationOf T D) (filters : Option (FiltersOf N T D)) :
    Mapping.Describes (spec.mapping pipeline) (Record.ofPart part).toJson ∧
      (Mapping.typeOf? (spec.mapping pipeline) path = some (.str "nested") ↔
        ∃ (part : Part) (items : List Json) (fields : Json.Fields),
          .arr items ∈ (Record.ofPart part).toJson.along path ∧ .obj fields ∈ items) ∧
      ∃ query clause, RequestOf.compose ⟨indexes, some kind, p, filters⟩ = .ok query ∧
        Mapping.Suits (spec.mapping pipeline) kind query.toJson clause :=
  ⟨spec.describes_part pipeline part, spec.isNested_iff pipeline path, _, _, rfl,
    Query.suits_mapping spec pipeline kind p filters⟩

end

end SearchGateway
