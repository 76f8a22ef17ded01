import SearchGateway.Proofs.Record.RoundTrip
import SearchGateway.Proofs.Search.Selection

/-!
# What composed queries mean

A request says which parts it is about: `KindOf.Admits` and `FiltersOf.Admits` put that down in
terms of parts, without any query.  The query that the request is composed to selects the stored
form of a part if and only if the request admits the part (`Query.selects_iff_admits`).
-/

set_option autoImplicit false

namespace SearchGateway

/-! ## What requests ask for -/

section Asking

variable (judge : Judge) (part : Part)

/-- Some embedding of the part is among the nearest. -/
def Neighbours.Admits (near : Neighbours) : Prop :=
  ∃ vectors ∈ part.embeddings, ∃ vector ∈ vectors,
    judge.isNeighbour (.numbers (near.vector.getD [])) (.int near.amount) (near.breadth.map .int)
      (.numbers vector)

/-- The words of the text occur in the part, in its content if no fields are named. -/
def WordingOf.Admits (wording : Wording) (text : String) : Prop :=
  judge.mentions (.str text) (.strings (wording.fields.getD ["content"]))
    (.str wording.operator.name) (Record.ofPart part).toJson

/-- What a kind of search asks of a part. -/
def KindOf.Admits : Kind → Prop
  | .retrieve path documentId number =>
    (∀ value, path = some value → part.file.path = value) ∧
      (∀ value, documentId = some value → part.documentId = value) ∧
      (∀ value, number = some value → part.number = value) ∧
      (documentId = none → number = none → part.number = 0)
  | .fulltext text wording => ∀ words, text = some words → wording.Admits judge part words
  | .semantic _ near => near.Admits judge part
  | .hybrid text near wording => wording.Admits judge part text ∨ near.Admits judge part

/-- The bounds that are given hold, both inclusive. -/
def IsWithin (lower upper : Option ℤ) (value : ℤ) : Prop :=
  (∀ bound, lower = some bound → bound ≤ value) ∧ ∀ bound, upper = some bound → value ≤ bound

/-- What the filters of a request ask of a part. -/
structure FiltersOf.Admits (filters : Filters) : Prop where
  created : IsWithin filters.createdFrom filters.createdTo part.file.createdAt
  modified : IsWithin filters.modifiedFrom filters.modifiedTo part.file.modifiedAt
  size : IsWithin filters.sizeFrom filters.sizeTo part.file.size
  /-- Some location is within the distance, which is five kilometres unless one is given. -/
  location : ∀ centre, filters.centre = some centre → ∃ distance,
    (filters.distance = some distance ∧ distance ≠ "" ∨
      (filters.distance = none ∨ filters.distance = some "") ∧ distance = "5km") ∧
    ∃ metadata ∈ part.metadata, ∃ location ∈ metadata.locations, judge.isNear (.str distance)
      (.numbers centre) (.numbers [location.longitude, location.latitude])
  source : ∀ value, filters.source = some value →
    ∃ metadata ∈ part.metadata, metadata.source = some value
  semanticSource : ∀ value, filters.semanticSource = some value →
    ∃ metadata ∈ part.metadata, metadata.semanticSource = some value
  pipeline : ∀ label, filters.pipelineLabel = some label →
    ∃ metadata ∈ part.metadata, label ∈ metadata.pipelines
  /-- A single class has the name and the probability that are asked for. -/
  classified : (filters.classLabel.isSome ∨ filters.classProbability.isSome) →
    ∃ metadata ∈ part.metadata, ∃ found ∈ metadata.classes,
      (∀ label, filters.classLabel = some label → found.name = label) ∧
      ∀ bound, filters.classProbability = some bound → bound.AtMost found.probability

end Asking

/-! ## The fields of stored parts -/

namespace Scope

/-- A field with a value that is no array has that value alone. -/
theorem has_iff_eq {scope : Scope} {name : String} {value found : Json}
    (h : scope.field? name = some found) (hsingle : found.values = [found]) :
    scope.Has name value ↔ value = found := by
  simp [Has, h, hsingle]

variable (part : Part)

/-- The scope of the stored form of a part. -/
def ofPart : Scope := whole (Record.ofPart part).toJson

theorem field?_ofPart (name : String) : (ofPart part).field? name =
    (Record.ofPart part).toJson.follow (Field.segments name) := by
  rw [ofPart, field?, whole, List.dropPrefix?_nil]
  rfl

theorem has_embeddings {value : Json} : (ofPart part).Has Field.embeddings value ↔
    ∃ vectors ∈ part.embeddings, ∃ vector ∈ vectors, value = Record.embeddingJson vector := by
  have hfield : (ofPart part).field? Field.embeddings =
      part.embeddings.map fun vectors => .arr (vectors.map Record.embeddingJson) := by
    show ((Record.ofPart part).toFields.get? "embeddings").bind _ = _
    rw [Record.get?_toFields]
    cases h : part.embeddings with
    | none => simp [Record.ofPart, h]
    | some vectors => simp [Record.ofPart, h, Json.follow]
  cases hvectors : part.embeddings with
  | none => simp [Has, hfield, hvectors]
  | some vectors => simp [Has, hfield, hvectors, Json.values, eq_comm]

/-- A field of the metadata is looked up in the metadata, if the part has any. -/
theorem has_metadata {name key : String} {value : Json} {toJson : Metadata → Json}
    (hname : Field.segments name = ["metadata", key])
    (hkey : ∀ metadata, Json.Fields.get? metadata.toFields key = some (toJson metadata)) :
    (ofPart part).Has name value ↔
      ∃ metadata ∈ part.metadata, value ∈ (toJson metadata).values := by
  have hmetadata : (Record.ofPart part).toJson.get? "metadata" =
      part.metadata.map fun metadata => .obj metadata.toFields := by
    show (Record.ofPart part).toFields.get? "metadata" = _
    rw [Record.get?_toFields]
    cases h : part.metadata <;> simp [Record.ofPart, h]
  -- The key is always there: values that are absent are stored as `null`.
  have hfield : (ofPart part).field? name = part.metadata.map toJson := by
    rw [field?_ofPart, hname, Json.follow, hmetadata]
    cases part.metadata with
    | none => rfl
    | some metadata =>
      show (Json.Fields.get? metadata.toFields key).bind _ = _
      rw [hkey]
      rfl
  cases hpart : part.metadata <;> simp [Has, hfield, hpart]

theorem mem_values_ofOption {text : Option String} {value : String} :
    Json.str value ∈ (Json.ofOption .str text).values ↔ text = some value := by
  cases text <;> simp [Json.ofOption, Json.values, eq_comm]

theorem has_source {value : String} : (ofPart part).Has Field.source (.str value) ↔
    ∃ metadata ∈ part.metadata, metadata.source = some value := by
  rw [has_metadata part (by rfl) fun _ => rfl]
  simp only [mem_values_ofOption]

theorem has_semanticSource {value : String} :
    (ofPart part).Has Field.semanticSource (.str value) ↔
      ∃ metadata ∈ part.metadata, metadata.semanticSource = some value := by
  rw [has_metadata part (by rfl) fun _ => rfl]
  simp only [mem_values_ofOption]

theorem has_pipelines {value : String} : (ofPart part).Has Field.pipelines (.str value) ↔
    ∃ metadata ∈ part.metadata, value ∈ metadata.pipelines := by
  rw [has_metadata part (by rfl) fun _ => rfl]
  simp [Json.strings, Json.values]

theorem has_locations {value : Json} : (ofPart part).Has Field.locations value ↔
    ∃ metadata ∈ part.metadata, ∃ location ∈ metadata.locations,
      value = (StoredLocation.ofLocation location).toJson := by
  rw [has_metadata part (by rfl) fun _ => rfl]
  simp [Json.values, eq_comm]

theorem has_classes {value : Json} : (ofPart part).Has Field.classes value ↔
    ∃ metadata ∈ part.metadata, ∃ found ∈ metadata.classes, value = found.toJson := by
  rw [has_metadata part (by rfl) fun _ => rfl]
  simp [Json.values, eq_comm]

end Scope

/-! ## What the clauses of filters select -/

namespace FiltersOf

open Clause

variable {judge : Judge} {part : Part}

theorem forall_mem_rangeClause {scope : Scope} {field : String} {lower upper : Option ℤ}
    {value : ℤ} (hfield : scope.field? field = some (.int value)) :
    (∀ clause ∈ rangeClause field lower upper, Selects judge clause.toJson scope) ↔
      IsWithin lower upper value := by
  have hhas (found : Json) : scope.Has field found ↔ found = .int value :=
    Scope.has_iff_eq hfield rfl
  unfold rangeClause IsWithin
  cases lower <;> cases upper <;> simp [hhas]

theorem forall_mem_termClause {T : Type} [Operand T] {scope : Scope} {field : String}
    {value : Option T} :
    (∀ clause ∈ termClause field value, Selects judge clause.toJson scope) ↔
      ∀ v, value = some v → scope.Has field (Operand.json v) := by
  unfold termClause
  cases value <;> simp

theorem forall_mem_locationClause (filters : Filters) :
    (∀ clause ∈ filters.locationClause, Selects judge clause.toJson (.ofPart part)) ↔
      ∀ centre, filters.centre = some centre → ∃ metadata ∈ part.metadata,
        ∃ location ∈ metadata.locations, judge.isNear (.str filters.reach) (.numbers centre)
          (.numbers [location.longitude, location.latitude]) := by
  have hpoint (location : Location) : Scope.field? ⟨Field.segments Field.locations,
      (StoredLocation.ofLocation location).toJson⟩ Field.coordinates =
        some (.numbers [location.longitude, location.latitude]) := rfl
  unfold locationClause
  cases filters.centre with
  | none => simp
  | some centre =>
    simp only [Option.toList_some, List.map_cons, List.map_nil, List.forall_mem_singleton,
      Option.some.injEq, forall_eq', selects_nested, Scope.has_locations,
      selects_geoDistance (show Field.coordinates ≠ "distance" by decide)]
    constructor
    · rintro ⟨_, ⟨metadata, hmetadata, location, hlocation, rfl⟩, point, hfound, hnear⟩
      obtain rfl := Option.some.inj ((hpoint location).symm.trans hfound)
      exact ⟨metadata, hmetadata, location, hlocation, hnear⟩
    · rintro ⟨metadata, hmetadata, location, hlocation, hnear⟩
      exact ⟨_, ⟨metadata, hmetadata, location, hlocation, rfl⟩, _, hpoint location, hnear⟩

/-- The conditions on a class, asked about one of them. -/
theorem forall_mem_classConditions (filters : Filters) (found : Classification) :
    (∀ clause ∈ filters.classConditions,
      Selects judge clause.toJson ⟨Field.segments Field.classes, found.toJson⟩) ↔
      (∀ label, filters.classLabel = some label → found.name = label) ∧
        ∀ bound, filters.classProbability = some bound → bound.AtMost found.probability := by
  have hname (value : Json) : Scope.Has ⟨Field.segments Field.classes, found.toJson⟩
      Field.className value ↔ value = .str found.name := Scope.has_iff_eq rfl rfl
  have hprobability (value : Json) : Scope.Has ⟨Field.segments Field.classes, found.toJson⟩
      Field.classProbability value ↔ value = .num found.probability := Scope.has_iff_eq rfl rfl
  unfold classConditions
  rw [List.forall_mem_append, forall_mem_termClause]
  refine and_congr ?_ ?_
  · simp only [Operand.json_string, hname, Json.str.injEq, eq_comm]
  · cases filters.classProbability <;> simp [hprobability]

theorem forall_mem_classClause (filters : Filters) :
    (∀ clause ∈ filters.classClause, Selects judge clause.toJson (.ofPart part)) ↔
      (filters.classLabel.isSome ∨ filters.classProbability.isSome →
        ∃ metadata ∈ part.metadata, ∃ found ∈ metadata.classes,
          (∀ label, filters.classLabel = some label → found.name = label) ∧
          ∀ bound, filters.classProbability = some bound → bound.AtMost found.probability) := by
  have hasked : filters.classConditions.isEmpty = false ↔
      filters.classLabel.isSome ∨ filters.classProbability.isSome := by
    unfold classConditions termClause
    cases filters.classLabel <;> cases filters.classProbability <;> simp
  unfold classClause
  rw [← hasked]
  cases hempty : filters.classConditions.isEmpty with
  | true => simp
  | false =>
    -- One nested clause holds all conditions, so that a single class has to satisfy them.
    simp only [Bool.false_eq_true, if_false, List.forall_mem_singleton, selects_nested,
      selects_bool, List.not_mem_nil, false_implies, implies_true, true_or, true_and,
      Scope.has_classes, forall_const]
    constructor
    · rintro ⟨_, ⟨metadata, hmetadata, found, hfound, rfl⟩, hconditions⟩
      exact ⟨metadata, hmetadata, found, hfound,
        (forall_mem_classConditions filters found).mp hconditions⟩
    · rintro ⟨metadata, hmetadata, found, hfound, hconditions⟩
      exact ⟨_, ⟨metadata, hmetadata, found, hfound, rfl⟩,
        (forall_mem_classConditions filters found).mpr hconditions⟩

theorem reach_eq (filters : Filters) (distance : String) : filters.reach = distance ↔
    filters.distance = some distance ∧ distance ≠ "" ∨
      (filters.distance = none ∨ filters.distance = some "") ∧ distance = "5km" := by
  unfold reach defaultDistance
  cases filters.distance with
  | none => simp [eq_comm]
  | some given =>
    by_cases hgiven : given = ""
    · subst hgiven
      constructor
      · rintro rfl
        exact .inr ⟨.inr rfl, rfl⟩
      · rintro (⟨hsome, hne⟩ | ⟨-, rfl⟩)
        · exact absurd (Option.some.inj hsome).symm hne
        · rfl
    · have hempty : given.isEmpty = false := by simpa using hgiven
      simp only [hempty, hgiven, Bool.false_eq_true, if_false, Option.some.injEq, reduceCtorEq,
        or_self, false_and, or_false]
      refine ⟨?_, And.left⟩
      rintro rfl
      exact ⟨rfl, hgiven⟩

/-- **The clauses of filters select the parts that the filters admit.** -/
theorem forall_mem_clauses (filters : Filters) :
    (∀ clause ∈ filters.clauses, Selects judge clause.toJson (.ofPart part)) ↔
      filters.Admits judge part := by
  have hcreated : (Scope.ofPart part).field? Field.createdAt =
      some (.int part.file.createdAt) := rfl
  have hmodified : (Scope.ofPart part).field? Field.modifiedAt =
      some (.int part.file.modifiedAt) := rfl
  have hsize : (Scope.ofPart part).field? Field.fileSize = some (.int part.file.size) := rfl
  unfold clauses
  simp only [List.forall_mem_append]
  rw [forall_mem_rangeClause hcreated, forall_mem_rangeClause hmodified,
    forall_mem_rangeClause hsize, forall_mem_locationClause, forall_mem_termClause,
    forall_mem_termClause, forall_mem_termClause, forall_mem_classClause]
  simp only [Operand.json_string, Scope.has_source, Scope.has_semanticSource, Scope.has_pipelines]
  constructor
  · rintro ⟨⟨⟨⟨⟨⟨⟨hcreated, hmodified⟩, hsize⟩, hlocation⟩, hsource⟩, hsemantic⟩, hpipeline⟩,
      hclass⟩
    refine ⟨hcreated, hmodified, hsize, ?_, hsource, hsemantic, hpipeline, hclass⟩
    intro centre hcentre
    exact ⟨_, (reach_eq filters _).mp rfl, hlocation centre hcentre⟩
  · intro h
    refine ⟨⟨⟨⟨⟨⟨⟨h.created, h.modified⟩, h.size⟩, ?_⟩, h.source⟩, h.semanticSource⟩, h.pipeline⟩,
      h.classified⟩
    intro centre hcentre
    obtain ⟨distance, hdistance, hnear⟩ := h.location centre hcentre
    obtain rfl := (reach_eq filters distance).mpr hdistance
    exact hnear

end FiltersOf

/-! ## What composed queries select -/

namespace KindOf

open Clause FiltersOf

variable {judge : Judge} {part : Part}

theorem forall_mem_exactClauses (path documentId : Option String) (number : Option ℤ) :
    (∀ clause ∈ exactClauses path documentId number,
      Selects judge clause.toJson (.ofPart part)) ↔
      (retrieve path documentId number : Kind).Admits judge part := by
  have hpath (value : Json) : (Scope.ofPart part).Has Field.filePath value ↔
      value = .str part.file.path := Scope.has_iff_eq rfl rfl
  have hid (value : Json) : (Scope.ofPart part).Has Field.documentId value ↔
      value = .str part.documentId := Scope.has_iff_eq rfl rfl
  have hnumber (value : Json) : (Scope.ofPart part).Has Field.number value ↔
      value = .int part.number := Scope.has_iff_eq rfl rfl
  unfold exactClauses Admits
  rw [List.forall_mem_append, List.forall_mem_append, forall_mem_termClause,
    forall_mem_termClause, and_assoc]
  simp only [Operand.json_string, hpath, hid, Json.str.injEq, eq_comm (a := part.file.path),
    eq_comm (a := part.documentId)]
  refine and_congr_right' (and_congr_right' ?_)
  cases number with
  | none => cases documentId <;> simp [hnumber, eq_comm]
  | some n => simp [hnumber, eq_comm]

theorem selects_lexicalClause (text : String) (wording : Wording) :
    Selects judge (lexicalClause text wording).toJson (.ofPart part) ↔
      wording.Admits judge part text := by
  unfold lexicalClause WordingOf.Admits
  rw [selects_multiMatch]
  cases wording.fields <;> rfl

theorem selects_nearestClause (near : Neighbours) :
    Selects judge (nearestClause near).toJson (.ofPart part) ↔ near.Admits judge part := by
  have hvector (vector : Embedding) : Scope.field? ⟨Field.segments Field.embeddings,
      Record.embeddingJson vector⟩ Field.vector = some (.numbers vector) := rfl
  unfold nearestClause Neighbours.Admits
  simp only [selects_nested, selects_nearest, Scope.has_embeddings]
  constructor
  · rintro ⟨_, ⟨vectors, hvectors, vector, hmem, rfl⟩, candidate, hfound, hnear⟩
    obtain rfl := Option.some.inj ((hvector vector).symm.trans hfound)
    exact ⟨vectors, hvectors, vector, hmem, hnear⟩
  · rintro ⟨vectors, hvectors, vector, hmem, hnear⟩
    exact ⟨_, ⟨vectors, hvectors, vector, hmem, rfl⟩, _, hvector vector, hnear⟩

/-- **The clause of a kind of search selects the parts that the kind and the filters admit.** -/
theorem selects_clause (kind : Kind) (filters : List Clause) :
    Selects judge (kind.clause filters).toJson (.ofPart part) ↔
      kind.Admits judge part ∧
        ∀ clause ∈ filters, Selects judge clause.toJson (.ofPart part) := by
  cases kind with
  | retrieve path documentId number =>
    rw [← forall_mem_exactClauses, ← List.forall_mem_append, clause, selects_bool]
    simp
  | fulltext text wording =>
    cases text with
    | none => simp [clause, Admits]
    | some text => simp [clause, Admits, selects_lexicalClause]
  | semantic text near => simp [clause, Admits, selects_nearestClause]
  | hybrid text near wording =>
    simp [clause, Admits, selects_lexicalClause, selects_nearestClause]

end KindOf

/-- **What a composed query means.**  It selects the stored form of a part if and only if the part
is one that the kind of search and all its filters ask for. -/
theorem Query.selects_iff_admits (judge : Judge) (indexes : List String) (kind : Kind)
    (presentation : Presentation) (filters : Option Filters) (part : Part) :
    ∃ query clause,
      RequestOf.compose ⟨indexes, some kind, presentation, filters⟩ = .ok query ∧
      query.toJson.get? "query" = some clause ∧
      (Selects judge clause (.whole (Record.ofPart part).toJson) ↔
        kind.Admits judge part ∧ ∀ f, filters = some f → f.Admits judge part) := by
  refine ⟨_, _, rfl, rfl, ?_⟩
  rw [← Scope.ofPart, Query.compose, KindOf.selects_clause]
  refine and_congr_right' ?_
  cases filters with
  | none => simp [filterClauses]
  | some f => simp [filterClauses, FiltersOf.forall_mem_clauses]

end SearchGateway
