import SearchGateway.Index.Mapping
import SearchGateway.Proofs.Record.RoundTrip
import SearchGateway.Proofs.Search.Selection

/-!
# What mappings say about stored parts

A mapping is read in the form in which it is sent: `Mapping.typeOf?` is the type that it declares for
the field at a path.  Whatever stands at a path of the stored form of a part is of the type that is
declared there, and so nothing of it is left to the engine's guesses; the paths with arrays of
objects are those that are declared as such (`IndexSpecOf.describes_part`,
`IndexSpecOf.isNested_iff`).

The proof is about types and values as trees.  `FieldType.Holds` follows both at once, the stored
form of a part holds what its type says, and so does whatever a path leads to in it.
-/

set_option autoImplicit false

namespace SearchGateway

/-! ## Values and their types -/

namespace Json

/-- The values that a path leads to, through objects and through the objects in arrays. -/
def along : List String → Json → List Json
  | [], value => [value]
  | name :: rest, value =>
    value.values.flatMap fun element => (element.get? name).toList.flatMap (along rest)

/-- The value is an object. -/
def IsObject (value : Json) : Prop := ∃ fields, value = .obj fields

/-- The value is one that a field with a type of the given name takes.  Fields with texts or numbers
also take several in an array, and `null` for none. -/
inductive IsOf : String → Json → Prop
  | keyword {value : Json} (h : ∀ v ∈ value.values, v = .null ∨ ∃ text, v = .str text) :
      IsOf "keyword" value
  | text {value : Json} (h : ∀ v ∈ value.values, v = .null ∨ ∃ text, v = .str text) :
      IsOf "text" value
  | long {value : Json} (h : ∀ v ∈ value.values, v = .null ∨ ∃ n, v = .int n) : IsOf "long" value
  | date (n : ℤ) : IsOf "date" (.int n)
  | float (d : Double) : IsOf "float" (.num d)
  | geoPoint (longitude latitude : Double) : IsOf "geo_point" (.numbers [longitude, latitude])
  | vector (numbers : List Double) : IsOf "knn_vector" (.numbers numbers)
  | object (fields : Fields) : IsOf "object" (.obj fields)
  | nested {items : List Json} (h : ∀ item ∈ items, item.IsObject) : IsOf "nested" (.arr items)

theorem mem_along_cons {name : String} {rest : List String} {value found : Json} :
    found ∈ value.along (name :: rest) ↔
      ∃ element ∈ value.values, ∃ inner, element.get? name = some inner ∧ found ∈ inner.along rest := by
  simp [along]

end Json

/-! ## Types as trees -/

namespace FieldType

/-- The fields below a field. -/
def fields : FieldType → List (String × FieldType)
  | object fields => fields
  | nested fields => fields
  | _ => []

/-- The name of a type in mappings. -/
def typeName : FieldType → String
  | keyword => "keyword"
  | text => "text"
  | textAndKeyword _ => "text"
  | long => "long"
  | float => "float"
  | seconds => "date"
  | geoPoint => "geo_point"
  | vector _ => "knn_vector"
  | object _ => "object"
  | nested _ => "nested"

/-- Whether there are no fields below fields of the type. -/
def isLeaf : FieldType → Bool
  | object _ => false
  | nested _ => false
  | _ => true

/-- Whether the elements of an array are matched one by one. -/
def isNested : FieldType → Bool
  | nested _ => true
  | _ => false

/-- The type at a path. -/
def at? : List String → FieldType → Option FieldType
  | [], type => some type
  | name :: rest, type => (Association.get? name type.fields).bind (at? rest)

/-- The value is of the type, and so is all that stands in it. -/
inductive Holds : FieldType → Json → Prop
  | leaf {type : FieldType} {value : Json} (hleaf : type.isLeaf = true)
      (h : value.IsOf type.typeName) : Holds type value
  | object {fields : List (String × FieldType)} {body : Json.Fields}
      (hdeclared : ∀ entry ∈ body, ∃ type, Association.get? entry.1 fields = some type)
      (hholds : ∀ entry ∈ body, ∀ type, Association.get? entry.1 fields = some type →
        Holds type entry.2) : Holds (.object fields) (.obj body)
  | nested {fields : List (String × FieldType)} {items : List Json}
      (h : ∀ item ∈ items, Holds (.object fields) item) : Holds (.nested fields) (.arr items)

variable {type : FieldType} {value : Json}

theorem Holds.of_entries {fields : List (String × FieldType)} {body : Json.Fields}
    (h : ∀ entry ∈ body, ∃ type, Association.get? entry.1 fields = some type ∧ type.Holds entry.2) :
    Holds (.object fields) (.obj body) := by
  refine .object (fun entry hentry => ?_) fun entry hentry type htype => ?_
  · obtain ⟨type, htype, -⟩ := h entry hentry
    exact ⟨type, htype⟩
  · obtain ⟨other, hother, hholds⟩ := h entry hentry
    obtain rfl := Option.some.inj (htype.symm.trans hother)
    exact hholds

theorem Holds.isOf (h : type.Holds value) : value.IsOf type.typeName := by
  cases h with
  | leaf _ h => exact h
  | object => exact .object _
  | nested h =>
    refine .nested fun item hitem => ?_
    cases h item hitem with
    | leaf hleaf => cases hleaf
    | object => exact ⟨_, rfl⟩

/-- Nothing stands below a value of a type without fields. -/
theorem get?_eq_none_of_isLeaf (hleaf : type.isLeaf = true) (h : value.IsOf type.typeName)
    {element : Json} (helement : element ∈ value.values) (name : String) :
    element.get? name = none := by
  have hobject : type.typeName ≠ "object" ∧ type.typeName ≠ "nested" := by
    cases type with
    | object | nested => cases hleaf
    | _ => simp [typeName]
  generalize type.typeName = typeName at h hobject
  cases h with
  | keyword h | text h | long h =>
    rcases h element helement with rfl | ⟨_, rfl⟩
    · rfl
    · rfl
  | date | float =>
    rw [List.mem_singleton.mp helement]
    rfl
  | geoPoint | vector =>
    obtain ⟨number, -, rfl⟩ := List.mem_map.mp helement
    rfl
  | object => exact absurd rfl hobject.1
  | nested => exact absurd rfl hobject.2

theorem Holds.get? {fields : List (String × FieldType)} (h : (FieldType.object fields).Holds value)
    {name : String} {inner : Json} (hinner : value.get? name = some inner) :
    ∃ type, Association.get? name fields = some type ∧ type.Holds inner := by
  cases h with
  | leaf hleaf => cases hleaf
  | object hdeclared hholds =>
    have hentry := Association.mem_of_get? hinner
    obtain ⟨type, htype⟩ := hdeclared _ hentry
    exact ⟨type, htype, hholds _ hentry type htype⟩

/-- **What a path leads to in a value is of the type that stands there.** -/
theorem Holds.along {path : List String} {found : Json} (h : type.Holds value)
    (hfound : found ∈ value.along path) : ∃ inner, type.at? path = some inner ∧ inner.Holds found := by
  induction path generalizing type value with
  | nil =>
    rw [Json.along, List.mem_singleton] at hfound
    exact ⟨type, rfl, hfound ▸ h⟩
  | cons name rest ih =>
    obtain ⟨element, helement, inner, hinner, hfound⟩ := Json.mem_along_cons.mp hfound
    -- Only objects lead on, by themselves or in an array.
    obtain ⟨below, hbelow, hholds⟩ :
        ∃ below, Association.get? name type.fields = some below ∧ below.Holds inner := by
      cases h with
      | leaf hleaf h =>
        rw [get?_eq_none_of_isLeaf hleaf h helement name] at hinner
        cases hinner
      | object hdeclared hholds =>
        rw [List.mem_singleton.mp helement] at hinner
        exact (Holds.object hdeclared hholds).get? hinner
      | nested h => exact (h element helement).get? hinner
    obtain ⟨last, hlast, hfound⟩ := ih hholds hfound
    exact ⟨last, by rw [at?, hbelow, Option.bind_some, hlast], hfound⟩

end FieldType

/-! ## Mappings as they are sent -/

namespace Mapping

/-- The declaration that a path leads to from another one. -/
def below? : List String → Json → Option Json
  | [], declaration => some declaration
  | name :: rest, declaration =>
    ((declaration.get? "properties").bind (·.get? name)).bind (below? rest)

/-- The type that a mapping declares for the field at a path. -/
def typeOf? (mapping : Json) (path : List String) : Option Json :=
  ((mapping.get? "mappings").bind (below? path)).bind (·.get? "type")

end Mapping

namespace FieldType

theorem get?_fieldsJson (fields : List (String × FieldType)) (name : String) :
    Json.Fields.get? (fieldsJson fields) name = (Association.get? name fields).map toJson := by
  induction fields with
  | nil => rfl
  | cons entry rest ih =>
    obtain ⟨key, type⟩ := entry
    show (if key = name then _ else _) = (if key = name then _ else _ : Option FieldType).map toJson
    split
    · rfl
    · exact ih

theorem get?_type (type : FieldType) : type.toJson.get? "type" = some (.str type.typeName) := by
  cases type <;> rfl

theorem get?_properties (type : FieldType) (name : String) :
    (type.toJson.get? "properties").bind (·.get? name) =
      (Association.get? name type.fields).map toJson := by
  cases type with
  | object fields => exact get?_fieldsJson fields name
  | nested fields => exact get?_fieldsJson fields name
  | _ => rfl

theorem below?_toJson (type : FieldType) (path : List String) :
    Mapping.below? path type.toJson = (type.at? path).map toJson := by
  induction path generalizing type with
  | nil => rfl
  | cons name rest ih =>
    rw [Mapping.below?, get?_properties, at?]
    cases Association.get? name type.fields with
    | none => rfl
    | some inner => exact ih inner

end FieldType

namespace IndexSpecOf

variable {N : Type} [Operand N]

/-- The type of the parts in an index. -/
def partType (spec : IndexSpecOf N) : FieldType := .object (partFields spec.vectorSpec.dimension)

/-- A mapping declares what the type of parts says. -/
theorem typeOf?_mapping (spec : IndexSpecOf N) (pipeline : Option String) {path : List String}
    (hpath : path ≠ []) : Mapping.typeOf? (spec.mapping pipeline) path =
      (spec.partType.at? path).map fun type => .str type.typeName := by
  obtain ⟨name, rest, rfl⟩ := List.exists_cons_of_ne_nil hpath
  have hbelow : (((spec.mapping pipeline).get? "mappings").bind
      (Mapping.below? (name :: rest))) = (spec.partType.at? (name :: rest)).map FieldType.toJson :=
    spec.partType.below?_toJson (name :: rest)
  rw [Mapping.typeOf?, hbelow]
  cases spec.partType.at? (name :: rest) with
  | none => rfl
  | some type => exact type.get?_type

end IndexSpecOf

/-! ## Stored parts -/

namespace FieldType

theorem forall_values_ofOption_str (text : Option String) :
    ∀ v ∈ (Json.ofOption .str text).values, v = .null ∨ ∃ text, v = .str text := by
  cases text with
  | none => exact List.forall_mem_singleton.mpr (.inl rfl)
  | some text => exact List.forall_mem_singleton.mpr (.inr ⟨text, rfl⟩)

theorem forall_values_ofOption_int (n : Option ℤ) :
    ∀ v ∈ (Json.ofOption .int n).values, v = .null ∨ ∃ n, v = .int n := by
  cases n with
  | none => exact List.forall_mem_singleton.mpr (.inl rfl)
  | some n => exact List.forall_mem_singleton.mpr (.inr ⟨n, rfl⟩)

theorem forall_values_strings (texts : List String) :
    ∀ v ∈ (Json.strings texts).values, v = .null ∨ ∃ text, v = .str text :=
  List.forall_mem_map.mpr fun text _ => .inr ⟨text, rfl⟩

theorem holds_keyword (text : String) : keyword.Holds (.str text) :=
  .leaf rfl (.keyword (forall_values_ofOption_str (some text)))

theorem holds_long (n : ℤ) : long.Holds (.int n) :=
  .leaf rfl (.long (forall_values_ofOption_int (some n)))

/-- An array holds what all of its elements hold. -/
theorem holds_nested_map {α : Type} {fields : List (String × FieldType)} {f : α → Json}
    (h : ∀ a, (object fields).Holds (f a)) (as : List α) :
    (nested fields).Holds (.arr (as.map f)) :=
  .nested (List.forall_mem_map.mpr fun a _ => h a)

theorem holds_name (name : String) : (object [("name", keyword)]).Holds (nameJson name) :=
  .of_entries (List.forall_mem_singleton.mpr ⟨keyword, rfl, holds_keyword name⟩)

theorem holds_location (location : Location) :
    (object [("name", keyword), ("coords", geoPoint)]).Holds
      (StoredLocation.ofLocation location).toJson :=
  .of_entries (List.forall_mem_cons.mpr ⟨⟨keyword, rfl, holds_keyword _⟩,
    List.forall_mem_singleton.mpr ⟨geoPoint, rfl, .leaf rfl (.geoPoint _ _)⟩⟩)

theorem holds_class (found : Classification) :
    (object [("name", keyword), ("probability", float)]).Holds found.toJson :=
  .of_entries (List.forall_mem_cons.mpr ⟨⟨keyword, rfl, holds_keyword _⟩,
    List.forall_mem_singleton.mpr ⟨float, rfl, .leaf rfl (.float _)⟩⟩)

theorem holds_embedding (dimension : ℤ) (vector : Embedding) :
    (object [("knn", .vector dimension)]).Holds (Record.embeddingJson vector) :=
  .of_entries (List.forall_mem_singleton.mpr ⟨.vector dimension, rfl, .leaf rfl (.vector vector)⟩)

/-- Stored metadata is of the type that is declared for it. -/
theorem holds_metadata (metadata : Metadata) :
    (object metadataFields).Holds (.obj metadata.toFields) := by
  refine .of_entries ?_
  simp only [Metadata.toFields, List.forall_mem_cons, List.not_mem_nil, false_implies,
    implies_true, and_true]
  exact ⟨⟨_, rfl, .leaf rfl (.keyword (forall_values_ofOption_str _))⟩,
    ⟨_, rfl, .leaf rfl (.long (forall_values_ofOption_int _))⟩,
    ⟨_, rfl, .leaf rfl (.keyword (forall_values_ofOption_str _))⟩,
    ⟨_, rfl, .leaf rfl (.keyword (forall_values_ofOption_str _))⟩,
    ⟨_, rfl, .leaf rfl (.text (forall_values_ofOption_str _))⟩,
    ⟨_, rfl, holds_nested_map holds_location _⟩, ⟨_, rfl, holds_nested_map holds_name _⟩,
    ⟨_, rfl, holds_nested_map holds_class _⟩, ⟨_, rfl, holds_nested_map holds_name _⟩,
    ⟨_, rfl, holds_nested_map holds_name _⟩,
    ⟨_, rfl, .leaf rfl (.keyword (forall_values_strings _))⟩,
    ⟨_, rfl, .leaf rfl (.keyword (forall_values_strings _))⟩⟩

/-- A field that is stored if it has a value. -/
theorem forall_mem_stored {α : Type} {P : String × Json → Prop} {name : String} {f : α → Json}
    {value : Option α} :
    (∀ entry ∈ Record.stored name f value, P entry) ↔ ∀ a ∈ value, P (name, f a) := by
  cases value <;> simp [Record.stored]

/-- **The stored form of a part is of the type that is declared for it.** -/
theorem holds_part (dimension : ℤ) (part : Part) :
    (object (partFields dimension)).Holds (Record.ofPart part).toJson := by
  refine .of_entries ?_
  simp only [Record.toFields, List.forall_mem_append, List.forall_mem_cons, List.not_mem_nil,
    false_implies, implies_true, and_true, forall_mem_stored]
  refine ⟨⟨⟨⟨⟨⟨_, rfl, holds_keyword _⟩, ⟨_, rfl, holds_long _⟩,
    ⟨_, rfl, .leaf rfl (.text (forall_values_ofOption_str (some _)))⟩,
    ⟨_, rfl, holds_keyword _⟩, ⟨_, rfl, holds_long _⟩, ⟨_, rfl, .leaf rfl (.date _)⟩,
    ⟨_, rfl, .leaf rfl (.date _)⟩⟩, ?_⟩, ?_⟩, ?_⟩, ?_⟩
  · intro content _
    exact ⟨_, rfl, .leaf rfl (.text (forall_values_ofOption_str (some content)))⟩
  · intro chunks _
    exact ⟨_, rfl, .leaf rfl (.text (forall_values_strings chunks))⟩
  · intro vectors _
    exact ⟨_, rfl, holds_nested_map (holds_embedding dimension) vectors⟩
  · intro fields hfields
    obtain ⟨metadata, -, rfl⟩ := Option.map_eq_some_iff.mp hfields
    exact ⟨_, rfl, holds_metadata metadata⟩

end FieldType

/-! ## What mappings describe -/

namespace Mapping

/-- Every path of a body is declared with a type that the value is of, and wherever there is an
object in an array the path is declared nested. -/
structure Describes (mapping body : Json) : Prop where
  declared : ∀ path value, path ≠ [] → value ∈ body.along path →
    ∃ typeName : String, typeOf? mapping path = some (.str typeName) ∧ value.IsOf typeName
  nested : ∀ path items fields, .arr items ∈ body.along path → .obj fields ∈ items →
    typeOf? mapping path = some (.str "nested")

end Mapping

theorem Json.IsOf.eq_nested {typeName : String} {items : List Json} {fields : Json.Fields}
    (h : (Json.arr items).IsOf typeName) (hitem : .obj fields ∈ items) : typeName = "nested" := by
  generalize hvalue : Json.arr items = value at h
  cases h with
  | keyword h | text h | long h =>
    subst hvalue
    rcases h _ hitem with hnull | ⟨_, hvalue⟩
    · cases hnull
    · cases hvalue
  | geoPoint | vector =>
    obtain rfl := Json.arr.inj hvalue
    obtain ⟨_, -, hnumber⟩ := List.mem_map.mp hitem
    cases hnumber
  | nested => rfl
  | _ => cases hvalue

namespace IndexSpecOf

variable {N : Type} [Operand N] (spec : IndexSpecOf N) (pipeline : Option String)

/-- **A mapping describes whatever is stored.** -/
theorem describes_part (part : Part) :
    Mapping.Describes (spec.mapping pipeline) (Record.ofPart part).toJson := by
  have hdeclared : ∀ path value, path ≠ [] → value ∈ (Record.ofPart part).toJson.along path →
      ∃ typeName : String, Mapping.typeOf? (spec.mapping pipeline) path = some (.str typeName) ∧
        value.IsOf typeName := by
    intro path value hpath hvalue
    obtain ⟨type, htype, hholds⟩ := (FieldType.holds_part spec.vectorSpec.dimension part).along hvalue
    refine ⟨type.typeName, ?_, hholds.isOf⟩
    rw [spec.typeOf?_mapping pipeline hpath, partType, htype, Option.map_some]
  refine ⟨hdeclared, fun path items fields hitems hitem => ?_⟩
  have hpath : path ≠ [] := by
    rintro rfl
    cases List.mem_singleton.mp hitems
  obtain ⟨typeName, htype, hvalue⟩ := hdeclared path _ hpath hitems
  rw [htype, hvalue.eq_nested hitem]

end IndexSpecOf

/-- The paths of parts that are declared nested. -/
def nestedPaths : List (List String) :=
  [["embeddings"], ["metadata", "locations"], ["metadata", "classes"], ["metadata", "subjects"],
    ["metadata", "icons"], ["metadata", "groups"]]

namespace FieldType

theorem exists_of_at?_cons {type inner : FieldType} {name : String} {rest : List String}
    (h : type.at? (name :: rest) = some inner) :
    ∃ below, (name, below) ∈ type.fields ∧ below.at? rest = some inner := by
  obtain ⟨below, hbelow, hrest⟩ := Option.bind_eq_some_iff.mp h
  exact ⟨below, Association.mem_of_get? hbelow, hrest⟩

theorem fields_of_isLeaf {type : FieldType} (h : type.isLeaf = true) : type.fields = [] := by
  cases type with
  | object | nested => cases h
  | _ => rfl

/-- Nothing nested stands below a field with nothing but leaves below it. -/
theorem eq_of_at?_eq_nested {type : FieldType} {path : List String}
    {fields : List (String × FieldType)} (hleaves : ∀ entry ∈ type.fields, entry.2.isLeaf = true)
    (h : type.at? path = some (nested fields)) : path = [] ∧ type = nested fields := by
  cases path with
  | nil => exact ⟨rfl, Option.some.inj h⟩
  | cons name rest =>
    obtain ⟨below, hbelow, h⟩ := exists_of_at?_cons h
    have hleaf := hleaves _ hbelow
    cases rest with
    | nil =>
      obtain rfl := Option.some.inj h
      cases hleaf
    | cons name rest =>
      obtain ⟨last, hlast, -⟩ := exists_of_at?_cons h
      rw [fields_of_isLeaf hleaf] at hlast
      cases hlast

theorem mem_nestedPaths {dimension : ℤ} {path : List String} {fields : List (String × FieldType)}
    (h : (object (partFields dimension)).at? path = some (nested fields)) : path ∈ nestedPaths := by
  cases path with
  | nil => cases h
  | cons name rest =>
    obtain ⟨below, hbelow, h⟩ := exists_of_at?_cons h
    by_cases hname : name = "metadata"
    · subst hname
      obtain rfl : below = object metadataFields := by
        simpa [FieldType.fields, partFields] using hbelow
      cases rest with
      | nil => cases h
      | cons name rest =>
        obtain ⟨below, hbelow, h⟩ := exists_of_at?_cons h
        have hflat : ∀ entry ∈ metadataFields, ∀ leaf ∈ entry.2.fields, leaf.2.isLeaf = true := by
          decide
        obtain ⟨rfl, rfl⟩ := eq_of_at?_eq_nested (hflat _ hbelow) h
        have hnames : name ∈ ["locations", "classes", "subjects", "icons", "groups"] := by
          simp only [FieldType.fields, metadataFields, FieldType.names, List.mem_cons,
            List.not_mem_nil, Prod.mk.injEq, reduceCtorEq, and_false, false_or, or_false] at hbelow
          simp only [List.mem_cons, List.not_mem_nil]
          tauto
        fin_cases hnames <;> simp [nestedPaths]
    · have hflat : ∀ entry ∈ partFields dimension, entry.1 ≠ "metadata" →
          ∀ leaf ∈ entry.2.fields, leaf.2.isLeaf = true := by
        simp [partFields, FieldType.fields, isLeaf]
      obtain ⟨rfl, rfl⟩ := eq_of_at?_eq_nested (hflat _ hbelow hname) h
      obtain rfl : name = "embeddings" := by
        simp only [FieldType.fields, partFields, List.mem_cons, List.not_mem_nil, Prod.mk.injEq,
          reduceCtorEq, and_false, false_or, or_false] at hbelow
        exact hbelow.1
      simp [nestedPaths]

end FieldType

/-- A part with something in every array. -/
def Part.replete : Part where
  documentId := "d"
  number := 0
  file := ⟨"a.md", "docs/a.md", 1, 1, 2⟩
  content := none
  chunks := none
  embeddings := some [[]]
  metadata := some {
    photo := none
    pipelineId := none
    source := none
    semanticSource := none
    summary := none
    locations := [⟨"here", .nan, .nan⟩]
    subjects := ["a"]
    classes := [⟨"b", .nan⟩]
    icons := ["c"]
    groups := ["d"]
    pipelines := []
    references := [] }

theorem Part.along_replete : ∀ path ∈ nestedPaths, ∃ fields,
    (Record.ofPart .replete).toJson.along path = [.arr [.obj fields]] := by
  simp only [nestedPaths, List.forall_mem_cons, List.not_mem_nil, false_implies, implies_true,
    and_true]
  exact ⟨⟨_, rfl⟩, ⟨_, rfl⟩, ⟨_, rfl⟩, ⟨_, rfl⟩, ⟨_, rfl⟩, ⟨_, rfl⟩⟩

/-- **The paths that are declared nested are those with arrays of objects in some part.** -/
theorem IndexSpecOf.isNested_iff {N : Type} [Operand N] (spec : IndexSpecOf N)
    (pipeline : Option String) (path : List String) :
    Mapping.typeOf? (spec.mapping pipeline) path = some (.str "nested") ↔
      ∃ (part : Part) (items : List Json) (fields : Json.Fields),
        .arr items ∈ (Record.ofPart part).toJson.along path ∧ .obj fields ∈ items := by
  constructor
  · intro h
    have hpath : path ≠ [] := by
      rintro rfl
      cases h
    rw [spec.typeOf?_mapping pipeline hpath, Option.map_eq_some_iff] at h
    obtain ⟨type, htype, hname⟩ := h
    obtain ⟨fields, rfl⟩ : ∃ fields, type = .nested fields := by
      cases type with
      | nested fields => exact ⟨fields, rfl⟩
      | _ => simp [FieldType.typeName] at hname
    obtain ⟨fields, halong⟩ := Part.along_replete path (FieldType.mem_nestedPaths htype)
    exact ⟨.replete, [.obj fields], fields, halong ▸ List.mem_singleton_self _,
      List.mem_singleton_self _⟩
  · rintro ⟨part, items, fields, hitems, hitem⟩
    exact (spec.describes_part pipeline part).nested path items fields hitems hitem

end SearchGateway
