import SearchGateway.Proofs.Record.RoundTrip

/-!
# Which values can be read

A reader takes exactly the values of some shape (`Takes`).  A record is read field by field, and it
is read if and only if every field has a value of its shape: a field that has to be there, one that
may be absent or `null`, or a list that may be absent.  So metadata, records and hits are read if
and only if they are well-formed (`Metadata.isValid_readFields`, `Record.takes_read?`,
`Hit.takes_read?`).
-/

set_option autoImplicit false

namespace SearchGateway

/-! ## Shapes of values -/

namespace Json

/-- A text. -/
def IsText (value : Json) : Prop := ∃ s, value = .str s

/-- A value that can only mean one integer. -/
def IsInteger (value : Json) : Prop := ∃ n, Lenient.integer? value = some n

/-- A value that can only mean one number. -/
def IsNumber (value : Json) : Prop := ∃ d, Lenient.real? value = some d

/-- An array of values of a shape. -/
def IsListOf (shape : Json → Prop) (value : Json) : Prop :=
  ∃ items, value = .arr items ∧ ∀ item ∈ items, shape item

/-- An object whose entries are as demanded. -/
def IsObjectWith (demand : Fields → Prop) (value : Json) : Prop :=
  ∃ fields, value = .obj fields ∧ demand fields

namespace Fields

variable (fields : Fields) (name : String) (shape : Json → Prop)

/-- There is a value of the shape under the name. -/
def Requires : Prop := ∃ value, fields.get? name = some value ∧ shape value

/-- There is nothing, `null` or a value of the shape under the name. -/
def Allows : Prop := ∀ value, fields.get? name = some value → value = .null ∨ shape value

/-- There is nothing or an array of values of the shape under the name. -/
def AllowsList : Prop := ∀ value, fields.get? name = some value → value.IsListOf shape

end Fields

end Json

/-- The reader takes the values of the shape, and no others. -/
def Takes {α : Type} (read? : Json → Option α) (shape : Json → Prop) : Prop :=
  ∀ value, (∃ a, read? value = some a) ↔ shape value

namespace Lenient

open Json

theorem takes_text? : Takes text? IsText := by
  intro value
  cases value <;> simp [text?, IsText]

theorem takes_integer? : Takes integer? IsInteger := fun _ => Iff.rfl

theorem takes_real? : Takes real? IsNumber := fun _ => Iff.rfl

theorem takes_object? : Takes object? (IsObjectWith fun _ => True) := by
  intro value
  cases value <;> simp [object?, IsObjectWith]

/-- Several values are read if each of them is. -/
theorem exists_mapM_iff {α β : Type} {f : α → Option β} (as : List α) :
    (∃ bs, as.mapM f = some bs) ↔ ∀ a ∈ as, ∃ b, f a = some b := by
  induction as with
  | nil => simp
  | cons a as ih =>
    rw [List.forall_mem_cons, ← ih, List.mapM_cons]
    cases f a with
    | none => simp
    | some b => cases as.mapM f <;> simp

theorem takes_list? {α : Type} {item? : Json → Option α} {shape : Json → Prop}
    (h : Takes item? shape) : Takes (list? item?) (IsListOf shape) := by
  intro value
  cases value with
  | arr items =>
    have heach : (∀ item ∈ items, ∃ a, item? item = some a) ↔ ∀ item ∈ items, shape item :=
      forall₂_congr fun item _ => h item
    simp only [list?, exists_mapM_iff, heach, IsListOf, arr.injEq, exists_eq_left']
  | _ => simp [list?, IsListOf]

/-- Texts under keys are read if every key has an array of texts. -/
theorem takes_textLists? :
    Takes textLists? (IsObjectWith fun fields => ∀ entry ∈ fields, entry.2.IsListOf IsText) := by
  intro value
  cases value with
  | obj fields =>
    simp only [textLists?, exists_mapM_iff, IsObjectWith, obj.injEq, exists_eq_left']
    refine forall₂_congr fun entry _ => ?_
    rw [← takes_list? takes_text? entry.2]
    cases list? text? entry.2 <;> simp
  | _ => simp [textLists?, IsObjectWith]

end Lenient

/-! ## Fields of records -/

namespace Checked

variable {α β : Type} {fields : Json.Fields} {name : String} {shape : Json → Prop}

/-- All fields could be read. -/
def IsValid (checked : Checked α) : Prop := ∃ a, checked = valid a

theorem value?_eq_some {checked : Checked α} {a : α} :
    checked.value? = some a ↔ checked = valid a := by
  cases checked <;> simp [value?]

theorem isValid_iff (checked : Checked α) : checked.IsValid ↔ ∃ a, checked.value? = some a := by
  simp only [IsValid, value?_eq_some]

@[simp]
theorem isValid_map (f : α → β) (x : Checked α) : (f <$> x).IsValid ↔ x.IsValid := by
  simp [IsValid, map_eq_valid]

@[simp]
theorem isValid_seq (f : Checked (α → β)) (x : Checked α) :
    (f <*> x).IsValid ↔ f.IsValid ∧ x.IsValid := by
  simp [IsValid, seq_eq_valid]

theorem isValid_required {read? : Json → Option α} (h : Takes read? shape) :
    (required fields name read?).IsValid ↔ fields.Requires name shape := by
  simp only [IsValid, required_eq_valid, Option.bind_eq_some_iff, Json.Fields.Requires]
  rw [exists_comm]
  simp only [exists_and_left, h _]

theorem isValid_ofOption {value : Option α} :
    (ofOption name value).IsValid ↔ ∃ a, value = some a := by
  cases value <;> simp [ofOption, IsValid]

theorem isValid_optional {read? : Json → Option α} (h : Takes read? shape) :
    (optional fields name read?).IsValid ↔ fields.Allows name shape := by
  rw [optional, Json.Fields.Allows]
  split
  case h_1 hnone => simp [hnone, IsValid]
  case h_2 hnull => simp [hnull, IsValid]
  case h_3 value hnull hsome =>
    rw [isValid_ofOption, hsome]
    simp only [Option.some.injEq, forall_eq', ← h value, Option.map_eq_some_iff]
    constructor
    · rintro ⟨_, a, hread, -⟩
      exact .inr ⟨a, hread⟩
    · intro hcases
      obtain ⟨a, hread⟩ := hcases.resolve_left hnull
      exact ⟨some a, a, hread, rfl⟩

theorem isValid_listOrEmpty {item? : Json → Option α} (h : Takes item? shape) :
    (listOrEmpty fields name item?).IsValid ↔ fields.AllowsList name shape := by
  rw [listOrEmpty, Json.Fields.AllowsList]
  split
  case h_1 hnone => simp [hnone, IsValid]
  case h_2 value hsome =>
    rw [isValid_ofOption, hsome, Lenient.takes_list? h value]
    simp

end Checked

/-- A record is read from an object if and only if its entries are as demanded. -/
theorem takes_of_isValid {α : Type} {readFields : Json.Fields → Checked α}
    {demand : Json.Fields → Prop} (h : ∀ fields, (readFields fields).IsValid ↔ demand fields) :
    Takes (fun value => value.fields?.bind fun fields => (readFields fields).value?)
      (Json.IsObjectWith demand) := by
  intro value
  cases value with
  | obj fields => simp [Json.fields?, Json.IsObjectWith, ← h fields, Checked.isValid_iff]
  | _ => simp [Json.fields?, Json.IsObjectWith]

/-! ## Metadata -/

open Json (IsText IsInteger IsNumber IsListOf IsObjectWith)

namespace StoredLocation

/-- What a stored location has to say. -/
structure IsWellFormed (fields : Json.Fields) : Prop where
  name : fields.Requires "name" IsText
  coordinates : fields.Requires "coords" (IsListOf IsNumber)

theorem takes_read? : Takes read? (IsObjectWith IsWellFormed) := by
  refine takes_of_isValid fun fields => ?_
  rw [Checked.isValid_seq, Checked.isValid_map, Checked.isValid_required Lenient.takes_text?,
    Checked.isValid_required (Lenient.takes_list? Lenient.takes_real?)]
  exact ⟨fun ⟨hname, hcoordinates⟩ => ⟨hname, hcoordinates⟩, fun h => ⟨h.name, h.coordinates⟩⟩

end StoredLocation

namespace Classification

/-- What a stored classification has to say. -/
structure IsWellFormed (fields : Json.Fields) : Prop where
  name : fields.Requires "name" IsText
  probability : fields.Requires "probability" IsNumber

theorem takes_read? : Takes read? (IsObjectWith IsWellFormed) := by
  refine takes_of_isValid fun fields => ?_
  rw [Checked.isValid_seq, Checked.isValid_map, Checked.isValid_required Lenient.takes_text?,
    Checked.isValid_required Lenient.takes_real?]
  exact ⟨fun ⟨hname, hprobability⟩ => ⟨hname, hprobability⟩, fun h => ⟨h.name, h.probability⟩⟩

end Classification

theorem takes_readName? :
    Takes readName? (IsObjectWith fun fields => fields.Requires "name" IsText) :=
  takes_of_isValid fun _ => Checked.isValid_required Lenient.takes_text?

namespace Metadata

/-- What stored metadata has to say: nothing has to be there, but what is there has its shape. -/
structure IsWellFormed (fields : Json.Fields) : Prop where
  texts : ∀ name ∈ ["photo", "source", "semantic_source", "summary"], fields.Allows name IsText
  pipeline : fields.Allows "pipeline_id" IsInteger
  locations : fields.AllowsList "locations" (IsObjectWith StoredLocation.IsWellFormed)
  names : ∀ name ∈ ["subjects", "icons", "groups"],
    fields.AllowsList name (IsObjectWith fun entries => entries.Requires "name" IsText)
  classes : fields.AllowsList "classes" (IsObjectWith Classification.IsWellFormed)
  labels : ∀ name ∈ ["pipelines", "references"], fields.AllowsList name IsText

/-- **Metadata is read if and only if it is well-formed.** -/
theorem isValid_readFields (fields : Json.Fields) :
    (readFields fields).IsValid ↔ IsWellFormed fields := by
  simp only [readFields, Checked.isValid_seq, Checked.isValid_map,
    Checked.isValid_optional Lenient.takes_text?, Checked.isValid_optional Lenient.takes_integer?,
    Checked.isValid_listOrEmpty StoredLocation.takes_read?,
    Checked.isValid_listOrEmpty takes_readName?,
    Checked.isValid_listOrEmpty Classification.takes_read?,
    Checked.isValid_listOrEmpty Lenient.takes_text?]
  -- The fields are joined in their order, so the last one stands outermost.
  constructor
  · rintro ⟨⟨⟨⟨⟨⟨⟨⟨⟨⟨⟨hphoto, hpipeline⟩, hsource⟩, hsemantic⟩, hsummary⟩, hlocations⟩, hsubjects⟩,
      hclasses⟩, hicons⟩, hgroups⟩, hpipelines⟩, hreferences⟩
    exact
      { texts := by simp [hphoto, hsource, hsemantic, hsummary]
        pipeline := hpipeline
        locations := hlocations
        names := by simp [hsubjects, hicons, hgroups]
        classes := hclasses
        labels := by simp [hpipelines, hreferences] }
  · intro h
    have htexts := h.texts
    have hnames := h.names
    have hlabels := h.labels
    simp only [List.forall_mem_cons] at htexts hnames hlabels
    obtain ⟨hphoto, hsource, hsemantic, hsummary, -⟩ := htexts
    obtain ⟨hsubjects, hicons, hgroups, -⟩ := hnames
    obtain ⟨hpipelines, hreferences, -⟩ := hlabels
    exact ⟨⟨⟨⟨⟨⟨⟨⟨⟨⟨⟨hphoto, h.pipeline⟩, hsource⟩, hsemantic⟩, hsummary⟩, h.locations⟩, hsubjects⟩,
      h.classes⟩, hicons⟩, hgroups⟩, hpipelines⟩, hreferences⟩

end Metadata

/-! ## Records -/

/-- An embedding is stored as an object of its own. -/
theorem Record.takes_readEmbedding? : Takes readEmbedding?
    (IsObjectWith fun fields => fields.Requires "knn" (IsListOf IsNumber)) :=
  takes_of_isValid fun _ => Checked.isValid_required (Lenient.takes_list? Lenient.takes_real?)

namespace Record

/-- What a stored part has to say.  Of its metadata no more is asked than that it is an object. -/
structure IsWellFormed (fields : Json.Fields) : Prop where
  texts : ∀ name ∈ ["large_doc_id", "file_name", "file_path"], fields.Requires name IsText
  integers : ∀ name ∈ ["doc_part_id", "file_size", "created_at", "modified_at"],
    fields.Requires name IsInteger
  content : fields.Allows "content" IsText
  chunks : fields.Allows "chunked_text" (IsListOf IsText)
  embeddings : fields.Allows "embeddings"
    (IsListOf (IsObjectWith fun entries => entries.Requires "knn" (IsListOf IsNumber)))
  metadata : fields.Allows "metadata" (IsObjectWith fun _ => True)

theorem isValid_readFields (fields : Json.Fields) :
    (readFields fields).IsValid ↔ IsWellFormed fields := by
  simp only [readFields, Checked.isValid_seq, Checked.isValid_map,
    Checked.isValid_required Lenient.takes_text?, Checked.isValid_required Lenient.takes_integer?,
    Checked.isValid_optional Lenient.takes_text?,
    Checked.isValid_optional (Lenient.takes_list? Lenient.takes_text?),
    Checked.isValid_optional (Lenient.takes_list? takes_readEmbedding?),
    Checked.isValid_optional Lenient.takes_object?]
  constructor
  · rintro ⟨⟨⟨⟨⟨⟨⟨⟨⟨⟨hid, hnumber⟩, hname⟩, hpath⟩, hsize⟩, hcreated⟩, hmodified⟩, hcontent⟩,
      hchunks⟩, hembeddings⟩, hmetadata⟩
    exact
      { texts := by simp [hid, hname, hpath]
        integers := by simp [hnumber, hsize, hcreated, hmodified]
        content := hcontent
        chunks := hchunks
        embeddings := hembeddings
        metadata := hmetadata }
  · intro h
    have htexts := h.texts
    have hintegers := h.integers
    simp only [List.forall_mem_cons] at htexts hintegers
    obtain ⟨hid, hname, hpath, -⟩ := htexts
    obtain ⟨hnumber, hsize, hcreated, hmodified, -⟩ := hintegers
    exact ⟨⟨⟨⟨⟨⟨⟨⟨⟨⟨hid, hnumber⟩, hname⟩, hpath⟩, hsize⟩, hcreated⟩, hmodified⟩, h.content⟩,
      h.chunks⟩, h.embeddings⟩, h.metadata⟩

/-- **A part is read if and only if it is well-formed.** -/
theorem takes_read? : Takes read? (IsObjectWith IsWellFormed) :=
  takes_of_isValid isValid_readFields

end Record

/-! ## Hits -/

namespace Hit

/-- What a hit has to say.  The engine's name for a field comes before the plain one. -/
structure IsWellFormed (fields : Json.Fields) : Prop where
  id : fields.Requires (named fields "_id" "id") IsText
  index : fields.Requires (named fields "_index" "index") IsText
  score : fields.Allows (named fields "_score" "score") IsNumber
  source : fields.Requires (named fields "_source" "source") (IsObjectWith Record.IsWellFormed)
  highlight : fields.Allows "highlight"
    (IsObjectWith fun entries => ∀ entry ∈ entries, entry.2.IsListOf IsText)

theorem isValid_readFields (fields : Json.Fields) :
    (readFields fields).IsValid ↔ IsWellFormed fields := by
  simp only [readFields, Checked.isValid_seq, Checked.isValid_map,
    Checked.isValid_required Lenient.takes_text?, Checked.isValid_optional Lenient.takes_real?,
    Checked.isValid_required Record.takes_read?, Checked.isValid_optional Lenient.takes_textLists?]
  constructor
  · rintro ⟨⟨⟨⟨hid, hindex⟩, hscore⟩, hsource⟩, hhighlight⟩
    exact ⟨hid, hindex, hscore, hsource, hhighlight⟩
  · intro h
    exact ⟨⟨⟨⟨h.id, h.index⟩, h.score⟩, h.source⟩, h.highlight⟩

/-- **A hit is read if and only if it is well-formed.** -/
theorem takes_read? : Takes read? (IsObjectWith IsWellFormed) :=
  takes_of_isValid isValid_readFields

/-- A hit is read field by field. -/
theorem read?_eq_some {fields : Json.Fields} {hit : Hit} : read? (.obj fields) = some hit ↔
    ∃ id index score source highlight,
      Checked.required fields (named fields "_id" "id") Lenient.text? = .valid id ∧
      Checked.required fields (named fields "_index" "index") Lenient.text? = .valid index ∧
      Checked.optional fields (named fields "_score" "score") Lenient.real? = .valid score ∧
      Checked.required fields (named fields "_source" "source") Record.read? = .valid source ∧
      Checked.optional fields "highlight" Lenient.textLists? = .valid highlight ∧
      ofFields id index score source highlight = hit := by
  show (readFields fields).value? = some hit ↔ _
  simp only [Checked.value?_eq_some, readFields, Checked.seq_eq_valid, Checked.map_eq_valid]
  constructor
  · rintro ⟨_, highlight, ⟨_, source, ⟨_, score, ⟨_, index, ⟨id, hid, rfl⟩, hindex, rfl⟩, hscore,
      rfl⟩, hsource, rfl⟩, hhighlight, rfl⟩
    exact ⟨id, index, score, source, highlight, hid, hindex, hscore, hsource, hhighlight, rfl⟩
  · rintro ⟨id, index, score, source, highlight, hid, hindex, hscore, hsource, hhighlight, rfl⟩
    exact ⟨_, highlight, ⟨_, source, ⟨_, score, ⟨_, index, ⟨id, hid, rfl⟩, hindex, rfl⟩, hscore,
      rfl⟩, hsource, rfl⟩, hhighlight, rfl⟩

end Hit

end SearchGateway
