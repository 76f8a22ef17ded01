import Mathlib.Tactic
import SearchGateway.Proofs.Json.RoundTrip
import SearchGateway.Record.Page

/-!
# Parts as records

What is stored of a part is read as the same part, with all that its metadata holds.  The stored
form is also one that JSON text can stand for: its objects give no key twice, and it is not deep.
-/

set_option autoImplicit false

namespace SearchGateway

/-- A field that is erased is not found, and every other one is found as before. -/
theorem Json.Fields.get?_erase (key k : String) (fields : Json.Fields) :
    Json.Fields.get? (Association.erase key fields) k = if k = key then none else fields.get? k :=
  Association.get?_erase key k fields

/-! ## Fields of records -/

namespace Checked

variable {α β : Type} {fields : Json.Fields} {name : String}

@[simp]
theorem map_valid (f : α → β) (a : α) : f <$> valid a = valid (f a) := rfl

@[simp]
theorem seq_valid (f : α → β) (a : α) : valid f <*> valid a = valid (f a) := rfl

theorem seq_eq_valid {f : Checked (α → β)} {x : Checked α} {b : β} :
    f <*> x = valid b ↔ ∃ g a, f = valid g ∧ x = valid a ∧ g a = b := by
  constructor
  · intro h
    cases f with
    | invalid names => cases x <;> cases h
    | valid g =>
      cases x with
      | invalid names => cases h
      | valid a => exact ⟨g, a, rfl, rfl, valid.inj h⟩
  · rintro ⟨g, a, rfl, rfl, rfl⟩
    rfl

theorem map_eq_valid {f : α → β} {x : Checked α} {b : β} :
    f <$> x = valid b ↔ ∃ a, x = valid a ∧ f a = b := by
  cases x with
  | invalid names => exact ⟨fun h => (nomatch h), fun ⟨_, h, _⟩ => (nomatch h)⟩
  | valid a => simp

theorem required_eq {read? : Json → Option α} {v : Json} {a : α} (hget : fields.get? name = some v)
    (hread : read? v = some a) : required fields name read? = valid a := by
  rw [required, hget, Option.bind_some, hread, ofOption]

theorem required_eq_valid {read? : Json → Option α} {a : α} :
    required fields name read? = valid a ↔ (fields.get? name).bind read? = some a := by
  unfold required
  cases (fields.get? name).bind read? with
  | none => exact ⟨fun h => (nomatch h), fun h => (nomatch h)⟩
  | some b =>
    constructor
    · intro h
      exact congrArg some (valid.inj h)
    · intro h
      exact congrArg valid (Option.some.inj h)

theorem listOrEmpty_eq {item? : Json → Option α} {items : List Json} {values : List α}
    (hget : fields.get? name = some (.arr items)) (hread : items.mapM item? = some values) :
    listOrEmpty fields name item? = valid values := by
  rw [listOrEmpty, hget]
  simp only [Lenient.list?, hread, ofOption]

theorem optional_some {read? : Json → Option α} {v : Json} {a : α}
    (hget : fields.get? name = some v) (hnull : v ≠ .null) (hread : read? v = some a) :
    optional fields name read? = valid (some a) := by
  rw [optional, hget]
  split
  case h_1 h => exact absurd h (by simp)
  case h_2 h => exact absurd (Option.some.inj h) hnull
  case h_3 h =>
    obtain rfl := Option.some.inj h
    rw [hread]
    rfl

/-- A field that is stored if it has a value. -/
theorem optional_stored {read? : Json → Option α} {f : α → Json} {value : Option α}
    (hget : fields.get? name = value.map f) (hnull : ∀ a, f a ≠ .null)
    (hread : ∀ a, read? (f a) = some a) : optional fields name read? = valid value := by
  cases value with
  | none => rw [optional, hget, Option.map_none]
  | some a => exact optional_some hget (hnull a) (hread a)

/-- A field that is stored as `null` if it has no value. -/
theorem optional_ofOption {read? : Json → Option α} {f : α → Json} {value : Option α}
    (hget : fields.get? name = some (Json.ofOption f value)) (hnull : ∀ a, f a ≠ .null)
    (hread : ∀ a, read? (f a) = some a) : optional fields name read? = valid value := by
  cases value with
  | none => rw [optional, hget, Json.ofOption]
  | some a => exact optional_some hget (hnull a) (hread a)

end Checked

/-! ## Lists -/

namespace Lenient

theorem mapM_map {α β : Type} {f : α → β} {g : β → Option α} (h : ∀ a, g (f a) = some a)
    (values : List α) : (values.map f).mapM g = some values := by
  induction values with
  | nil => rfl
  | cons a values ih => rw [List.map_cons, List.mapM_cons, h, ih]; rfl

theorem list?_numbers (values : List Double) : list? real? (.numbers values) = some values :=
  mapM_map (f := Json.num) (fun _ => rfl) values

theorem list?_strings (texts : List String) : list? text? (.strings texts) = some texts :=
  mapM_map (f := Json.str) (fun _ => rfl) texts

end Lenient

/-! ## Metadata -/

theorem readName?_nameJson (name : String) : readName? (nameJson name) = some name := rfl

theorem Classification.read?_toJson (c : Classification) :
    Classification.read? c.toJson = some c := rfl

theorem StoredLocation.read?_toJson (l : StoredLocation) :
    StoredLocation.read? l.toJson = some l := by
  have hcoordinates : Checked.required [("name", .str l.name), ("coords", .numbers l.coordinates)]
      "coords" (Lenient.list? Lenient.real?) = .valid l.coordinates :=
    Checked.required_eq rfl (Lenient.list?_numbers l.coordinates)
  simp only [StoredLocation.read?, StoredLocation.toJson, Json.fields?, bind, Option.bind,
    hcoordinates]
  rfl

/-- Longitude and latitude do not change places. -/
theorem StoredLocation.toLocation?_ofLocation (l : Location) :
    (ofLocation l).toLocation? = some l := rfl

theorem StoredLocation.filterMap_ofLocation (ls : List Location) :
    (ls.map ofLocation).filterMap toLocation? = ls := by
  have hsame : toLocation? ∘ ofLocation = some := funext toLocation?_ofLocation
  rw [List.filterMap_map, hsame, List.filterMap_some]

namespace Metadata

section

variable (m : Metadata)

theorem optional_toFields_text {name : String} {value : Option String}
    (hget : m.toFields.get? name = some (.ofOption .str value)) :
    Checked.optional m.toFields name Lenient.text? = .valid value :=
  Checked.optional_ofOption hget (fun _ => by simp) (fun _ => rfl)

theorem listOrEmpty_toFields {α : Type} {name : String} {f : α → Json} {read? : Json → Option α}
    {values : List α} (hget : m.toFields.get? name = some (.arr (values.map f)))
    (hread : ∀ a, read? (f a) = some a) :
    Checked.listOrEmpty m.toFields name read? = .valid values :=
  Checked.listOrEmpty_eq hget (Lenient.mapM_map hread values)

/-- **Metadata is read as it was stored.** -/
theorem readFields_toFields : readFields m.toFields = .valid m := by
  have hphoto : Checked.optional m.toFields "photo" Lenient.text? = .valid m.photo :=
    m.optional_toFields_text rfl
  have hpipeline : Checked.optional m.toFields "pipeline_id" Lenient.integer? =
      .valid m.pipelineId := Checked.optional_ofOption rfl (fun _ => by simp) (fun _ => rfl)
  have hsource : Checked.optional m.toFields "source" Lenient.text? = .valid m.source :=
    m.optional_toFields_text rfl
  have hsemantic : Checked.optional m.toFields "semantic_source" Lenient.text? =
      .valid m.semanticSource := m.optional_toFields_text rfl
  have hsummary : Checked.optional m.toFields "summary" Lenient.text? = .valid m.summary :=
    m.optional_toFields_text rfl
  have hlocations : Checked.listOrEmpty m.toFields "locations" StoredLocation.read? =
      .valid (m.locations.map StoredLocation.ofLocation) := by
    refine m.listOrEmpty_toFields ?_ StoredLocation.read?_toJson
    rw [List.map_map]
    rfl
  have hsubjects : Checked.listOrEmpty m.toFields "subjects" readName? = .valid m.subjects :=
    m.listOrEmpty_toFields rfl readName?_nameJson
  have hclasses : Checked.listOrEmpty m.toFields "classes" Classification.read? =
      .valid m.classes := m.listOrEmpty_toFields rfl Classification.read?_toJson
  have hicons : Checked.listOrEmpty m.toFields "icons" readName? = .valid m.icons :=
    m.listOrEmpty_toFields rfl readName?_nameJson
  have hgroups : Checked.listOrEmpty m.toFields "groups" readName? = .valid m.groups :=
    m.listOrEmpty_toFields rfl readName?_nameJson
  have hpipelines : Checked.listOrEmpty m.toFields "pipelines" Lenient.text? =
      .valid m.pipelines := m.listOrEmpty_toFields (f := Json.str) rfl (fun _ => rfl)
  have hreferences : Checked.listOrEmpty m.toFields "references" Lenient.text? =
      .valid m.references := m.listOrEmpty_toFields (f := Json.str) rfl (fun _ => rfl)
  rw [readFields, hphoto, hpipeline, hsource, hsemantic, hsummary, hlocations, hsubjects, hclasses,
    hicons, hgroups, hpipelines, hreferences]
  simp only [Checked.map_valid, Checked.seq_valid, ofStored, StoredLocation.filterMap_ofLocation]

end

end Metadata

/-! ## Records -/

namespace Record

theorem get?_stored {α : Type} (key name : String) (f : α → Json) (value : Option α) :
    Association.get? key (stored name f value) = if name = key then value.map f else none := by
  cases value with
  | none => simp [stored, Association.get?]
  | some a => simp [stored, Association.get?]

/-- Only the values under the keys count, not their order. -/
theorem readFields_congr {fields more : Json.Fields} (h : ∀ key, fields.get? key = more.get? key) :
    readFields fields = readFields more := by
  simp only [readFields, Checked.required, Checked.optional, h]

/-- A record has the identifier of its document from the field for it. -/
theorem documentId_of_readFields {fields : Json.Fields} {r : Record}
    (h : readFields fields = .valid r) :
    (fields.get? "large_doc_id").bind Lenient.text? = some r.documentId := by
  -- All fields are valid; the identifier is the first of them and so the innermost.
  simp only [readFields, Checked.seq_eq_valid, Checked.map_eq_valid] at h
  obtain ⟨_, _, ⟨_, _, ⟨_, _, ⟨_, _, ⟨_, _, ⟨_, _, ⟨_, _, ⟨_, _, ⟨_, _, ⟨_, _, ⟨_, hid, rfl⟩,
    -, rfl⟩, -, rfl⟩, -, rfl⟩, -, rfl⟩, -, rfl⟩, -, rfl⟩, -, rfl⟩, -, rfl⟩, -, rfl⟩, -, rfl⟩ := h
  exact Checked.required_eq_valid.mp hid

theorem readEmbedding?_embeddingJson (e : Embedding) :
    readEmbedding? (embeddingJson e) = some e := by
  have hknn : Checked.required [("knn", .numbers e)] "knn" (Lenient.list? Lenient.real?) =
      .valid e := Checked.required_eq rfl (Lenient.list?_numbers e)
  simp only [readEmbedding?, embeddingJson, Json.fields?, bind, Option.bind, hknn, Checked.value?]

theorem get?_toFields (r : Record) (key : String) : r.toFields.get? key =
    ((((if "large_doc_id" = key then some (Json.str r.documentId)
      else if "doc_part_id" = key then some (Json.int r.number)
      else if "file_name" = key then some (Json.str r.file.name)
      else if "file_path" = key then some (Json.str r.file.path)
      else if "file_size" = key then some (Json.int r.file.size)
      else if "created_at" = key then some (Json.int r.file.createdAt)
      else if "modified_at" = key then some (Json.int r.file.modifiedAt)
      else none).or
      (if "content" = key then r.content.map Json.str else none)).or
      (if "chunked_text" = key then r.chunks.map Json.strings else none)).or
      (if "embeddings" = key then r.embeddings.map fun es => .arr (es.map embeddingJson)
        else none)).or
      (if "metadata" = key then r.metadata.map Json.obj else none) := by
  rw [Json.Fields.get?, toFields]
  simp only [Association.get?_append, get?_stored, Association.get?_cons]
  rfl

theorem list?_embeddings (es : List Embedding) :
    Lenient.list? readEmbedding? (.arr (es.map embeddingJson)) = some es :=
  Lenient.mapM_map readEmbedding?_embeddingJson es

/-- **A record is read as it was stored.** -/
theorem readFields_toFields (r : Record) : readFields r.toFields = .valid r := by
  have hget := get?_toFields r
  have hid : Checked.required r.toFields "large_doc_id" Lenient.text? = .valid r.documentId :=
    Checked.required_eq (v := .str r.documentId) (by simp [hget]) rfl
  have hnumber : Checked.required r.toFields "doc_part_id" Lenient.integer? = .valid r.number :=
    Checked.required_eq (v := .int r.number) (by simp [hget]) rfl
  have hname : Checked.required r.toFields "file_name" Lenient.text? = .valid r.file.name :=
    Checked.required_eq (v := .str r.file.name) (by simp [hget]) rfl
  have hpath : Checked.required r.toFields "file_path" Lenient.text? = .valid r.file.path :=
    Checked.required_eq (v := .str r.file.path) (by simp [hget]) rfl
  have hsize : Checked.required r.toFields "file_size" Lenient.integer? = .valid r.file.size :=
    Checked.required_eq (v := .int r.file.size) (by simp [hget]) rfl
  have hcreated : Checked.required r.toFields "created_at" Lenient.integer? =
      .valid r.file.createdAt :=
    Checked.required_eq (v := .int r.file.createdAt) (by simp [hget]) rfl
  have hmodified : Checked.required r.toFields "modified_at" Lenient.integer? =
      .valid r.file.modifiedAt :=
    Checked.required_eq (v := .int r.file.modifiedAt) (by simp [hget]) rfl
  have hcontent : Checked.optional r.toFields "content" Lenient.text? = .valid r.content :=
    Checked.optional_stored (f := Json.str) (by simp [hget]) (fun _ => by simp) (fun _ => rfl)
  have hchunks : Checked.optional r.toFields "chunked_text" (Lenient.list? Lenient.text?) =
      .valid r.chunks :=
    Checked.optional_stored (f := Json.strings) (by simp [hget]) (fun _ => by simp [Json.strings])
      Lenient.list?_strings
  have hembeddings : Checked.optional r.toFields "embeddings" (Lenient.list? readEmbedding?) =
      .valid r.embeddings :=
    Checked.optional_stored (f := fun es => Json.arr (es.map embeddingJson)) (by simp [hget])
      (fun _ => by simp) list?_embeddings
  have hmetadata : Checked.optional r.toFields "metadata" Lenient.object? = .valid r.metadata :=
    Checked.optional_stored (f := Json.obj) (by simp [hget]) (fun _ => by simp) (fun _ => rfl)
  rw [readFields, hid, hnumber, hname, hpath, hsize, hcreated, hmodified, hcontent, hchunks,
    hembeddings, hmetadata]
  rfl

theorem read?_toJson (r : Record) : read? r.toJson = some r := by
  simp only [read?, toJson, Json.fields?, bind, Option.bind, readFields_toFields, Checked.value?]

/-- The part that a source is read as. -/
def part? (source : Json.Fields) : Option Part := (readFields source).value?.map toPart

theorem part?_eq_some {source : Json.Fields} {part : Part} :
    part? source = some part ↔ ∃ r, readFields source = .valid r ∧ r.toPart = part := by
  unfold part?
  cases readFields source with
  | valid r => simp [Checked.value?]
  | invalid names => simp [Checked.value?]

/-- **The part of a record is the part it was made of.** -/
theorem toPart_ofPart (p : Part) : (ofPart p).toPart = p := by
  obtain ⟨documentId, number, file, content, chunks, embeddings, metadata⟩ := p
  cases metadata with
  | none => rfl
  | some m => simp [toPart, ofPart, Metadata.readFields_toFields, Checked.value?]

theorem part?_toFields (p : Part) : part? (ofPart p).toFields = some p :=
  part?_eq_some.mpr ⟨_, readFields_toFields _, toPart_ofPart p⟩

/-- A record without its embeddings is that of a part without them. -/
theorem erase_embeddings (r : Record) :
    Association.erase "embeddings" r.toFields = { r with embeddings := none }.toFields := by
  have hstored {α : Type} {name : String} (f : α → Json) (value : Option α)
      (h : name ≠ "embeddings") :
      (stored name f value).filter (fun entry => entry.1 ≠ "embeddings") = stored name f value := by
    cases value <;> simp [stored, h]
  have hnone {α : Type} (f : α → Json) (value : Option α) :
      (stored "embeddings" f value).filter (fun entry => entry.1 ≠ "embeddings") = [] := by
    cases value <;> simp [stored]
  -- No other field has this key.
  unfold Association.erase toFields
  simp only [List.filter_append]
  rw [hstored .str _ (by decide), hstored .strings _ (by decide), hnone,
    hstored .obj _ (by decide)]
  rfl

end Record

/-! ## The stored form in JSON text -/

namespace Json

theorem fitsAll_map {α : Type} {f : α → Json} {depth : ℕ} (h : ∀ a, (f a).fits depth = true)
    (values : List α) : fitsAll depth (values.map f) = true := by
  induction values with
  | nil => rfl
  | cons a values ih => rw [List.map_cons, fitsAll, h, ih]; rfl

theorem fits_arr_map {α : Type} {f : α → Json} {depth : ℕ} (h : ∀ a, (f a).fits depth = true)
    (values : List α) : (arr (values.map f)).fits (depth + 1) = true := by
  exact fitsAll_map h values

theorem fits_ofOption {α : Type} {f : α → Json} {depth : ℕ} (h : ∀ a, (f a).fits depth = true)
    (value : Option α) : (ofOption f value).fits depth = true := by
  cases value with
  | none => rfl
  | some a => exact h a

theorem fitsFields_append (depth : ℕ) (xs ys : Fields) :
    fitsFields depth (xs ++ ys) = (fitsFields depth xs && fitsFields depth ys) := by
  induction xs with
  | nil => rfl
  | cons x xs ih =>
    obtain ⟨key, v⟩ := x
    rw [List.cons_append, fitsFields, fitsFields, ih, Bool.and_assoc]

end Json

open Json in
/-- Metadata opens at most four arrays and objects inside each other. -/
theorem Metadata.fits_toFields (m : Metadata) (depth : ℕ) :
    (obj m.toFields).fits (depth + 4) = true := by
  have hnames (names : List String) : (arr (names.map nameJson)).fits (depth + 3) = true :=
    fits_arr_map (fun name => by simp [nameJson, fits, fitsFields]) names
  have hlocations : (arr (m.locations.map fun l => (StoredLocation.ofLocation l).toJson)).fits
      (depth + 3) = true :=
    fits_arr_map (fun l => by
      have h : (numbers (StoredLocation.ofLocation l).coordinates).fits (depth + 1) = true :=
        fits_arr_map (fun _ => rfl) _
      simp [StoredLocation.toJson, fits, fitsFields, h]) m.locations
  have hclasses : (arr (m.classes.map Classification.toJson)).fits (depth + 3) = true :=
    fits_arr_map (fun c => by simp [Classification.toJson, fits, fitsFields]) m.classes
  have htexts (texts : List String) : (strings texts).fits (depth + 3) = true :=
    fits_arr_map (fun _ => rfl) texts
  have hoption (value : Option String) : (ofOption str value).fits (depth + 3) = true :=
    fits_ofOption (fun _ => rfl) value
  have hpipeline : (ofOption int m.pipelineId).fits (depth + 3) = true :=
    fits_ofOption (fun _ => rfl) _
  have hkeys : m.toFields.map Prod.fst = ["photo", "pipeline_id", "source", "semantic_source",
      "summary", "locations", "subjects", "classes", "icons", "groups", "pipelines",
      "references"] := rfl
  simp only [fits, Bool.and_eq_true, decide_eq_true_eq, hkeys]
  refine ⟨by decide, ?_⟩
  simp only [Metadata.toFields, fitsFields, hnames, hlocations, hclasses, htexts, hoption,
    hpipeline, Bool.and_self]

namespace Record

open Json

theorem fitsFields_stored {α : Type} {f : α → Json} {depth : ℕ} (name : String)
    {value : Option α} (h : ∀ a ∈ value, (f a).fits depth = true) :
    fitsFields depth (stored name f value) = true := by
  cases value with
  | none => rfl
  | some a => simp [stored, fitsFields, h a rfl]

theorem keys_stored {α : Type} (name : String) (f : α → Json) (value : Option α) :
    ((stored name f value).map Prod.fst).Sublist [name] := by
  cases value with
  | none => exact List.nil_sublist _
  | some a => exact List.Sublist.refl _

/-- **The stored form of a part is one that can be read.** -/
theorem fits_ofPart (p : Part) (depth : ℕ) : ((ofPart p).toJson).fits (depth + 5) = true := by
  have hembedding (e : Embedding) : (embeddingJson e).fits (depth + 3) = true := by
    have h : (numbers e).fits (depth + 2) = true := fits_arr_map (fun _ => rfl) e
    simp [embeddingJson, fits, fitsFields, h]
  -- Fields without a value are left out, so the keys are some of those of a full record.
  have hkeys : ((ofPart p).toFields.map Prod.fst).Sublist (["large_doc_id", "doc_part_id",
      "file_name", "file_path", "file_size", "created_at", "modified_at"] ++ ["content"] ++
      ["chunked_text"] ++ ["embeddings"] ++ ["metadata"]) := by
    unfold toFields
    simp only [List.map_append]
    exact ((((List.Sublist.refl _).append (keys_stored ..)).append (keys_stored ..)).append
      (keys_stored ..)).append (keys_stored ..)
  simp only [toJson, fits, Bool.and_eq_true, decide_eq_true_eq]
  refine ⟨hkeys.nodup (by decide), ?_⟩
  unfold toFields
  simp only [fitsFields_append, Bool.and_eq_true]
  refine ⟨⟨⟨⟨rfl, ?_⟩, ?_⟩, ?_⟩, ?_⟩
  · exact fitsFields_stored _ fun _ _ => rfl
  · exact fitsFields_stored _ fun a _ => fits_arr_map (fun _ => rfl) a
  · exact fitsFields_stored _ fun a _ => fits_arr_map hembedding a
  · refine fitsFields_stored _ fun fields hfields => ?_
    obtain ⟨m, -, rfl⟩ := Option.map_eq_some_iff.mp hfields
    exact m.fits_toFields depth

end Record

/-! ## Hits -/

namespace Hit

/-- A hit that shows the given source: it says where the source is stored, and what else is read of
it, its score and its highlights, is missing or can be read. -/
structure Shows (fields source : Json.Fields) : Prop where
  id : ∃ id, fields.get? "_id" = some (.str id)
  index : ∃ index, fields.get? "_index" = some (.str index)
  source : fields.get? "_source" = some (.obj source)
  score : ∃ score, Checked.optional fields (named fields "_score" "score") Lenient.real? =
    .valid score
  highlight : ∃ highlight, Checked.optional fields "highlight" Lenient.textLists? =
    .valid highlight

/-- **A hit is read as the part whose record it shows.** -/
theorem read?_of_shows {fields source : Json.Fields} {r : Record} (h : Shows fields source)
    (hsource : Record.readFields source = .valid r) :
    ∃ hit, Hit.read? (.obj fields) = some hit ∧ hit.part = r.toPart := by
  obtain ⟨⟨id, hid⟩, ⟨index, hindex⟩, hget, ⟨score, hscore⟩, highlight, hhighlight⟩ := h
  have hnamed (name plain : String) {v : Json} (h : fields.get? name = some v) :
      named fields name plain = name := by
    rw [named, h]
    rfl
  have hrecord : Record.read? (.obj source) = some r := by
    simp only [Record.read?, Json.fields?, bind, Option.bind, hsource, Checked.value?]
  have hid' : Checked.required fields "_id" Lenient.text? = .valid id :=
    Checked.required_eq hid rfl
  have hindex' : Checked.required fields "_index" Lenient.text? = .valid index :=
    Checked.required_eq hindex rfl
  refine ⟨ofFields id index score r highlight, ?_, rfl⟩
  rw [read?]
  simp only [Json.fields?, bind, Option.bind]
  rw [readFields, hnamed _ _ hid, hnamed _ _ hindex, hnamed _ _ hget, hscore, hhighlight,
    hid', hindex', Checked.required_eq hget hrecord]
  rfl

end Hit

end SearchGateway
