import SearchGateway.Proofs.Record.Extraction

/-!
# What broken metadata costs

The metadata of a stored part is read in two stages.  When the part is read, its metadata has to be
an object or `null`; only then is the object itself read, and if that fails the part goes without.
So an object with any entries at all costs the part nothing but its metadata, while a value of
another kind costs the whole hit (`Extract.tolerates_metadata_iff`).
-/

set_option autoImplicit false

namespace SearchGateway

/-! ## Putting a value under a key -/

namespace Checked

variable {α : Type} {fields : Json.Fields} {key name : String} {value : Json}
  {read? : Json → Option α}

theorem required_put_of_ne (h : name ≠ key) :
    required (Association.put key value fields) name read? = required fields name read? := by
  rw [required, Json.Fields.get?, Association.get?_put, if_neg h]
  rfl

theorem optional_put_of_ne (h : name ≠ key) :
    optional (Association.put key value fields) name read? = optional fields name read? := by
  rw [optional, Json.Fields.get?, Association.get?_put, if_neg h]
  rfl

theorem required_put : required (Association.put key value fields) key read? =
    ofOption key (read? value) := by
  rw [required, Json.Fields.get?, Association.get?_put, if_pos rfl, Option.bind_some]

end Checked

/-! ## Records -/

namespace Record

/-- What a record is read as when a value is put in the place of metadata that was not there. -/
theorem readFields_put_metadata {source : Json.Fields} {r : Record}
    (hvalid : readFields source = .valid r) (hnone : source.get? "metadata" = none)
    (value : Json) : readFields (Association.put "metadata" value source) =
      match value with
      | .null => .valid { r with metadata := none }
      | .obj entries => .valid { r with metadata := some entries }
      | _ => .invalid ["metadata"] := by
  -- All other fields are read as before, and the metadata is what was read of nothing.
  simp only [readFields, Checked.seq_eq_valid, Checked.map_eq_valid] at hvalid
  obtain ⟨_, metadata, ⟨_, embeddings, ⟨_, chunks, ⟨_, content, ⟨_, modified, ⟨_, created, ⟨_, size,
    ⟨_, path, ⟨_, name, ⟨_, number, ⟨id, hid, rfl⟩, hnumber, rfl⟩, hname, rfl⟩, hpath, rfl⟩, hsize,
    rfl⟩, hcreated, rfl⟩, hmodified, rfl⟩, hcontent, rfl⟩, hchunks, rfl⟩, hembeddings, rfl⟩,
    hmetadata, rfl⟩ := hvalid
  have hput : Json.Fields.get? (Association.put "metadata" value source) "metadata" =
      some value := by
    rw [Json.Fields.get?, Association.get?_put, if_pos rfl]
  obtain rfl : metadata = none := by
    rw [Checked.optional, hnone] at hmetadata
    exact (Checked.valid.inj hmetadata).symm
  simp (disch := decide) only [readFields, Checked.required_put_of_ne, Checked.optional_put_of_ne,
    hid, hnumber, hname, hpath, hsize, hcreated, hmodified, hcontent, hchunks, hembeddings,
    Checked.map_valid, Checked.seq_valid]
  rw [Checked.optional, hput]
  cases value <;> rfl

end Record

/-- The part with other metadata. -/
def Part.withMetadata (part : Part) (metadata : Option Metadata) : Part :=
  { part with metadata := metadata }

/-! ## Hits -/

namespace Hit

/-- The hit with other metadata. -/
def withMetadata (hit : Hit) (metadata : Option Metadata) : Hit :=
  { hit with part := hit.part.withMetadata metadata }

/-- The name under which a hit has its source. -/
def sourceName (fields : Json.Fields) : String := named fields "_source" "source"

/-- The source of a hit. -/
def source (fields : Json.Fields) : Json.Fields :=
  ((fields.get? (sourceName fields)).bind Json.fields?).getD []

/-- The source of a hit with a value put as its metadata. -/
def putSource (value : Json) (fields : Json.Fields) : Json :=
  .obj (Association.put "metadata" value (source fields))

/-- The hit with a value put as the metadata of its source. -/
def putMetadata (value : Json) (fields : Json.Fields) : Json.Fields :=
  Association.put (sourceName fields) (putSource value fields) fields

variable {fields : Json.Fields} {hit : Hit}

/-- A value in the place of another one leaves the names of the fields as they are. -/
theorem named_put {key : String} {value : Json} (h : (fields.get? key).isSome)
    (engineName plainName : String) :
    named (Association.put key value fields) engineName plainName =
      named fields engineName plainName := by
  have hsome : (Json.Fields.get? (Association.put key value fields) engineName).isSome =
      (fields.get? engineName).isSome := by
    rw [Json.Fields.get?, Association.get?_put]
    split
    case isTrue hkey => rw [hkey, h, Option.isSome_some]
    case isFalse => rfl
  rw [named, named, hsome]

theorem ne_sourceName {name : String} (hengine : name ≠ "_source") (hplain : name ≠ "source") :
    name ≠ sourceName fields := by
  unfold sourceName named
  split
  · exact hengine
  · exact hplain

theorem named_ne_sourceName {engineName plainName : String}
    (h : ∀ name ∈ [engineName, plainName], name ≠ "_source" ∧ name ≠ "source") :
    named fields engineName plainName ≠ sourceName fields := by
  have hname : named fields engineName plainName ∈ [engineName, plainName] := by
    unfold named
    split <;> simp
  exact ne_sourceName (h _ hname).1 (h _ hname).2

/-- The record that a hit shows is that of its source. -/
theorem readFields_source {r : Record}
    (h : Checked.required fields (sourceName fields) Record.read? = .valid r) :
    (fields.get? (sourceName fields)).isSome ∧ Record.readFields (source fields) = .valid r := by
  obtain ⟨value, hvalue, hread⟩ := Option.bind_eq_some_iff.mp (Checked.required_eq_valid.mp h)
  rw [source, hvalue]
  refine ⟨rfl, ?_⟩
  cases value with
  | obj entries => exact Checked.value?_eq_some.mp hread
  | _ => cases hread

theorem exists_record_of_read? (h : read? (.obj fields) = some hit) :
    ∃ r, Record.readFields (source fields) = .valid r ∧ r.toPart = hit.part := by
  obtain ⟨_, _, _, r, _, -, -, -, hsource, -, rfl⟩ := read?_eq_some.mp h
  exact ⟨r, (readFields_source hsource).2, rfl⟩

/-- The hit with another value for its source. -/
def putSourceValue (value : Json) (fields : Json.Fields) : Json.Fields :=
  Association.put (sourceName fields) value fields

/-- **A hit with another source is the same hit of another part**, or none if the source cannot be
read. -/
theorem read?_putSourceValue (h : read? (.obj fields) = some hit) (value : Json) :
    read? (.obj (putSourceValue value fields)) =
      (Record.read? value).map fun r => { hit with part := r.toPart } := by
  obtain ⟨id, index, score, r, highlight, hid, hindex, hscore, hsource, hhighlight, rfl⟩ :=
    read?_eq_some.mp h
  obtain ⟨hsome, -⟩ := readFields_source hsource
  -- Only the source changes; every other field is found under its name as before.
  have hid' : Checked.required (putSourceValue value fields) (named fields "_id" "id")
      Lenient.text? = .valid id :=
    (Checked.required_put_of_ne (named_ne_sourceName (by decide))).trans hid
  have hindex' : Checked.required (putSourceValue value fields) (named fields "_index" "index")
      Lenient.text? = .valid index :=
    (Checked.required_put_of_ne (named_ne_sourceName (by decide))).trans hindex
  have hscore' : Checked.optional (putSourceValue value fields) (named fields "_score" "score")
      Lenient.real? = .valid score :=
    (Checked.optional_put_of_ne (named_ne_sourceName (by decide))).trans hscore
  have hhighlight' : Checked.optional (putSourceValue value fields) "highlight"
      Lenient.textLists? = .valid highlight :=
    (Checked.optional_put_of_ne (ne_sourceName (by decide) (by decide))).trans hhighlight
  have hsource' : Checked.required (putSourceValue value fields) (named fields "_source" "source")
      Record.read? = Checked.ofOption _ (Record.read? value) :=
    Checked.required_put
  show (readFields (putSourceValue value fields)).value? = _
  rw [readFields]
  simp only [putSourceValue, named_put hsome] at hid' hindex' hscore' hhighlight' hsource' ⊢
  rw [hid', hindex', hscore', hhighlight', hsource']
  cases Record.read? value <;> rfl

/-- What a hit is read as when a value is put in the place of metadata that was not there. -/
theorem read?_putMetadata (hread : read? (.obj fields) = some hit)
    (hnone : (source fields).get? "metadata" = none) (value : Json) :
    read? (.obj (putMetadata value fields)) =
      match value with
      | .null => some (hit.withMetadata none)
      | .obj entries => some (hit.withMetadata (Metadata.readFields entries).value?)
      | _ => none := by
  obtain ⟨r, hrecord, hpart⟩ := exists_record_of_read? hread
  have hsource : Record.read? (putSource value fields) =
      (Record.readFields (Association.put "metadata" value (source fields))).value? := rfl
  have hput : read? (.obj (putMetadata value fields)) = _ := read?_putSourceValue hread _
  rw [hput, hsource, Record.readFields_put_metadata hrecord hnone]
  cases value <;> simp only [withMetadata, ← hpart] <;> rfl

end Hit

namespace Extract

variable {fields : Json.Fields} {hit : Hit}

/-- **Metadata that is an object, whatever is in it, never costs the hit.**  A hit that is kept
without metadata is kept with `null` or an object in its place, and it has the metadata that the
object stands for, or none if the object is not well-formed.  A value of any other kind costs the
whole hit. -/
theorem tolerates_metadata_iff (hkept : yieldOf (.obj fields) = [hit])
    (hnone : (Hit.source fields).get? "metadata" = none) (value : Json) :
    (yieldOf (.obj (Hit.putMetadata value fields)) =
        [hit.withMetadata (Metadata.read value).value?] ↔
      value = .null ∨ ∃ entries, value = .obj entries) ∧
    (yieldOf (.obj (Hit.putMetadata value fields)) = [] ↔
      ¬(value = .null ∨ ∃ entries, value = .obj entries)) ∧
    ((∃ m, (Metadata.read value).value? = some m) ↔
      value.IsObjectWith Metadata.IsWellFormed) := by
  have hput := Hit.read?_putMetadata (yieldOf_eq_singleton.mp hkept) hnone value
  refine ⟨?_, ?_, ?_⟩
  · rw [yieldOf_eq_singleton, hput]
    cases value <;> simp [Metadata.read, Checked.value?]
  · rw [yieldOf_eq, Option.toList_eq_nil_iff, hput]
    cases value <;> simp
  · rw [← Checked.isValid_iff]
    cases value with
    | obj entries => simp [Metadata.read, Metadata.isValid_readFields, Json.IsObjectWith]
    | _ => simp [Metadata.read, Json.IsObjectWith, Checked.IsValid]

/-- The fields of a hit that can be read. -/
def leafFields : Json.Fields :=
  [("_id", .str "p"), ("_index", .str "notes"), ("_source", (Record.ofPart Walk.leaf).toJson)]

/-- Metadata with a number for its source is broken, and the hit is kept without it. -/
theorem tolerates_metadata_iff_broken : ∃ hit, yieldOf (.obj leafFields) = [hit] ∧
    (Hit.source leafFields).get? "metadata" = none ∧
    yieldOf (.obj (Hit.putMetadata (.obj [("source", .int 5)]) leafFields)) =
      [hit.withMetadata none] := by
  obtain ⟨hit, hkept, -⟩ : ∃ hit, yieldOf (.obj leafFields) = [hit] ∧ hit.part = Walk.leaf :=
    exists_yieldOf_leafHit
  have hkeeps := (tolerates_metadata_iff hkept rfl (.obj [("source", .int 5)])).1
  exact ⟨hit, hkept, rfl, hkeeps.mpr (.inr ⟨_, rfl⟩)⟩

/-- **Metadata that is a number costs the hit.** -/
theorem not_tolerates_metadata : ¬∀ (fields : Json.Fields) (hit : Hit) (value : Json),
    yieldOf (.obj fields) = [hit] → (Hit.source fields).get? "metadata" = none →
    yieldOf (.obj (Hit.putMetadata value fields)) =
      [hit.withMetadata (Metadata.read value).value?] := by
  intro hall
  obtain ⟨hit, hkept, -⟩ : ∃ hit, yieldOf (.obj leafFields) = [hit] ∧ hit.part = Walk.leaf :=
    exists_yieldOf_leafHit
  have hlost : Hit.read? (.obj (Hit.putMetadata (.int 5) leafFields)) = none :=
    Hit.read?_putMetadata (yieldOf_eq_singleton.mp hkept) rfl (.int 5)
  have hkeeps := yieldOf_eq_singleton.mp (hall leafFields hit (.int 5) hkept rfl)
  cases hlost.symm.trans hkeeps

end Extract

end SearchGateway
