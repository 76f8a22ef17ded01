import SearchGateway.Proofs.Record.Tolerance
import SearchGateway.Proofs.Search.Standing

/-!
# What fields that are left out cost

A query names the fields that its hits come without, and the engine leaves out just these.  A record
has two sorts of fields: those it always has (`Record.mandatory`), which cannot be read as absent,
and the others, which can.  So a hit whose query leaves out fields of the second sort only is read
as the stored part without them, and a hit whose query leaves out any of the first sort is lost,
with every other hit of the answer (`Extract.projects`).
-/

set_option autoImplicit false

namespace SearchGateway

/-- The fields of a source but those with the given names. -/
def Json.Fields.leaving (names : List String) (source : Json.Fields) : Json.Fields :=
  source.filter fun entry => entry.1 ∉ names

/-- The names of the fields that the hits of a query come without. -/
def Query.leftOut (query : Json) : List String :=
  (((query.follow ["_source", "exclude"]).bind Json.items?).getD []).filterMap Lenient.text?

theorem Query.leftOut_toJson (query : Query) : leftOut query.toJson = query.excluded := by
  have hsource : query.toJson.get? "_source" =
      some (.obj [("exclude", .strings query.excluded)]) := by
    simp [get?_toJson]
  have hexclude : query.toJson.follow ["_source", "exclude"] = some (.strings query.excluded) := by
    rw [Json.follow, hsource]
    rfl
  rw [leftOut, hexclude]
  show (query.excluded.map Json.str).filterMap Lenient.text? = query.excluded
  rw [List.filterMap_map]
  exact List.filterMap_some

/-! ## Parts without some of their fields -/

/-- The value of a field unless it is among those with the given names. -/
def unlessNamed {α : Type} (names : List String) (name : String) (value : Option α) : Option α :=
  if name ∈ names then none else value

theorem map_unlessNamed {α β : Type} (f : α → β) (names : List String) (name : String)
    (value : Option α) : (unlessNamed names name value).map f =
      unlessNamed names name (value.map f) := by
  unfold unlessNamed
  split <;> rfl

/-- The part without the fields of the given names, as far as it can be without them. -/
def Part.without (names : List String) (part : Part) : Part :=
  { part with
    content := unlessNamed names "content" part.content
    chunks := unlessNamed names "chunked_text" part.chunks
    embeddings := unlessNamed names "embeddings" part.embeddings
    metadata := unlessNamed names "metadata" part.metadata }

namespace Record

/-- The fields that every record has. -/
def mandatory : List String :=
  ["large_doc_id", "doc_part_id", "file_name", "file_path", "file_size", "created_at",
    "modified_at"]

variable {names : List String}

theorem leaving_stored {α : Type} (name : String) (toJson : α → Json) (value : Option α) :
    Json.Fields.leaving names (stored name toJson value) =
      stored name toJson (unlessNamed names name value) := by
  unfold unlessNamed Json.Fields.leaving
  cases value with
  | none => split <;> rfl
  | some a =>
    split
    case isTrue hname => exact List.filter_eq_nil_iff.mpr (by simp [stored, hname])
    case isFalse hname => exact List.filter_eq_self.mpr (by simp [stored, hname])

/-- **What is left of the stored form is the stored form of what is left.** -/
theorem leaving_toFields (h : ∀ name ∈ names, name ∉ mandatory) (part : Part) :
    Json.Fields.leaving names (ofPart part).toFields = (ofPart (part.without names)).toFields := by
  -- Of the fields that a record always has, none is left out.
  have hkept (fields : Json.Fields) (hfields : ∀ entry ∈ fields, entry.1 ∈ mandatory) :
      Json.Fields.leaving names fields = fields :=
    List.filter_eq_self.mpr fun entry hentry =>
      decide_eq_true fun hname => h _ hname (hfields entry hentry)
  have hmetadata : (ofPart (part.without names)).metadata =
      unlessNamed names "metadata" (ofPart part).metadata :=
    map_unlessNamed _ _ _ _
  unfold toFields
  rw [hmetadata]
  simp only [Json.Fields.leaving, List.filter_append]
  simp only [← Json.Fields.leaving.eq_1, leaving_stored]
  rw [hkept _ (by simp [mandatory])]
  rfl

/-- A field that is left out is not found. -/
theorem get?_leaving_of_mem {name : String} (h : name ∈ names) (source : Json.Fields) :
    Json.Fields.get? (Json.Fields.leaving names source) name = none := by
  cases hfound : Json.Fields.get? (Json.Fields.leaving names source) name with
  | none => rfl
  | some value =>
    have hkept := (List.mem_filter.mp (Association.mem_of_get? hfound)).2
    exact absurd h (of_decide_eq_true hkept)

/-- Every field that is always there has to be there. -/
theorem IsWellFormed.exists_of_mandatory {source : Json.Fields} (h : IsWellFormed source)
    {name : String} (hname : name ∈ mandatory) : ∃ value, source.get? name = some value := by
  have hrequired : (∃ shape, source.Requires name shape) := by
    simp only [mandatory, List.mem_cons, List.not_mem_nil, or_false] at hname
    rcases hname with rfl | rfl | rfl | rfl | rfl | rfl | rfl
    · exact ⟨_, h.texts _ (by decide)⟩
    · exact ⟨_, h.integers _ (by decide)⟩
    · exact ⟨_, h.texts _ (by decide)⟩
    · exact ⟨_, h.texts _ (by decide)⟩
    · exact ⟨_, h.integers _ (by decide)⟩
    · exact ⟨_, h.integers _ (by decide)⟩
    · exact ⟨_, h.integers _ (by decide)⟩
  obtain ⟨shape, value, hvalue, -⟩ := hrequired
  exact ⟨value, hvalue⟩

/-- **Without a field that is always there, a source cannot be read.** -/
theorem read?_leaving_of_mandatory {name : String} (hname : name ∈ names)
    (hmandatory : name ∈ mandatory) (source : Json.Fields) :
    read? (.obj (Json.Fields.leaving names source)) = none := by
  rw [← Option.not_isSome_iff_eq_none, Option.isSome_iff_exists, takes_read?]
  rintro ⟨fields, hfields, hformed⟩
  obtain ⟨value, hvalue⟩ := hformed.exists_of_mandatory hmandatory
  rw [← Json.obj.inj hfields, get?_leaving_of_mem hname] at hvalue
  cases hvalue

end Record

/-! ## Hits without some of their fields -/

/-- A hit of a stored part: the fields it comes with, whose source is the part as it is stored, and
what it is read as. -/
structure StoredHit where
  part : Part
  fields : Json.Fields
  hit : Hit
  read : Hit.read? (.obj fields) = some hit
  source : Hit.source fields = (Record.ofPart part).toFields

namespace StoredHit

/-- The hit as the engine gives it for a query: it leaves out of the source what the query says. -/
def givenFor (query : Json) (stored : StoredHit) : Json :=
  .obj (Hit.putSourceValue (.obj (Json.Fields.leaving (Query.leftOut query)
    (Hit.source stored.fields))) stored.fields)

/-- The hit of the part without the fields of the given names. -/
def without (names : List String) (stored : StoredHit) : Hit :=
  { stored.hit with part := stored.part.without names }

variable (query : Json) (stored : StoredHit)

/-- **A hit without fields that can be absent is the hit of the part without them.** -/
theorem yieldOf_givenFor (h : ∀ name ∈ Query.leftOut query, name ∉ Record.mandatory) :
    Extract.yieldOf (stored.givenFor query) = [stored.without (Query.leftOut query)] := by
  have hsource : Record.read? (.obj (Record.ofPart (stored.part.without
      (Query.leftOut query))).toFields) = _ := Record.read?_toJson _
  rw [Extract.yieldOf_eq_singleton, givenFor, Hit.read?_putSourceValue stored.read, stored.source,
    Record.leaving_toFields h, hsource, Option.map_some, Record.toPart_ofPart]
  rfl

/-- **A hit without a field that is always there is lost.** -/
theorem yieldOf_givenFor_of_mandatory {name : String} (h : name ∈ Query.leftOut query)
    (hmandatory : name ∈ Record.mandatory) : Extract.yieldOf (stored.givenFor query) = [] := by
  rw [Extract.yieldOf_eq, Option.toList_eq_nil_iff, givenFor, Hit.read?_putSourceValue stored.read,
    Record.read?_leaving_of_mandatory h hmandatory, Option.map_none]

end StoredHit

namespace Extract

variable {N T D : Type} [Operand N] [Operand T] [Operand D]

/-- **A query may leave out any fields but those that a record always has.**  When the engine leaves
out of its hits just what the composed query says, then without any of the mandatory fields among
the excluded ones every hit is read, in the order of the answer, as that of the stored part without
the excluded fields.  With a mandatory field among them no hit is read at all, and the operator is
told that all have been dropped. -/
theorem projects (kind : KindOf N T) (p : PresentationOf T D) (filters : Option (FiltersOf N T D))
    (found : List StoredHit) (answer : Json.Fields) (s : Surroundings)
    (hanswer : entriesOf answer =
      found.map (StoredHit.givenFor (Query.compose kind p filters).toJson)) :
    ∃ page, (Action.page (.obj answer)).runIn s = (.ok page, s.told (toldOf answer)) ∧
      ((∀ name ∈ p.excluded, name ∉ Record.mandatory) →
        page.hits = found.map (StoredHit.without p.excluded) ∧ dropped answer = 0) ∧
      (p.exclude = none →
        page.hits = found.map (StoredHit.without ["chunked_text", "embeddings"])) ∧
      ((∃ name ∈ p.excluded, name ∈ Record.mandatory) →
        page.hits = [] ∧ dropped answer = found.length) := by
  have hleft : Query.leftOut (Query.compose kind p filters).toJson = p.excluded :=
    Query.leftOut_toJson _
  have hhits : (ofFields answer).page.hits = found.flatMap fun stored =>
      yieldOf (stored.givenFor (Query.compose kind p filters).toJson) := by
    rw [hits_ofFields, hanswer, List.flatMap_map]
  -- What is dropped is what is missing on the page.
  have hcount := (extracts_ofFields answer).count
  rw [hanswer, List.length_map] at hcount
  have hkept (h : ∀ name ∈ p.excluded, name ∉ Record.mandatory) :
      (ofFields answer).page.hits = found.map (StoredHit.without p.excluded) := by
    rw [hhits, List.map_eq_flatMap]
    refine List.flatMap_congr fun stored _ => ?_
    rw [StoredHit.yieldOf_givenFor _ _ (hleft.symm ▸ h), hleft]
  refine ⟨_, Action.runIn_page_obj answer s, fun h => ⟨hkept h, ?_⟩, fun hnone => ?_, ?_⟩
  · rw [hkept h, List.length_map] at hcount
    omega
  · have hdefault : p.excluded = ["chunked_text", "embeddings"] := by
      rw [PresentationOf.excluded, hnone, Option.getD_none]
    have h : ∀ name ∈ p.excluded, name ∉ Record.mandatory := by
      rw [hdefault]
      decide
    rw [hkept h, hdefault]
  · rintro ⟨name, hname, hmandatory⟩
    have hlost : (ofFields answer).page.hits = [] := by
      rw [hhits, List.flatMap_eq_nil_iff]
      exact fun stored _ =>
        stored.yieldOf_givenFor_of_mandatory _ (hleft.symm ▸ hname) hmandatory
    rw [hlost, List.length_nil] at hcount
    exact ⟨hlost, by omega⟩

/-- The hit of a part as it is stored. -/
def leafFound : StoredHit where
  part := Walk.leaf
  fields := leafFields
  hit := ⟨"p", "notes", Walk.leaf, none, []⟩
  read := by rfl
  source := rfl

/-- The query of a search for everything. -/
def everything (p : Presentation) : Json :=
  (Query.compose (.fulltext none {} : KindOf Int String) p none).toJson

/-- An answer with one hit, given for a query. -/
def answerTo (query : Json) : Json.Fields :=
  [("hits", .obj [("hits", .arr [leafFound.givenFor query])])]

theorem entriesOf_answerTo (query : Json) :
    entriesOf (answerTo query) = [leafFound].map (StoredHit.givenFor query) := rfl

/-- Without its content and a field that no record has, the part is read as one without content. -/
theorem projects_content : ∃ page s,
    (Action.page (.obj (answerTo (everything { exclude := some ["content", "author"] })))).runIn
      (.answering []) = (.ok page, s) ∧
    page.hits.map Hit.part = [{ Walk.leaf with content := none }] := by
  obtain ⟨page, hrun, hkept, -⟩ := projects (.fulltext none {} : KindOf Int String)
    { exclude := some ["content", "author"] } none [leafFound] _ (.answering [])
    (entriesOf_answerTo (everything { exclude := some ["content", "author"] }))
  refine ⟨page, _, hrun, ?_⟩
  rw [(hkept (by decide)).1]
  rfl

/-- **Without the file name, the part is lost.** -/
theorem not_projects : ¬∀ (p : Presentation) (found : List StoredHit) (answer : Json.Fields),
    entriesOf answer = found.map (StoredHit.givenFor (everything p)) →
    (ofFields answer).page.hits = found.map (StoredHit.without p.excluded) := by
  intro hall
  have hleft : Query.leftOut (everything { exclude := some ["file_name"] }) = ["file_name"] :=
    Query.leftOut_toJson _
  have hname : "file_name" ∈ Query.leftOut (everything { exclude := some ["file_name"] }) :=
    hleft ▸ List.mem_singleton_self _
  have hlost : yieldOf (leafFound.givenFor (everything { exclude := some ["file_name"] })) = [] :=
    leafFound.yieldOf_givenFor_of_mandatory _ hname (by decide)
  have hkept := hall _ _ _ (entriesOf_answerTo (everything { exclude := some ["file_name"] }))
  rw [hits_ofFields, entriesOf_answerTo, List.map_singleton, List.flatMap_singleton, hlost] at hkept
  cases hkept

end Extract

end SearchGateway
