import SearchGateway.Proofs.Storage.Storing

/-!
# What an index holds

An engine keeps an object under each identifier.  A bulk request puts its objects under their
identifiers, in the place of what was there, and a deletion by query removes the objects of one
document; no other request of the gateway changes what an index holds.  `Holdings.after` is what an
index holds after the requests that were made so far.
-/

set_option autoImplicit false

namespace SearchGateway

/-- What an index holds: an object under each identifier that is taken. -/
def Holdings : Type := String → Option Json.Fields

namespace Holdings

/-- An index that holds nothing. -/
def empty : Holdings := fun _ => none

/-- Puts an object under an identifier. -/
def put (held : Holdings) (entry : String × Json.Fields) : Holdings :=
  fun id => if entry.1 = id then some entry.2 else held id

/-- Puts objects under their identifiers, one after the other. -/
def putAll (held : Holdings) (entries : List (String × Json.Fields)) : Holdings :=
  entries.foldl put held

/-- The identifier of the document that an object belongs to. -/
def documentIdOf? (body : Json.Fields) : Option String :=
  (body.get? "large_doc_id").bind Lenient.text?

/-- Removes the objects of a document. -/
def remove (held : Holdings) (documentId : String) : Holdings :=
  fun id => (held id).filter fun body => documentIdOf? body ≠ some documentId

/-- The document that a query by identifier asks for. -/
def wanted? (query : Json) : Option String :=
  ((query.get? "query").bind (·.get? "term")).bind (·.fields?) |>.bind documentIdOf?

/-- What an index holds after a request. -/
def serve (index : String) (request : EngineRequest) (held : Holdings) : Holdings :=
  match request.payload with
  | .lines text =>
    if request.method = "POST" ∧ request.path = "/" ++ index ++ "/_bulk" then
      held.putAll (Bulk.entriesOf text)
    else held
  | .json query =>
    if request.method = "POST" ∧ request.path = "/" ++ index ++ "/_delete_by_query" then
      match wanted? query with
      | some documentId => held.remove documentId
      | none => held
    else held
  | .empty => held

/-- What an index holds after the given requests, the latest of them first. -/
def after (index : String) : List EngineRequest → Holdings
  | [] => empty
  | request :: earlier => serve index request (after index earlier)

/-- What an index holds after the given requests, the latest of them first, if it held something
before. -/
def served (held : Holdings) (index : String) (requests : List EngineRequest) : Holdings :=
  requests.foldr (serve index) held

/-- The identifiers that are taken. -/
def taken (held : Holdings) : Set String := {id | (held id).isSome}

/-- The part that an index holds under an identifier. -/
def part? (held : Holdings) (id : String) : Option Part := (held id).bind Record.part?

/-! ## Putting -/

variable {held : Holdings} {index id : String}

theorem putAll_of_forall_ne {entries : List (String × Json.Fields)}
    (h : ∀ entry ∈ entries, entry.1 ≠ id) : held.putAll entries id = held id := by
  induction entries generalizing held with
  | nil => rfl
  | cons entry entries ih =>
    rw [List.forall_mem_cons] at h
    show (held.put entry).putAll entries id = _
    rw [ih h.2, put, if_neg h.1]

theorem putAll_of_mem (held : Holdings) {entries : List (String × Json.Fields)}
    (h : ∃ entry ∈ entries, entry.1 = id) :
    ∃ entry ∈ entries, entry.1 = id ∧ held.putAll entries id = some entry.2 := by
  induction entries generalizing held with
  | nil => simp at h
  | cons entry entries ih =>
    by_cases hmore : ∃ entry ∈ entries, entry.1 = id
    · obtain ⟨last, hlast, hid, hput⟩ := ih (held.put entry) hmore
      exact ⟨last, List.mem_cons_of_mem _ hlast, hid, hput⟩
    · have hnone : ∀ other ∈ entries, other.1 ≠ id := fun other hother hid =>
        hmore ⟨other, hother, hid⟩
      obtain ⟨found, hfound, hid⟩ := h
      rcases List.mem_cons.mp hfound with rfl | hfound
      · refine ⟨found, List.mem_cons_self .., hid, ?_⟩
        show (held.put found).putAll entries id = _
        rw [putAll_of_forall_ne hnone, put, if_pos hid]
      · exact absurd hid (hnone found hfound)

theorem putAll_append (held : Holdings) (first second : List (String × Json.Fields)) :
    held.putAll (first ++ second) = (held.putAll first).putAll second :=
  List.foldl_append

/-- What is under an identifier that is put anew makes no difference. -/
theorem putAll_congr {held held' : Holdings} {entries : List (String × Json.Fields)}
    (h : ∀ id, (∀ entry ∈ entries, entry.1 ≠ id) → held id = held' id) :
    held.putAll entries = held'.putAll entries := by
  induction entries generalizing held held' with
  | nil => exact funext fun id => h id (List.forall_mem_nil _)
  | cons entry entries ih =>
    refine ih fun id hid => ?_
    by_cases hentry : entry.1 = id
    · rw [put, put, if_pos hentry, if_pos hentry]
    · rw [put, put, if_neg hentry, if_neg hentry]
      exact h id (List.forall_mem_cons.mpr ⟨hentry, hid⟩)

/-- Putting the same objects again changes nothing. -/
theorem putAll_putAll (held : Holdings) (entries : List (String × Json.Fields)) :
    (held.putAll entries).putAll entries = held.putAll entries :=
  putAll_congr fun _ hid => putAll_of_forall_ne hid

/-- The order does not matter in which objects are put under different identifiers. -/
theorem putAll_perm (held : Holdings) {entries entries' : List (String × Json.Fields)}
    (hperm : entries.Perm entries') (hnodup : (entries.map Prod.fst).Nodup) :
    held.putAll entries = held.putAll entries' := by
  refine hperm.foldl_eq' (fun first hfirst second hsecond held => ?_) held
  by_cases hsame : first.1 = second.1
  · rw [List.inj_on_of_nodup_map hnodup hfirst hsecond hsame]
  · funext id
    by_cases hid : first.1 = id
    · have hother : second.1 ≠ id := fun h => hsame (hid.trans h.symm)
      simp only [put, if_pos hid, if_neg hother]
    · simp only [put, if_neg hid]

/-- Objects under different identifiers take as many identifiers as they are. -/
theorem encard_taken_putAll {entries : List (String × Json.Fields)}
    (hnodup : (entries.map Prod.fst).Nodup) :
    (empty.putAll entries).taken.encard = entries.length := by
  have htaken : (empty.putAll entries).taken = ((entries.map Prod.fst).toFinset : Set String) := by
    ext id
    rw [Finset.mem_coe, List.mem_toFinset, List.mem_map]
    by_cases hput : ∃ entry ∈ entries, entry.1 = id
    · obtain ⟨entry, -, -, hheld⟩ := putAll_of_mem empty hput
      simp [taken, hheld, hput]
    · have hne : ∀ entry ∈ entries, entry.1 ≠ id := fun entry hentry hid => hput ⟨entry, hentry, hid⟩
      simpa [taken, putAll_of_forall_ne hne, empty] using hput
  rw [htaken, Set.encard_coe_eq_coe_finsetCard, List.toFinset_card_of_nodup hnodup,
    List.length_map]

/-- What is not put anew stays. -/
theorem part?_putAll_of_forall_ne {sent : List Part}
    (h : ∀ part ∈ sent, part.storedId index ≠ id) :
    (held.putAll (sent.map (Bulk.entry index))).part? id = held.part? id := by
  have hentries : ∀ entry ∈ sent.map (Bulk.entry index), entry.1 ≠ id := by
    intro entry hentry
    obtain ⟨part, hpart, rfl⟩ := List.mem_map.mp hentry
    exact h part hpart
  rw [part?, putAll_of_forall_ne hentries, part?]

/-- Under an identifier that parts are put under there is one of them. -/
theorem part?_putAll_of_mem (held : Holdings) {sent : List Part}
    (h : ∃ part ∈ sent, part.storedId index = id) :
    ∃ part ∈ sent, part.storedId index = id ∧
      (held.putAll (sent.map (Bulk.entry index))).part? id = some part := by
  obtain ⟨part, hpart, hid⟩ := h
  have hentry : ∃ entry ∈ sent.map (Bulk.entry index), entry.1 = id :=
    ⟨Bulk.entry index part, List.mem_map_of_mem hpart, hid⟩
  obtain ⟨entry, hentry, hid, hput⟩ := putAll_of_mem held hentry
  obtain ⟨last, hlast, rfl⟩ := List.mem_map.mp hentry
  refine ⟨last, hlast, hid, ?_⟩
  rw [part?, hput]
  exact Record.part?_toFields last

/-- Under every identifier there is a part that was put there, or what was there before. -/
theorem part?_putAll_cases (index id : String) (held : Holdings) (sent : List Part) :
    (∃ part ∈ sent, part.storedId index = id ∧
      (held.putAll (sent.map (Bulk.entry index))).part? id = some part) ∨
    ((∀ part ∈ sent, part.storedId index ≠ id) ∧
      (held.putAll (sent.map (Bulk.entry index))).part? id = held.part? id) := by
  by_cases hput : ∃ part ∈ sent, part.storedId index = id
  · left
    exact part?_putAll_of_mem held hput
  · right
    have hne : ∀ part ∈ sent, part.storedId index ≠ id := by
      intro part hpart hid
      exact hput ⟨part, hpart, hid⟩
    exact ⟨hne, part?_putAll_of_forall_ne hne⟩

/-! ## Removing -/

/-- A deletion leaves the parts of all other documents. -/
theorem part?_remove (held : Holdings) (documentId id : String) :
    (held.remove documentId).part? id =
      (held.part? id).filter fun part => part.documentId ≠ documentId := by
  unfold part? remove
  cases held id with
  | none => rfl
  | some body =>
    cases hread : Record.readFields body with
    | valid r =>
      -- What is read of an object belongs to the document that the object belongs to.
      have hpart : Record.part? body = some r.toPart := Record.part?_eq_some.mpr ⟨r, hread, rfl⟩
      have hid : documentIdOf? body = some r.toPart.documentId :=
        Record.documentId_of_readFields hread
      by_cases h : r.toPart.documentId = documentId
      · simp [Option.filter, hpart, hid, h]
      · simp [Option.filter, hpart, hid, h]
    | invalid names =>
      have hpart : Record.part? body = none := by rw [Record.part?, hread]; rfl
      by_cases h : documentIdOf? body = some documentId
      · simp [Option.filter, hpart, h]
      · simp [Option.filter, hpart, h]

/-! ## Requests -/

theorem serve_bulk (index text : String) (held : Holdings) :
    serve index (Bulk.request index text) held = held.putAll (Bulk.entriesOf text) := by
  simp [serve, Bulk.request]

theorem serve_description (index index' : String) (held : Holdings) :
    serve index (Engine.descriptionRequest index') held = held := rfl

theorem serve_deletion (index documentId : String) (held : Holdings) :
    serve index (Engine.deletionRequest index documentId) held = held.remove documentId := by
  simp [serve, Engine.deletionRequest]
  rfl

end Holdings

end SearchGateway
