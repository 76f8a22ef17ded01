import SearchGateway.Proofs.Search.Inquiry
import SearchGateway.Proofs.Search.Meaning
import SearchGateway.Proofs.Storage.Versions

/-!
# Documents that share an identifier

Parts are fetched and deleted by the identifier of their document.  So whoever fetches or deletes a
document takes in every other one with the same identifier.  These are the documents that one text
gives if it is cut at different line breaks, since a path may have line breaks as well: the
identifier of a document tells it from another one exactly if neither runs into the other
(`Document.tells_iff`).
-/

set_option autoImplicit false

namespace SearchGateway

open SearchGateway.Action

/-! ## Fetching and deleting by identifier -/

/-- The parts that are fetched for an identifier are those that bear it. -/
theorem Storage.selects_partsQuery (judge : Judge) (documentId : String) (part : Part) :
    ∃ clause, (partsQuery documentId).toJson.get? "query" = some clause ∧
      (Selects judge clause (.whole (Record.ofPart part).toJson) ↔
        part.documentId = documentId) := by
  refine ⟨_, Query.get?_query _, ?_⟩
  rw [← Scope.ofPart]
  show Selects judge ((KindOf.retrieve none (some documentId) none : Kind).clause []).toJson _ ↔ _
  rw [KindOf.selects_clause]
  simp [KindOf.Admits]

/-- What is held of a document is gone once it is deleted, and what is held of others stays. -/
theorem Storage.part?_deleteDocument (storage : Storage) (index documentId : String) {id : String}
    {part : Part} {s : Surroundings}
    (hheld : (Holdings.after index s.requests).part? id = some part) :
    (Holdings.after index
      ((storage.deleteDocument index documentId).runIn s).2.requests).part? id =
        if part.documentId = documentId then none else some part := by
  rw [requests_deleteDocument, Holdings.after, Holdings.serve_deletion, Holdings.part?_remove,
    hheld, Option.filter_some]
  by_cases h : part.documentId = documentId
  · simp [h]
  · simp [h]

namespace Document

variable {d d' : Document} {part : Part}

/-! ## Parts of a document -/

/-- The part is one of those that the document is divided into, embedded or not. -/
def Has (d : Document) (part : Part) : Prop :=
  ∃ storage, part.bare ∈ (Change.store storage d).parts

theorem Has.documentId_eq (h : d.Has part) : part.documentId = d.id := by
  obtain ⟨storage, hpart⟩ := h
  obtain ⟨_, _, _, hstore, hdivide, hmem⟩ := Change.exists_of_mem_parts hpart
  obtain ⟨rfl, rfl⟩ := Change.store.inj hstore
  show part.bare.documentId = d.id
  exact Segment.documentId_of_mem_divide hdivide hmem

/-- Identifiers say as much as the texts that they are made of, as far as the digest tells these
apart. -/
theorem id_eq_iff (hapart : Digest.TellsApart [d.identity, d'.identity]) :
    d.id = d'.id ↔ d.identity = d'.identity :=
  ⟨hapart _ (List.mem_cons_self ..) _ (List.mem_cons_of_mem _ (List.mem_cons_self ..)),
    congrArg Digest.ofText⟩

/-! ## Telling documents apart -/

/-- The identifier of a document tells it from the other one. -/
structure Tells (d d' : Document) : Prop where
  /-- The text that the identifier is made of gives path and content. -/
  identity : d.identity = d'.identity → d.IsSame d'
  id : Digest.TellsApart [d.identity, d'.identity] → d.id = d'.id → d.IsSame d'
  /-- Whoever fetches the one asks for no part of the other. -/
  fetches : Digest.TellsApart [d.identity, d'.identity] → ¬d.IsSame d' →
    ∀ (storage : Storage) (index : String) (judge : Judge) (part : Part), d'.Has part →
    ∀ (s t : Surroundings) (result : Except Fault (List Part)),
      (storage.getDocumentParts index d.id).runIn s = (result, t) →
      ∃ query clause rest,
        s.Asks (Engine.searchRequest [index] query (some storage.lifetime) :: rest) t ∧
        (∀ sent ∈ rest, sent.isOfSession) ∧ query.get? "query" = some clause ∧
        ¬Selects judge clause (.whole (Record.ofPart part).toJson)
  /-- Whoever deletes the one leaves every part of the other where it is. -/
  deletes : Digest.TellsApart [d.identity, d'.identity] → ¬d.IsSame d' →
    ∀ (storage : Storage) (index id : String) (part : Part), d'.Has part → ∀ s : Surroundings,
      (Holdings.after index s.requests).part? id = some part →
      (Holdings.after index ((storage.deleteDocument index d.id).runIn s).2.requests).part? id =
        some part

/-- The identifier of a document stands for another one as well. -/
structure Mistakes (d d' : Document) : Prop where
  differ : ¬d.IsSame d'
  id : d.id = d'.id
  /-- Whoever fetches the one asks for every part of the other. -/
  fetches : ∀ (judge : Judge) (part : Part), d'.Has part → ∃ clause,
    (Storage.partsQuery d.id).toJson.get? "query" = some clause ∧
      Selects judge clause (.whole (Record.ofPart part).toJson)
  /-- Whoever deletes the one deletes every part of the other. -/
  deletes : ∀ (storage : Storage) (index id : String) (part : Part), d'.Has part →
    ∀ s : Surroundings, (Holdings.after index s.requests).part? id = some part →
      (Holdings.after index ((storage.deleteDocument index d.id).runIn s).2.requests).part? id =
        none

theorem mistakes_of_runsInto (h : d.RunsInto d' ∨ d'.RunsInto d) : d.Mistakes d' := by
  have hid : d.id = d'.id := congrArg Digest.ofText (identity_eq_iff.mpr (.inr h))
  refine ⟨?_, hid, ?_, ?_⟩
  · rcases h with hruns | hruns
    · exact hruns.not_isSame
    · exact fun hsame => hruns.not_isSame ⟨hsame.1.symm, hsame.2.symm⟩
  · intro judge part hpart
    obtain ⟨clause, hclause, hselects⟩ := Storage.selects_partsQuery judge d.id part
    exact ⟨clause, hclause, hselects.mpr (hpart.documentId_eq.trans hid.symm)⟩
  · intro storage index id part hpart s hheld
    rw [Storage.part?_deleteDocument storage index d.id hheld,
      if_pos (hpart.documentId_eq.trans hid.symm)]

theorem tells_of_not_runsInto (h : ¬(d.RunsInto d' ∨ d'.RunsInto d)) : d.Tells d' := by
  have hsame : d.identity = d'.identity → d.IsSame d' := fun hidentity =>
    (identity_eq_iff.mp hidentity).resolve_right h
  have hother (hapart : Digest.TellsApart [d.identity, d'.identity]) (hne : ¬d.IsSame d')
      {part : Part} (hpart : d'.Has part) : part.documentId ≠ d.id := by
    intro hid
    rw [hpart.documentId_eq] at hid
    exact hne (hsame ((id_eq_iff hapart).mp hid.symm))
  refine ⟨hsame, fun hapart hid => hsame ((id_eq_iff hapart).mp hid), ?_, ?_⟩
  · intro hapart hne storage index judge part hpart s t result hrun
    obtain ⟨rest, hasks, hsession⟩ := Storage.getDocumentParts_asks hrun
    obtain ⟨clause, hclause, hselects⟩ := Storage.selects_partsQuery judge d.id part
    exact ⟨_, clause, rest, hasks, hsession, hclause, hselects.not.mpr (hother hapart hne hpart)⟩
  · intro hapart hne storage index id part hpart s hheld
    rw [Storage.part?_deleteDocument storage index d.id hheld, if_neg (hother hapart hne hpart)]

/-- **An identifier tells a document from another one exactly if neither runs into the other.**  So
it always does if paths have no line breaks.  Otherwise it stands for both: whoever fetches or
deletes the one does so with the other. -/
theorem tells_iff (d d' : Document) :
    (d.Tells d' ↔ ¬(d.RunsInto d' ∨ d'.RunsInto d)) ∧
    ('\n' ∉ d.file.path.toList → '\n' ∉ d'.file.path.toList → d.Tells d') ∧
    (d.RunsInto d' ∨ d'.RunsInto d → d.Mistakes d') := by
  refine ⟨⟨?_, tells_of_not_runsInto⟩, ?_, mistakes_of_runsInto⟩
  · intro htells hruns
    have hmistakes := mistakes_of_runsInto hruns
    exact hmistakes.differ (htells.identity (identity_eq_iff.mpr (.inr hruns)))
  · intro hd hd'
    exact tells_of_not_runsInto
      (not_or.mpr ⟨not_runsInto_of_path hd', not_runsInto_of_path hd⟩)

/-- A file of two lines. -/
def untitled : Document := ⟨⟨"a.md", "docs/a.md", 3, 1, 2⟩, "b\nc", none⟩

/-- A file of one line, with a line break in its name. -/
def titled : Document := ⟨⟨"a.md\nb", "docs/a.md\nb", 1, 1, 2⟩, "c", none⟩

/-- **Not every document can be told from all others.**  Both files are identified by the same three
lines. -/
theorem not_tells_titled : ¬∀ d d' : Document, d.Tells d' := by
  intro hall
  have hpath : untitled.file.path = titled.file.path :=
    ((hall untitled titled).identity rfl).1
  exact absurd hpath (by decide)

end Document

end SearchGateway
