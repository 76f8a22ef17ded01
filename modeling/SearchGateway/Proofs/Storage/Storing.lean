import SearchGateway.Proofs.Embedding.Embedder
import SearchGateway.Proofs.Engine.Bulk
import SearchGateway.Proofs.Segment
import SearchGateway.Proofs.Session
import SearchGateway.Storage

/-!
# What storing and deleting a document does

A document that was stored had its index looked up, was divided, had its parts embedded if there is
an embedder, and sent them in one bulk request (`Storage.storeDocument_ok`).  Deleting a document
takes one request (`Storage.requests_deleteDocument`).  Nothing else is asked of the engine.
-/

set_option autoImplicit false

namespace SearchGateway

open SearchGateway.Action

/-! ## Requests -/

namespace Engine

/-- The request for the description of an index. -/
def descriptionRequest (index : String) : EngineRequest :=
  ⟨"GET", "/_cat/indices/" ++ index, asJson, .empty⟩

/-- The request that deletes all parts of a document. -/
def deletionRequest (index documentId : String) : EngineRequest :=
  ⟨"POST", "/" ++ index ++ "/_delete_by_query", [],
    .json (.obj [("query", .obj [("term", .obj [("large_doc_id", .str documentId)])])])⟩

theorem runIn_getIndex (engine : Engine) (index : String) (s : Surroundings) :
    ((engine.getIndex index).runIn s).2 =
      s.asked engine.connection (descriptionRequest index) := by
  rw [getIndex, runIn_bind, runIn_request]
  dsimp only
  rw [← descriptionRequest]
  split
  case h_1 value t h =>
    obtain ⟨-, rfl⟩ := Prod.mk.inj h
    rw [runIn_bind, runIn_ofExcept]
    cases IndexInfo.readAll value with
    | error fault => rfl
    | ok infos => cases infos <;> rfl
  case h_2 t h => exact (Prod.mk.inj h).2.symm

theorem keeps_getIndex {γ : Type} {view : Surroundings → γ} (hview : OverlooksEngine view)
    (engine : Engine) (index : String) : Keeps view (engine.getIndex index) := by
  refine (engine.keeps_request hview _).bind fun _ => (keeps_ofExcept _).bind fun infos => ?_
  cases infos with
  | nil => exact keeps_throw _
  | cons info _ => exact keeps_pure info

theorem runIn_deleteParts (engine : Engine) (index documentId : String) (s : Surroundings) :
    ((engine.deleteParts index documentId).runIn s).2 =
      s.asked engine.connection (deletionRequest index documentId) := by
  rw [deleteParts, runIn_bind, runIn_request]
  split
  case h_1 h =>
    obtain ⟨-, rfl⟩ := Prod.mk.inj h
    rfl
  case h_2 h => exact (Prod.mk.inj h).2.symm

end Engine

namespace Storage

/-! ## Embedding -/

/-- A part as it is stored: with its content embedded if there is what embeds it. -/
def IsStoredAs (embedder : Option Embedder) (part stored : Part) : Prop :=
  match embedder with
  | none => stored = part
  | some _ => ∃ embedding, stored =
      { part with chunks := some [part.content.getD ""], embeddings := some [embedding] }

theorem IsStoredAs.documentId_eq {embedder : Option Embedder} {part stored : Part}
    (h : IsStoredAs embedder part stored) : stored.documentId = part.documentId := by
  cases embedder with
  | none => exact congrArg Part.documentId h
  | some e =>
    obtain ⟨embedding, rfl⟩ := h
    rfl

theorem IsStoredAs.storedId_eq {embedder : Option Embedder} {part stored : Part}
    (h : IsStoredAs embedder part stored) (index : String) :
    stored.storedId index = part.storedId index := by
  cases embedder with
  | none => exact congrArg (Part.storedId index) h
  | some e =>
    obtain ⟨embedding, rfl⟩ := h
    rfl

theorem keeps_embedParts {γ : Type} {view : Surroundings → γ} (hview : OverlooksEmbedding view)
    (embedder : Option Embedder) (parts : List Part) : Keeps view (embedParts embedder parts) := by
  cases embedder with
  | none => exact keeps_pure parts
  | some e =>
    exact Keeps.mapM (fun part => (e.keeps_embedPassage hview _).bind fun _ => keeps_pure _) parts

theorem isAside_embedParts (embedder : Option Embedder) (parts : List Part) :
    IsAside (embedParts embedder parts) :=
  isAside_iff_keeps.mpr (keeps_embedParts overlooksEmbedding_engine embedder parts)

theorem embedPart_ok {embedder : Embedder} {part sent : Part} {s t : Surroundings}
    (h : (embedPart embedder part).runIn s = (.ok sent, t)) :
    IsStoredAs (some embedder) part sent := by
  rw [embedPart] at h
  obtain ⟨embedding, u, -, h⟩ := runIn_bind_ok.mp h
  exact ⟨embedding, (Except.ok.inj (Prod.mk.inj h).1).symm⟩

/-- Every part is stored in its place. -/
theorem embedParts_ok {embedder : Option Embedder} {parts sent : List Part}
    {s t : Surroundings} (h : (embedParts embedder parts).runIn s = (.ok sent, t)) :
    List.Forall₂ (IsStoredAs embedder) parts sent := by
  cases embedder with
  | none =>
    obtain ⟨h, -⟩ := Prod.mk.inj h
    obtain rfl := Except.ok.inj h
    exact List.forall₂_same.mpr fun part _ => rfl
  | some e =>
    refine List.Forall₂.imp ?_ (runIn_mapM_ok h)
    rintro part sent ⟨s, t, hpart⟩
    exact embedPart_ok hpart

/-! ## Storing -/

theorem keeps_storeDocument {γ : Type} {view : Surroundings → γ} (hengine : OverlooksEngine view)
    (hembedding : OverlooksEmbedding view) (storage : Storage) (index : String)
    (document : Document) : Keeps view (storage.storeDocument index document) :=
  (storage.indexes.keeps_getIndex hengine index).bind fun _ => (keeps_ofExcept _).bind fun _ =>
    (keeps_embedParts hembedding _ _).bind fun _ =>
      storage.documents.keeps_storeParts hengine index _

/-- The engine is asked for the description of the index first, whatever comes of it. -/
theorem requests_storeDocument (storage : Storage) (index : String) (document : Document)
    (s : Surroundings) : ∃ asked, ((storage.storeDocument index document).runIn s).2.requests =
      asked ++ Engine.descriptionRequest index :: s.requests := by
  have hindex := storage.indexes.runIn_getIndex index s
  rw [storeDocument, runIn_bind]
  rcases hfound : (storage.indexes.getIndex index).runIn s with ⟨fault | info, t⟩
  · obtain rfl : t = _ := hfound ▸ hindex
    exact ⟨[], rfl⟩
  · obtain rfl : t = _ := hfound ▸ hindex
    dsimp only
    rw [runIn_bind, runIn_ofExcept]
    cases Segment.divide document storage.maxSize storage.overlapRate with
    | error fault => exact ⟨[], rfl⟩
    | ok parts =>
      have haside := isAside_embedParts storage.embedder parts
        (s.asked storage.indexes.connection (Engine.descriptionRequest index))
      dsimp only
      rw [runIn_bind]
      rcases hembed : (embedParts storage.embedder parts).runIn
        (s.asked storage.indexes.connection (Engine.descriptionRequest index))
        with ⟨fault | sent, u⟩
      · rw [hembed] at haside
        exact ⟨[], haside.requests⟩
      · rw [hembed] at haside
        obtain ⟨asked, hasked⟩ := storage.documents.requests_storeParts index sent u
        exact ⟨asked, hasked.trans (congrArg (asked ++ ·) haside.requests)⟩

/-- What it takes to store a document: its parts, the parts as they are sent, and the text of the
request that sends them. -/
structure Stores (storage : Storage) (index : String) (document : Document)
    (parts sent : List Part) (text : String) : Prop where
  divided : Segment.divide document storage.maxSize storage.overlapRate = .ok parts
  embedded : ∃ s t, (embedParts storage.embedder parts).runIn s = (.ok sent, t)
  nonempty : sent ≠ []
  written : Bulk.text index sent = .ok text

theorem Stores.storedAs {storage : Storage} {index : String} {document : Document}
    {parts sent : List Part} {text : String} (h : storage.Stores index document parts sent text) :
    List.Forall₂ (IsStoredAs storage.embedder) parts sent := by
  obtain ⟨s, t, hembedded⟩ := h.embedded
  exact embedParts_ok hembedded

/-- The steps in which a document was stored. -/
theorem storeDocument_steps {storage : Storage} {index : String} {document : Document}
    {stored : Stored} {s t : Surroundings}
    (h : (storage.storeDocument index document).runIn s = (.ok stored, t)) :
    ∃ parts sent u, Segment.divide document storage.maxSize storage.overlapRate = .ok parts ∧
      (embedParts storage.embedder parts).runIn
        (s.asked storage.indexes.connection (Engine.descriptionRequest index)) = (.ok sent, u) ∧
      (storage.documents.storeParts index sent).runIn u = (.ok stored, t) := by
  rw [storeDocument] at h
  obtain ⟨info, s₁, hindex, hdividing⟩ := runIn_bind_ok.mp h
  obtain ⟨parts, s₂, hdivide, hembedding⟩ := runIn_bind_ok.mp hdividing
  obtain ⟨sent, s₃, hembed, hsending⟩ := runIn_bind_ok.mp hembedding
  rw [runIn_ofExcept] at hdivide
  obtain ⟨hdivided, rfl⟩ := Prod.mk.inj hdivide
  have hasked := storage.indexes.runIn_getIndex index s
  rw [show (storage.indexes.getIndex index).runIn s = _ from hindex] at hasked
  dsimp only at hasked
  subst hasked
  exact ⟨parts, sent, s₃, hdivided, hembed, hsending⟩

/-- **What was done if a document was stored.** -/
theorem storeDocument_ok {storage : Storage} {index : String} {document : Document}
    {stored : Stored} {s t : Surroundings}
    (h : (storage.storeDocument index document).runIn s = (.ok stored, t)) :
    ∃ parts sent text, storage.Stores index document parts sent text ∧
      t.requests = Bulk.request index text :: Engine.descriptionRequest index :: s.requests ∧
      stored.documentId = document.id := by
  obtain ⟨parts, sent, u, hdivided, hembed, hsending⟩ := storeDocument_steps h
  -- Between the description of the index and the bulk request the engine is not asked anything.
  have haside := isAside_embedParts storage.embedder parts
    (s.asked storage.indexes.connection (Engine.descriptionRequest index))
  rw [hembed] at haside
  obtain ⟨first, rest, text, rfl, htext, hrequests, rfl⟩ := Engine.storeParts_ok hsending
  have hstored := embedParts_ok hembed
  refine ⟨parts, first :: rest, text,
    ⟨hdivided, ⟨_, _, hembed⟩, List.cons_ne_nil _ _, htext⟩, ?_, ?_⟩
  · rw [hrequests, haside.requests]
    rfl
  · -- The first part that was sent is the first one of the division.
    cases hstored with
    | cons hfirst _ =>
      obtain ⟨n, content, -, rfl⟩ := Segment.mem_divide hdivided (List.mem_cons_self ..)
      exact hfirst.documentId_eq

/-- A document is stored if its index is there, it can be divided, its parts can be embedded and
written, and the engine acknowledges them. -/
theorem runIn_storeDocument {storage : Storage} {index text : String} {document : Document}
    {info : IndexInfo} {parts rest : List Part} {first : Part} {s t u : Surroundings}
    (hindex : (storage.indexes.getIndex index).runIn s = (.ok info, t))
    (hdivide : Segment.divide document storage.maxSize storage.overlapRate = .ok parts)
    (hembed : (embedParts storage.embedder parts).runIn t = (.ok (first :: rest), u))
    (htext : Bulk.text index (first :: rest) = .ok text)
    (hack : u.reply.outcome "POST" ("/" ++ index ++ "/_bulk") >>= Bulk.acknowledge = .ok ()) :
    (storage.storeDocument index document).runIn s =
      (.ok ⟨first.documentId, first.storedId index, rest.length + 1⟩,
        (u.asked storage.documents.connection (Bulk.request index text)).noting (.logged ⟨.info,
          s!"Stored {rest.length + 1} parts of {first.file.name} in {index}"⟩)) := by
  rw [storeDocument, runIn_bind_of_ok hindex, hdivide,
    runIn_bind_of_ok (runIn_ofExcept _ t), runIn_bind_of_ok hembed, Engine.runIn_storeParts _ htext]
  dsimp only
  rw [hack]

/-- Deleting a document takes one request, whatever comes of it. -/
theorem requests_deleteDocument (storage : Storage) (index documentId : String)
    (s : Surroundings) : ((storage.deleteDocument index documentId).runIn s).2.requests =
      Engine.deletionRequest index documentId :: s.requests := by
  have hasked := storage.documents.runIn_deleteParts index documentId s
  rw [deleteDocument, runIn_bind]
  rcases hdelete : (storage.documents.deleteParts index documentId).runIn s with ⟨fault | _, t⟩
  · rw [hdelete] at hasked
    rw [show t = _ from hasked]
    rfl
  · rw [hdelete] at hasked
    rw [show t = _ from hasked]
    rfl

/-- **What was done if a document was deleted.** -/
theorem deleteDocument_ok {storage : Storage} {index documentId : String} {s t : Surroundings}
    (h : (storage.deleteDocument index documentId).runIn s = (.ok (), t)) :
    t.requests = Engine.deletionRequest index documentId :: s.requests := by
  have hasked := storage.requests_deleteDocument index documentId s
  rwa [h] at hasked

/-! ## A plain storage -/

/-- The answer that lists one index. -/
def listing : Json := .arr [.obj [("index", .str "notes")]]

theorem runIn_getIndex_listing {s : Surroundings} (h : s.reply = .rendered listing) :
    ∃ info, (Engine.plain.getIndex "notes").runIn s =
      (.ok info, s.asked Engine.plain.connection (Engine.descriptionRequest "notes")) := by
  rw [Engine.getIndex, runIn_bind, Engine.runIn_request, h,
    Reply.outcome_rendered (by decide) (by decide)]
  exact ⟨_, rfl⟩

/-- A storage in its plainest form. -/
def plain : Storage where
  indexes := Engine.plain
  documents := Engine.plain
  engine := Engine.plain
  paginator := { engine := Engine.plain }

/-- A plain storage stores what can be divided and written if the engine lists the index and then
answers with an empty object. -/
theorem runIn_storeDocument_plain {maxSize : ℤ} {document : Document} {first : Part}
    {more : List Part}
    (hdivide : Segment.divide document maxSize plain.overlapRate = .ok (first :: more))
    (hw : ∀ part ∈ first :: more, Bulk.IsWritable part) {s : Surroundings} {replies : List Reply}
    (hs : s.engineReplies = .rendered listing :: .rendered (.obj []) :: replies) :
    ∃ stored t, (({ plain with maxSize := maxSize } : Storage).storeDocument "notes" document).runIn
      s = (.ok stored, t) ∧ t.engineReplies = replies := by
  obtain ⟨info, hindex⟩ := runIn_getIndex_listing (Surroundings.reply_of_cons hs)
  obtain ⟨text, htext⟩ : ∃ text, Bulk.text "notes" (first :: more) = .ok text :=
    ⟨_, Bulk.text_eq_ok.mpr ⟨hw, rfl⟩⟩
  have hasked := Surroundings.engineReplies_asked_of_cons hs Engine.plain.connection
    (Engine.descriptionRequest "notes")
  refine ⟨_, _, runIn_storeDocument hindex hdivide rfl htext ?_, ?_⟩
  · rw [Surroundings.reply_of_cons hasked, Reply.outcome_rendered (by decide) (by decide)]
    rfl
  · exact Surroundings.engineReplies_asked_of_cons hasked Engine.plain.connection
      (Bulk.request "notes" text)

/-- A plain storage deletes whatever document if the engine answers with an empty object. -/
theorem runIn_deleteDocument_plain (documentId : String) {s : Surroundings} {replies : List Reply}
    (hs : s.engineReplies = .rendered (.obj []) :: replies) :
    ∃ t, (plain.deleteDocument "notes" documentId).runIn s = (.ok (), t) ∧
      t.engineReplies = replies := by
  rw [deleteDocument, runIn_bind, Engine.deleteParts, runIn_bind, Engine.runIn_request,
    Surroundings.reply_of_cons hs, Reply.outcome_rendered (by decide) (by decide)]
  exact ⟨_, rfl, Surroundings.engineReplies_asked_of_cons hs Engine.plain.connection
    (Engine.deletionRequest "notes" documentId)⟩

end Storage

end SearchGateway
