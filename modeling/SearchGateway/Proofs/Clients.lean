import SearchGateway.Proofs.Storage.Storing
import SearchGateway.Search.Searcher

/-!
# Clients

Clients are made by the recipes of the gateway and closed by its container.  No operation of the
services that use them makes or closes one: storing, searching and walking through pages leave the
`ledger` of clients as it is.
-/

set_option autoImplicit false

namespace SearchGateway

open SearchGateway.Action

variable {α : Type}

/-- The HTTP client that an event made. -/
def Event.opened? : Event → Option ℕ
  | .opened client => some client
  | _ => none

/-- The HTTP client that an event closed. -/
def Event.closed? : Event → Option ℕ
  | .closed client => some client
  | _ => none

namespace Surroundings

/-- The HTTP clients that were made so far, the latest first. -/
def opened (s : Surroundings) : List ℕ := s.events.filterMap Event.opened?

/-- The HTTP clients that were closed so far, the latest first. -/
def closed (s : Surroundings) : List ℕ := s.events.filterMap Event.closed?

/-- What was made so far, counted, and which HTTP clients were made and closed. -/
def ledger (s : Surroundings) : ℕ × List ℕ × List ℕ := (s.made, s.opened, s.closed)

end Surroundings

/-- An action that neither makes nor closes clients. -/
abbrev Action.IsSteady (action : Action α) : Prop := Keeps Surroundings.ledger action

theorem overlooksEmbedding_ledger : OverlooksEmbedding Surroundings.ledger where
  noting s event hevent := by
    cases event with
    | opened | closed => exact hevent.elim
    | _ => rfl
  embeddingReplies _ _ := rfl
  modelOutputs _ _ := rfl
  loadedModels _ _ := rfl

theorem overlooksEngine_ledger : OverlooksEngine Surroundings.ledger where
  asked _ _ _ := rfl
  logged _ _ := rfl

theorem Action.isSteady_log (level : Level) (message : String) : IsSteady (log level message) :=
  fun _ => rfl

theorem Action.isSteady_page (value : Json) : IsSteady (page value) :=
  (keeps_ofExcept _).bind fun _ =>
    Keeps.bind (Keeps.forM (fun _ _ => rfl) _) fun _ => keeps_pure _

/-! ## The engine -/

namespace Engine

variable (engine : Engine)

theorem isSteady_request (request : EngineRequest) : IsSteady (engine.request request) :=
  engine.keeps_request overlooksEngine_ledger request

theorem isSteady_clearScroll (cursor : String) : IsSteady (engine.clearScroll cursor) :=
  (engine.isSteady_request _).bind fun _ => keeps_pure _

theorem isSteady_createIndex {N : Type} [Operand N] (spec : IndexSpecOf N) :
    IsSteady (engine.createIndex spec) :=
  (engine.isSteady_request _).bind fun _ => (isSteady_log _ _).bind fun _ => keeps_pure _

theorem isSteady_deleteIndex (index : String) : IsSteady (engine.deleteIndex index) :=
  (engine.isSteady_request _).bind fun _ => isSteady_log _ _

theorem isSteady_getIndex (index : String) : IsSteady (engine.getIndex index) :=
  engine.keeps_getIndex overlooksEngine_ledger index

theorem isSteady_getAllIndexes : IsSteady engine.getAllIndexes :=
  (engine.isSteady_request _).bind fun _ => (keeps_ofExcept _).bind fun _ => keeps_ofDefect _

theorem isSteady_initPipelines (spec : VectorSpec) : IsSteady (engine.initPipelines spec) := by
  unfold initPipelines
  split
  · exact keeps_throw _
  · exact (engine.isSteady_request _).bind fun _ => isSteady_log _ _

theorem isSteady_getPart (index partId : String) : IsSteady (engine.getPart index partId) := by
  refine (engine.isSteady_request _).bind fun value => ?_
  cases Hit.read? value with
  | none => exact keeps_throw _
  | some hit => exact keeps_pure _

end Engine

/-! ## Sessions -/

namespace Paginator

variable (paginator : Paginator)

theorem isSteady_paginate (cursor : String) (lifetime : Option String) :
    IsSteady (paginator.paginate cursor lifetime) := by
  unfold paginate
  split
  · exact keeps_throw _
  · exact (paginator.engine.isSteady_request _).bind fun _ => isSteady_page _

theorem isSteady_deleteSession (cursor : String) :
    IsSteady (paginator.deleteSession cursor) := by
  unfold deleteSession
  split
  · exact keeps_throw _
  · exact (paginator.engine.isSteady_clearScroll _).bind fun _ => isSteady_log _ _

end Paginator

namespace Walk

variable (walk : Walk) (paginator : Paginator)

theorem isSteady_release : IsSteady (walk.release paginator) := by
  unfold release
  split
  · exact keeps_pure _
  · exact paginator.isSteady_deleteSession _

theorem isSteady_next : IsSteady (walk.next paginator) := by
  have hrelease := (walk.isSteady_release paginator).attempt
  unfold next
  split
  · exact keeps_pure _
  · exact keeps_pure _
  · exact keeps_pure _
  · split
    · refine hrelease.bind fun result => ?_
      cases result <;> exact keeps_pure _
    · refine (paginator.isSteady_paginate _ _).attempt.bind fun result => ?_
      cases result with
      | ok page => exact keeps_pure _
      | error fault =>
        refine hrelease.bind fun result => ?_
        cases result <;> exact keeps_pure _

theorem isSteady_collect (fuel : ℕ) : IsSteady (collect paginator fuel walk) := by
  induction fuel generalizing walk with
  | zero => exact keeps_pure _
  | succ fuel ih =>
    refine (walk.isSteady_next paginator).bind fun found => ?_
    rcases found with ⟨_ | _ | page, walk'⟩
    · exact keeps_throw _
    · exact keeps_pure _
    · exact (ih walk').bind fun _ => keeps_pure _

theorem isSteady_pages : IsSteady (walk.pages paginator) :=
  keeps_get.bind fun _ => walk.isSteady_collect paginator _

end Walk

/-! ## Searching -/

namespace Searcher

variable (searcher : Searcher) {N T D : Type}

theorem isSteady_search [Operand N] [Operand T] [Operand D] (request : RequestOf N T D) :
    IsSteady (searcher.search request) := by
  refine (keeps_ofExcept _).bind fun _ => ?_
  split
  · exact keeps_throw _
  · exact (searcher.keeps_resolve overlooksEmbedding_ledger _).bind fun _ =>
      (searcher.engine.isSteady_request _).bind fun value => (isSteady_page value).bind fun _ =>
        (isSteady_log _ _).bind fun _ => keeps_pure _

end Searcher

/-! ## Storing -/

namespace Storage

variable (storage : Storage)

theorem isSteady_createIndex {N : Type} [Operand N] (spec : IndexSpecOf N) :
    IsSteady (storage.createIndex spec) := by
  have hcreate := storage.indexes.isSteady_createIndex spec
  have hvectors (vectors : VectorSpec) : IsSteady (do
      if !vectors.overlapRate.isProperFraction then
        throw (.invalid s!"overlap rate must be in [0, 1): {vectors.overlapRate}")
      storage.indexes.createIndex spec) := by
    dsimp only
    split
    · exact (keeps_throw _).bind fun _ => hcreate
    · exact hcreate
  unfold createIndex
  cases spec.vectors with
  | none =>
    dsimp only
    split
    · exact (keeps_throw _).bind fun _ => hcreate
    · exact hcreate
  | some vectors =>
    dsimp only
    by_cases hname : (!isIndexName spec.id) = true
    · rw [if_pos hname]
      exact (keeps_throw _).bind fun _ => hvectors vectors
    · rw [if_neg hname]
      exact hvectors vectors

theorem isSteady_storeDocument (index : String) (document : Document) :
    IsSteady (storage.storeDocument index document) :=
  storage.keeps_storeDocument overlooksEngine_ledger overlooksEmbedding_ledger index document

theorem isSteady_getDocumentParts {T : Type} [Operand T] (index : String) (documentId : T) :
    IsSteady (storage.getDocumentParts index documentId) :=
  (storage.engine.isSteady_request _).bind fun value => (isSteady_page value).bind fun _ =>
    (Walk.isSteady_pages _ storage.paginator).bind fun _ => keeps_pure _

theorem isSteady_getDocumentPart (index partId : String) :
    IsSteady (storage.getDocumentPart index partId) := by
  unfold getDocumentPart
  split
  · exact keeps_throw _
  · exact storage.documents.isSteady_getPart index partId

theorem isSteady_ingestDocument (index : String) (document : Document) :
    IsSteady (storage.ingestDocument index document) := by
  refine (storage.isSteady_storeDocument index document).attempt.bind fun result => ?_
  rcases result with ⟨_ | _⟩ | _
  · exact (isSteady_log _ _).bind fun _ => keeps_throw _
  · exact keeps_throw _
  · exact isSteady_log _ _

theorem isSteady_ingestFiles (index : String) (folder : Trail) (path : Path)
    (names : List String) : IsSteady (storage.ingestFiles index folder path names) := by
  induction names with
  | nil => exact keeps_pure _
  | cons name rest ih =>
    unfold ingestFiles
    split
    · exact ih
    · refine keeps_get.bind fun _ => (keeps_ofDefect _).bind fun document => ?_
      split
      · exact ih
      · exact (storage.isSteady_ingestDocument index document).bind fun _ =>
          ih.bind fun _ => keeps_pure _

theorem isSteady_ingestPath (index folder : String) :
    IsSteady (storage.ingestPath index folder) := by
  refine keeps_get.bind fun _ => (keeps_ofDefect _).bind fun found => ?_
  cases found with
  | none => exact keeps_throw _
  | some trail =>
    exact (storage.isSteady_ingestFiles index trail _ _).bind fun _ =>
      (isSteady_log _ _).bind fun _ => keeps_pure _

end Storage

end SearchGateway
