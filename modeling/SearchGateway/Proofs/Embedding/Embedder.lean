import SearchGateway.Proofs.Action
import SearchGateway.Search.Searcher

/-!
# Runs of embedders, and what they leave as they are

Embedding by the service comes to what its reply amounts to, unless the request cannot be sent
(`EmbeddingService.runIn_embed`).  Whatever embeds a text, a service or a local model, leaves the
replies of the engine to those who talk to it, and the clients to those who made them
(`Embedder.keeps_embed`).  A search that needs a vector does no more than that to get it
(`Searcher.keeps_resolve`).
-/

set_option autoImplicit false

namespace SearchGateway

open SearchGateway.Action

/-! ## The embedding service -/

namespace Surroundings

/-- The reply to the next request to the embedding service. -/
def embeddingReply (s : Surroundings) : Reply :=
  (Action.next s.embeddingRest s.embeddingReplies).1

/-- The surroundings after a request to the embedding service. -/
def askedEmbedding (s : Surroundings) (request : EmbeddingRequest) : Surroundings :=
  { s.noting (.requestedEmbedding request) with
    embeddingReplies := (Action.next s.embeddingRest s.embeddingReplies).2 }

end Surroundings

@[simp]
theorem Action.runIn_askEmbeddingService (request : EmbeddingRequest) (s : Surroundings) :
    (askEmbeddingService request).runIn s = (.ok s.embeddingReply, s.askedEmbedding request) := rfl

namespace EmbeddingService

/-- What a reply from a URL amounts to: an answer can be taken only if the URL says by itself where
it leads. -/
def outcomeFrom (url : Url) : Reply → Except Fault Embedding
  | .lost loss text => outcome (.lost loss text)
  | .answer status body =>
    if url.isAbsolute then outcome (.answer status body) else .error (.defect .wrongValue)

/-- **What embedding by the service comes to.**  The address leads nowhere, or the client is closed,
or the service is asked once. -/
theorem runIn_embed (service : EmbeddingService) (text : String) (s : Surroundings) :
    (service.embed text).runIn s = match Url.ofString? (service.requestFor text).url with
      | none => (.error (.defect .invalidUrl),
          s.noting (.withheldEmbedding (service.requestFor text)))
      | some url =>
        if service.identity ∈ s.closedClients then (.error (.defect .closedClient),
          s.noting (.withheldEmbedding (service.requestFor text)))
        else (outcomeFrom url s.embeddingReply,
          s.askedEmbedding { service.requestFor text with url := url.target.toString }) := by
  rw [embed]
  cases Url.ofString? (service.requestFor text).url with
  | none => rfl
  | some url =>
    dsimp only
    rw [runIn_bind_of_ok (runIn_get s)]
    by_cases hclosed : service.identity ∈ s.closedClients
    · rw [if_pos (List.contains_iff_mem.mpr hclosed), if_pos hclosed]
      rfl
    · rw [if_neg (hclosed ∘ List.contains_iff_mem.mp), if_neg hclosed]
      show (askEmbeddingService _ >>= _).runIn s = _
      rw [runIn_bind_of_ok (runIn_askEmbeddingService _ s)]
      cases s.embeddingReply with
      | lost loss lostText => rfl
      | answer status body =>
        rw [outcomeFrom]
        cases url.isAbsolute with
        | true => exact runIn_ofExcept _ _
        | false => rfl

end EmbeddingService

/-! ## What embedding leaves as it is -/

variable {γ : Type} {view : Surroundings → γ}

/-- The event is one that embedding leaves. -/
def Event.IsOfEmbedding : Event → Prop
  | .requestedEmbedding _ => True
  | .withheldEmbedding _ => True
  | .loadedModel _ _ => True
  | .encoded _ => True
  | .logged _ => True
  | _ => False

/-- The view shows nothing that embedding has a part in. -/
structure OverlooksEmbedding (view : Surroundings → γ) : Prop where
  noting : ∀ s event, event.IsOfEmbedding → view (s.noting event) = view s
  embeddingReplies : ∀ s replies, view { s with embeddingReplies := replies } = view s
  modelOutputs : ∀ s outputs, view { s with modelOutputs := outputs } = view s
  loadedModels : ∀ s models, view { s with loadedModels := models } = view s

theorem overlooksEmbedding_engine :
    OverlooksEmbedding fun s : Surroundings => (s.engineReplies, s.requests) where
  noting s event hevent := by
    cases event with
    | asked | opened | closed => exact hevent.elim
    | _ => rfl
  embeddingReplies _ _ := rfl
  modelOutputs _ _ := rfl
  loadedModels _ _ := rfl

variable (hview : OverlooksEmbedding view)

include hview

theorem Action.keeps_record_of_isOfEmbedding (event : Event) (hevent : event.IsOfEmbedding) :
    Keeps view (record event) :=
  fun s => hview.noting s event hevent

theorem Action.keeps_askModel (text : String) : Keeps view (askModel text) :=
  fun s => (hview.modelOutputs _ _).trans (hview.noting s (.encoded text) trivial)

theorem EmbeddingService.keeps_embed (service : EmbeddingService) (text : String) :
    Keeps view (service.embed text) := by
  intro s
  rw [runIn_embed]
  cases Url.ofString? (service.requestFor text).url with
  | none => exact hview.noting s _ trivial
  | some url =>
    dsimp only
    split
    · exact hview.noting s _ trivial
    · exact (hview.embeddingReplies _ _).trans (hview.noting s (.requestedEmbedding _) trivial)

theorem LocalModel.keeps_load (model : LocalModel) : Keeps view model.load := by
  unfold load
  refine keeps_get.bind fun s => ?_
  split
  · exact keeps_pure _
  · exact (keeps_record_of_isOfEmbedding hview (.logged _) trivial).bind fun _ =>
      (keeps_record_of_isOfEmbedding hview (.loadedModel _ _) trivial).bind fun _ s =>
        hview.loadedModels s _

theorem LocalModel.keeps_encode (model : LocalModel) (text : String) :
    Keeps view (model.encode text) :=
  (model.keeps_load hview).bind fun _ => (keeps_askModel hview text).bind fun _ => keeps_pure _

theorem Embedder.keeps_embed (embedder : Embedder) (text : String) :
    Keeps view (embedder.embed text) := by
  cases embedder with
  | service s => exact s.keeps_embed hview text
  | model m => exact m.keeps_encode hview _

theorem Embedder.keeps_embedPassage (embedder : Embedder) (text : String) :
    Keeps view (embedder.embedPassage text) := by
  cases embedder with
  | service s => exact s.keeps_embed hview text
  | model m => exact m.keeps_encode hview _

theorem Searcher.keeps_complete (searcher : Searcher) (text : String) (near : Neighbours) :
    Keeps view (searcher.complete text near) := by
  unfold complete
  dsimp only
  split
  · exact keeps_pure _
  · split
    · exact keeps_throw _
    · exact (Embedder.keeps_embed hview _ _).bind fun _ => keeps_pure _

theorem Searcher.keeps_resolve {N T : Type} (searcher : Searcher) (kind : KindOf N T) :
    Keeps view (searcher.resolve kind) := by
  unfold resolve
  split
  · exact (searcher.keeps_complete hview _ _).bind fun _ => keeps_pure _
  · exact (searcher.keeps_complete hview _ _).bind fun _ => keeps_pure _
  · exact keeps_pure _

end SearchGateway
