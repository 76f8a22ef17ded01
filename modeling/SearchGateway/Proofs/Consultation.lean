import SearchGateway.Proofs.Embedding.Embedder

/-!
# Consultations

The gateway has two collaborators: the embedder, which it asks for the vector of a text, and the
engine.  `Surroundings.consulted` is the record of what they were asked.  An embedder is asked once
for every text it is to embed, whatever comes of it (`Embedder.consulted_embed`,
`Embedder.consulted_embedPassage`).
-/

set_option autoImplicit false

namespace SearchGateway

open SearchGateway.Action

/-- What a collaborator is asked. -/
inductive Consultation where
  /-- The embedder is asked for the embedding of a text, labels included. -/
  | embedding (text : String)
  | engine (request : EngineRequest)

/-- What an event asks of a collaborator.  A request to the embedding service counts even if it
could not be sent. -/
def Event.consultation? : Event → Option Consultation
  | .asked _ request => some (.engine request)
  | .requestedEmbedding request => some (.embedding request.text)
  | .withheldEmbedding request => some (.embedding request.text)
  | .encoded text => some (.embedding text)
  | _ => none

/-- What the collaborators were asked so far, the latest first. -/
def Surroundings.consulted (s : Surroundings) : List Consultation :=
  s.events.filterMap Event.consultation?

@[simp]
theorem Surroundings.consulted_asked (s : Surroundings) (connection : Connection)
    (request : EngineRequest) :
    (s.asked connection request).consulted = .engine request :: s.consulted := rfl

theorem Action.keeps_consulted_log (level : Level) (message : String) :
    Keeps Surroundings.consulted (log level message) := fun _ => rfl

theorem Action.keeps_consulted_page (value : Json) : Keeps Surroundings.consulted (page value) :=
  (keeps_ofExcept _).bind fun _ =>
    Keeps.bind (Keeps.forM (fun _ _ => rfl) _) fun _ => keeps_pure _

/-! ## The embedder -/

/-- The text that is embedded for a query: a local model has its label in front. -/
def Embedder.queryText (embedder : Embedder) (text : String) : String :=
  match embedder with
  | service _ => text
  | model m => m.queryLabel ++ text

/-- The text that is embedded for a passage: a local model has its label in front. -/
def Embedder.passageText (embedder : Embedder) (text : String) : String :=
  match embedder with
  | service _ => text
  | model m => m.passageLabel ++ text

theorem EmbeddingService.consulted_embed (service : EmbeddingService) (text : String)
    (s : Surroundings) :
    ((service.embed text).runIn s).2.consulted = .embedding text :: s.consulted := by
  -- A request counts whether it is withheld or sent.
  rw [runIn_embed]
  cases Url.ofString? (service.requestFor text).url with
  | none => rfl
  | some url =>
    dsimp only
    split
    · rfl
    · rfl

theorem LocalModel.consulted_encode (model : LocalModel) (text : String) (s : Surroundings) :
    ((model.encode text).runIn s).2.consulted = .embedding text :: s.consulted := by
  have hload : ∃ t, model.load.runIn s = (.ok (), t) ∧ t.consulted = s.consulted := by
    unfold load
    rw [runIn_bind, runIn_get]
    dsimp only
    split
    · exact ⟨s, rfl, rfl⟩
    · exact ⟨_, rfl, rfl⟩
  obtain ⟨t, hrun, ht⟩ := hload
  rw [encode, runIn_bind_of_ok hrun, ← ht]
  rfl

/-- **An embedder is asked once, whatever comes of it.** -/
theorem Embedder.consulted_embed (embedder : Embedder) (text : String) (s : Surroundings) :
    ((embedder.embed text).runIn s).2.consulted =
      .embedding (embedder.queryText text) :: s.consulted := by
  cases embedder with
  | service service => exact service.consulted_embed text s
  | model model => exact model.consulted_encode _ s

/-- **So it is for a passage.** -/
theorem Embedder.consulted_embedPassage (embedder : Embedder) (text : String) (s : Surroundings) :
    ((embedder.embedPassage text).runIn s).2.consulted =
      .embedding (embedder.passageText text) :: s.consulted := by
  cases embedder with
  | service service => exact service.consulted_embed text s
  | model model => exact model.consulted_encode _ s

/-! ## The engine -/

/-- The engine is asked once for a page, and nobody is asked anything after it. -/
theorem Engine.consulted_request_bind {α : Type} {next : Json → Action α}
    (hnext : ∀ value, Keeps Surroundings.consulted (next value)) (engine : Engine)
    (request : EngineRequest) (s : Surroundings) :
    ((engine.request request >>= next).runIn s).2.consulted = .engine request :: s.consulted := by
  rw [runIn_bind, Engine.runIn_request]
  cases s.reply.outcome request.method request.path with
  | error fault => rfl
  | ok value => exact hnext value (s.asked engine.connection request)

end SearchGateway
