import SearchGateway.Embedding.Service

/-!
# Embedders

Texts are embedded by a remote service or by a local model.  A local model tells queries from stored
passages by a label in front of the text, and its weights are loaded when it is first used.
-/

set_option autoImplicit false

namespace SearchGateway

/-- A model that runs on this machine. -/
structure LocalModel where
  identity : Nat
  name : String := "intfloat/multilingual-e5-small"
  queryLabel : String := "query: "
  passageLabel : String := "passage: "
  /-- Where the model runs; without a choice it takes what there is. -/
  device : Option String := none

namespace LocalModel

/-- Loads the weights unless they are loaded already. -/
def load (model : LocalModel) : Action Unit := do
  if (← get).loadedModels.contains model.identity then return
  let place := match model.device with
    | some device => if device.isEmpty then "auto" else device
    | none => "auto"
  Action.log .info s!"Loading embedding model {model.name} on {place}"
  Action.record (.loadedModel model.name model.device)
  modify fun s => { s with loadedModels := model.identity :: s.loadedModels }

/-- The embedding of a text as it stands. -/
def encode (model : LocalModel) (text : String) : Action Embedding := do
  model.load
  return (← Action.askModel text).embedding

end LocalModel

/-- What embeds texts. -/
inductive Embedder where
  | service (service : EmbeddingService)
  | model (model : LocalModel)

namespace Embedder

/-- The embedding of a query. -/
def embed (embedder : Embedder) (text : String) : Action Embedding :=
  match embedder with
  | service s => s.embed text
  | model m => m.encode (m.queryLabel ++ text)

/-- The embedding of a passage that is stored; the service makes no difference. -/
def embedPassage (embedder : Embedder) (text : String) : Action Embedding :=
  match embedder with
  | service s => s.embed text
  | model m => m.encode (m.passageLabel ++ text)

/-- Closes what the embedder holds open.  A local model holds nothing and cannot be closed. -/
def close (embedder : Embedder) : Action Unit :=
  match embedder with
  | service s => s.close
  | model _ => throw (.defect .missingMember)

/-- The embedding of a query by an embedder that is closed afterwards, whatever happens.  A local
model cannot be used in this way. -/
def embedOnce (embedder : Embedder) (text : String) : Action Embedding :=
  match embedder with
  | service s => do
    let result ← Action.attempt (s.embed text)
    s.close
    (result : Except Fault Embedding)
  | model _ => throw (.defect .wrongType)

end Embedder

end SearchGateway
