import SearchGateway.Embedding.Tensor
import SearchGateway.Exchange
import SearchGateway.Fault
import SearchGateway.Files
import SearchGateway.Log

/-!
# Actions

An `Action` is a computation that talks to its surroundings.  The surroundings are given by what
they are going to answer; what an action does to them is recorded as a list of events.  A failed
action keeps what was done before it failed.

So every action is a function, and a statement about it quantifies over the answers: over
`Surroundings.engineReplies` for the engine, and so on.  An engine that has nothing more to answer
gives empty objects, which end every session; the surroundings say what the embedding service and
the local model give out then.
-/

set_option autoImplicit false

namespace SearchGateway

/-- What an action did. -/
inductive Event where
  | asked (connection : Connection) (request : EngineRequest)
  | requestedEmbedding (request : EmbeddingRequest)
  /-- A request to the embedding service could not be sent. -/
  | withheldEmbedding (request : EmbeddingRequest)
  | loadedModel (name : String) (device : Option String)
  | encoded (text : String)
  | logged (log : Log)
  /-- An HTTP client was made. -/
  | opened (client : Nat)
  /-- An HTTP client was closed. -/
  | closed (client : Nat)

/-- What an action finds around it. -/
structure Surroundings where
  engineReplies : List Reply
  embeddingReplies : List Reply
  /-- What the embedding service answers when `embeddingReplies` is used up. -/
  embeddingRest : Reply
  modelOutputs : List Tensor
  /-- What the local model gives out when `modelOutputs` is used up. -/
  modelRest : Tensor
  files : Files
  /-- The local models whose weights are loaded. -/
  loadedModels : List Nat
  /-- The HTTP clients that are closed. -/
  closedClients : List Nat := []
  /-- The number of clients and models made so far. -/
  made : Nat
  /-- What was done, the latest event first. -/
  events : List Event

/-- A computation that talks to its surroundings and may fail. -/
abbrev Action := ExceptT Fault (StateM Surroundings)

namespace Action

/-- Records an event. -/
def record (event : Event) : Action Unit :=
  modify fun s => { s with events := event :: s.events }

/-- Logs a message. -/
def log (level : Level) (message : String) : Action Unit :=
  record (.logged ⟨level, message⟩)

/-- Logs messages in order. -/
def logAll (logs : List Log) : Action Unit :=
  logs.forM fun l => record (.logged l)

/-- What the engine answers when it has nothing more to say. -/
def idleEngine : Reply := .answer 200 "\x7b\x7d"

/-- The next of several answers, and the answers after it. -/
def next {α : Type} (rest : α) : List α → α × List α
  | [] => (rest, [])
  | a :: more => (a, more)

/-- Sends a request to the engine. -/
def askEngine (connection : Connection) (request : EngineRequest) : Action Reply := do
  record (.asked connection request)
  modifyGet fun s =>
    let (reply, more) := next idleEngine s.engineReplies
    (reply, { s with engineReplies := more })

/-- Sends a request to the embedding service. -/
def askEmbeddingService (request : EmbeddingRequest) : Action Reply := do
  record (.requestedEmbedding request)
  modifyGet fun s =>
    let (reply, more) := next s.embeddingRest s.embeddingReplies
    (reply, { s with embeddingReplies := more })

/-- Has a local model encode a text. -/
def askModel (text : String) : Action Tensor := do
  record (.encoded text)
  modifyGet fun s =>
    let (output, more) := next s.modelRest s.modelOutputs
    (output, { s with modelOutputs := more })

/-- Closes an HTTP client. -/
def closeClient (client : Nat) : Action Unit := do
  record (.closed client)
  modify fun s => { s with closedClients := client :: s.closedClients }

/-- A number that no client or model made before has. -/
def newIdentity : Action Nat :=
  modifyGet fun s => (s.made, { s with made := s.made + 1 })

/-- The outcome of an action, with nothing lost of what it did. -/
def attempt {α : Type} (action : Action α) : Action (Except Fault α) :=
  ExceptT.mk do return .ok (← action.run)

/-- A pure outcome as an action. -/
def ofExcept {α : Type} : Except Fault α → Action α
  | .ok a => pure a
  | .error f => throw f

instance : MonadLift (Except Fault) Action := ⟨ofExcept⟩

instance : MonadLift (Except Defect) Action where
  monadLift
    | .ok a => pure a
    | .error d => throw (.defect d)

end Action

end SearchGateway
