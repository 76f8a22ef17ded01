import SearchGateway.Container
import SearchGateway.Search.Searcher
import SearchGateway.Settings.Basic
import SearchGateway.Storage

/-!
# The gateway as a whole

All services of the gateway in one container, made from the settings.  One client of the engine
serves in all three roles that the engine has, and every service is made once and kept.
-/

set_option autoImplicit false

namespace SearchGateway

/-- What the container of the gateway holds. -/
inductive Role where
  | client
  /-- What answers searches. -/
  | engine
  /-- What provisions indexes. -/
  | indexes
  /-- What stores parts. -/
  | documents
  | embedder
  | paginator
  | searcher
  | storage
deriving Repr, DecidableEq

/-- The name of a role in messages. -/
def Role.title : Role → String
  | client => "client"
  | engine => "engine"
  | indexes => "indexes"
  | documents => "documents"
  | embedder => "embedder"
  | paginator => "paginator"
  | searcher => "searcher"
  | storage => "storage"

/-- A service in a role. -/
inductive Service where
  | engine (engine : Engine)
  | embedder (embedder : Option Embedder)
  | paginator (paginator : Paginator)
  | searcher (searcher : Searcher)
  | storage (storage : Storage)

/-- The services of the gateway. -/
abbrev App := Container Role Service Surroundings

namespace App

/-- A computation on the services of the gateway. -/
abbrev Run := Container.Run Role Service Surroundings

/-! ## Recipes -/

/-- Makes a client of the engine. -/
def openEngine (s : Settings) : Action Engine := do
  let identity ← Action.newIdentity
  Action.record (.opened identity)
  return {
    identity := identity
    connection := ⟨s.engineAddress, s.engineUser, s.enginePassword, s.verifyCertificates,
      s.engineTimeout⟩
    modelId := s.modelId }

/-- Makes what embeds texts, if anything is to. -/
def openEmbedder (s : Settings) : Action (Option Embedder) := do
  if s.embedderKind = "http" then
    let identity ← Action.newIdentity
    Action.record (.opened identity)
    return some (.service {
      identity := identity
      address := s.embeddingAddress
      model := s.embeddingModel
      timeout := s.embeddingTimeout })
  else if s.embedderKind = "local" then
    let identity ← Action.newIdentity
    return some (.model {
      identity := identity
      name := s.localModel
      queryLabel := s.queryLabel
      passageLabel := s.passageLabel })
  else if s.embedderKind = "none" then return none
  else throw (.invalid s!"unknown embedder kind: {s.embedderKind}")

/-- Makes a searcher of the services it needs. -/
def makeSearcher (s : Settings) : List Service → Action Service
  | [.engine engine, .paginator paginator, .embedder embedder] =>
    return .searcher ⟨engine, paginator, embedder, s.searchLifetime, some s.breadth⟩
  | _ => throw (.defect .wrongType)

/-- Makes a storage of the services it needs.  Parts are embedded here unless the engine has a model
to do so. -/
def makeStorage (s : Settings) : List Service → Action Service
  | .engine indexes :: .engine documents :: .engine engine :: .paginator paginator :: rest =>
    let embedder := match rest with
      | [.embedder embedder] => embedder
      | _ => none
    return .storage ⟨indexes, documents, engine, paginator, embedder, s.maxSize, s.overlapRate,
      s.searchLifetime⟩
  | _ => throw (.defect .wrongType)

/-- How the service of a role is made. -/
def recipe (s : Settings) : Role → Recipe Role Service Surroundings
  | .client => ⟨[], fun _ => return .engine (← openEngine s)⟩
  | .engine | .indexes | .documents => ⟨[.client], fun
    | [service] => return service
    | _ => throw (.defect .wrongType)⟩
  | .embedder => ⟨[], fun _ => return .embedder (← openEmbedder s)⟩
  | .paginator => ⟨[.engine], fun
    | [.engine engine] => return .paginator ⟨engine, s.pageLifetime⟩
    | _ => throw (.defect .wrongType)⟩
  | .searcher => ⟨[.engine, .paginator, .embedder], makeSearcher s⟩
  | .storage =>
    ⟨[.indexes, .documents, .engine, .paginator] ++ (if s.modelId.isEmpty then [.embedder] else []),
      makeStorage s⟩

/-- All roles in the order in which their recipes are registered. -/
def roles : List Role :=
  [.client, .engine, .indexes, .documents, .embedder, .paginator, .searcher, .storage]

/-- The container of the gateway. -/
def configure (s : Settings) : App :=
  roles.foldl (fun c role => c.register role (recipe s role) true) Container.empty

/-! ## Services -/

/-- The service of a role. -/
def resolve (role : Role) : Run Service := Container.resolve Role.title role

/-- The client of the engine. -/
def client : Run Engine := do
  match ← resolve .client with
  | .engine engine => return engine
  | _ => throw (.defect .wrongType)

/-- What embeds texts, if anything does. -/
def embedder : Run (Option Embedder) := do
  match ← resolve .embedder with
  | .embedder embedder => return embedder
  | _ => throw (.defect .wrongType)

/-- What fetches further pages. -/
def paginator : Run Paginator := do
  match ← resolve .paginator with
  | .paginator paginator => return paginator
  | _ => throw (.defect .wrongType)

/-- What carries out searches. -/
def searcher : Run Searcher := do
  match ← resolve .searcher with
  | .searcher searcher => return searcher
  | _ => throw (.defect .wrongType)

/-- What stores documents. -/
def storage : Run Storage := do
  match ← resolve .storage with
  | .storage storage => return storage
  | _ => throw (.defect .wrongType)

/-- How services are told apart and closed.  Only the client of the engine and that of the embedding
service can be closed. -/
def closer : Service → Option (Nat × Action Unit)
  | .engine engine => some (engine.identity, engine.close)
  | .embedder (some (.service service)) => some (service.identity, service.close)
  | _ => none

/-- Closes all clients and drops all services. -/
def close : Run Unit := Container.close closer

end App

end SearchGateway
