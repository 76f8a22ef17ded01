import SearchGateway.Action
import SearchGateway.Engine.Bulk
import SearchGateway.Engine.Failure
import SearchGateway.Index.Info
import SearchGateway.Index.Mapping
import SearchGateway.Json.Reader
import SearchGateway.Record.Page

/-!
# The search engine

An `Engine` is a client of one search engine: every operation is one request and the reading of its
answer.  Which requests may be sent is decided by those who use it.
-/

set_option autoImplicit false

namespace SearchGateway

/-- What a reply to a request amounts to: the JSON value of the answer, `null` for an empty one, or
the failure it reports. -/
def Reply.outcome (method path : String) : Reply → Except Fault Json
  | .lost loss text => .error (Failure.ofLoss loss text)
  | .answer status body =>
    if 400 ≤ status ∧ status < 600 then
      .error (Failure.ofAnswer status body)
    else if body.isEmpty then .ok .null
    else match Json.parse Exchange.depth body with
      | .ok value => .ok value
      | .error .malformed => .error (.malformed s!"failed to decode response of {method} {path}")
      | .error .tooDeep => .error (.defect .tooDeep)

/-- A client of the search engine. -/
structure Engine where
  identity : Nat
  connection : Connection
  /-- The model that the ingest pipeline embeds with, if it has a name. -/
  modelId : String := ""
  /-- Whether the client made its HTTP session and so has to close it. -/
  owned : Bool := true

namespace Engine

/-- Sends a request and reads the answer. -/
def request (engine : Engine) (request : EngineRequest) : Action Json := do
  let reply ← Action.askEngine engine.connection request
  (reply.outcome request.method request.path : Except Fault Json)

/-- Closes the HTTP session if it is the client's own. -/
def close (engine : Engine) : Action Unit :=
  if engine.owned then Action.closeClient engine.identity else pure ()

/-! ## Searching -/

/-- Where a search in the given indexes is sent.  No indexes, or a star in the first place, means
all. -/
def searchPath : List String → String
  | [] => "/_search"
  | first :: rest =>
    if first = "*" then "/_search" else "/" ++ ",".intercalate (first :: rest) ++ "/_search"

/-- The parameter that opens a session of the given lifetime. -/
def scrollParameters : Option String → List (String × String)
  | none => []
  | some lifetime => if lifetime.isEmpty then [] else [("scroll", lifetime)]

/-- Searches the indexes, with a session for further pages if a lifetime is given. -/
def search (engine : Engine) (indexes : List String) (query : Json) (scroll : Option String) :
    Action Json :=
  engine.request ⟨"POST", searchPath indexes, scrollParameters scroll, .json query⟩

/-- The next page of a session, which is renewed. -/
def scroll (engine : Engine) (cursor lifetime : String) : Action Json :=
  engine.request ⟨"POST", "/_search/scroll", [],
    .json (.obj [("scroll", lifetime), ("scroll_id", cursor)])⟩

/-- Closes a session. -/
def clearScroll (engine : Engine) (cursor : String) : Action Unit := do
  let _ ← engine.request ⟨"DELETE", "/_search/scroll", [],
    .json (.obj [("scroll_id", .strings [cursor])])⟩

/-! ## Indexes -/

/-- Creates an index.  If a model is deployed the ingest pipeline takes in its parts. -/
def createIndex {N : Type} [Operand N] (engine : Engine) (spec : IndexSpecOf N) :
    Action String := do
  let pipeline := if engine.modelId.isEmpty then none else some pipelineName
  let _ ← engine.request ⟨"PUT", "/" ++ spec.id, [], .json (spec.mapping pipeline)⟩
  Action.log .info s!"Created index: {spec.id}"
  return spec.id

/-- Deletes an index. -/
def deleteIndex (engine : Engine) (index : String) : Action Unit := do
  let _ ← engine.request ⟨"DELETE", "/" ++ index, [], .empty⟩
  Action.log .info s!"Deleted index: {index}"

/-- The parameter that asks for JSON where the engine would give a table. -/
def asJson : List (String × String) := [("format", "json")]

/-- The description of an index. -/
def getIndex (engine : Engine) (index : String) : Action IndexInfo := do
  let value ← engine.request ⟨"GET", "/_cat/indices/" ++ index, asJson, .empty⟩
  match ← (IndexInfo.readAll value : Except Fault _) with
  | [] => throw (.announced .indexNotFound s!"there is no index with name {index}")
  | info :: _ => return info

/-- The descriptions of all indexes that the engine does not keep for itself. -/
def getAllIndexes (engine : Engine) : Action (List IndexInfo) := do
  let value ← engine.request ⟨"GET", "/_cat/indices", asJson, .empty⟩
  let infos ← (IndexInfo.readAll value : Except Fault _)
  (IndexInfo.visible infos : Except Defect _)

/-- Defines the ingest pipeline. -/
def initPipelines (engine : Engine) (spec : VectorSpec) : Action Unit := do
  if engine.modelId.isEmpty then
    throw (.invalid "embedding model id is required to init ingest pipeline")
  let _ ← engine.request ⟨"PUT", "/_ingest/pipeline/" ++ pipelineName, [],
    .json (spec.pipeline engine.modelId)⟩
  Action.log .info s!"Initialized ingest pipeline: {pipelineName}"

/-! ## Parts -/

/-- Stores the parts of a document in one request. -/
def storeParts (engine : Engine) (index : String) (parts : List Part) : Action Stored := do
  match parts with
  | [] => throw (.announced .internal "missing document parts to store")
  | first :: _ =>
    let text ← (Bulk.text index parts : Except Defect String)
    let answer ← engine.request ⟨"POST", "/" ++ index ++ "/_bulk", [], .lines text⟩
    (Bulk.acknowledge answer : Except Fault Unit)
    Action.log .info s!"Stored {parts.length} parts of {first.file.name} in {index}"
    return ⟨first.documentId, first.storedId index, parts.length⟩

/-- The part that is stored under an identifier. -/
def getPart (engine : Engine) (index partId : String) : Action Part := do
  let value ← engine.request ⟨"GET", "/" ++ index ++ "/_doc/" ++ partId, [], .empty⟩
  match Hit.read? value with
  | some hit => return hit.part
  | none => throw (.malformed s!"failed to parse document part {partId}")

/-- Deletes all parts of a document. -/
def deleteParts (engine : Engine) (index documentId : String) : Action Unit := do
  let _ ← engine.request ⟨"POST", "/" ++ index ++ "/_delete_by_query", [],
    .json (.obj [("query", .obj [("term", .obj [("large_doc_id", documentId)])])])⟩

end Engine

end SearchGateway
