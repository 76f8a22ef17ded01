import SearchGateway.CommandLine.Run
import SearchGateway.Json.Reader

/-!
# The host of the program

The program has no network, no model and no disk of its own.  It runs under a host that has them:
the host describes the surroundings at the start and answers questions after that.  A run is a
function of what was answered so far, so a question is found by running on the answers at hand, and
after its answer the run starts anew; it asks the same questions in the same order.
-/

set_option autoImplicit false

namespace SearchGateway

/-- A request to the engine as its sender sees it. -/
def EngineRequest.shown (request : EngineRequest) (connection : Connection) : Json :=
  let parameters := request.parameters.map fun (name, value) => (name, Json.str value)
  let body : Json.Fields := match request.payload with
    | .empty => []
    | .json value => [("json", value)]
    | .lines text => [("data", .str text),
        ("headers", .obj [("Content-Type", .str "application/x-ndjson")])]
  .obj ([("method", .str request.method), ("url", .str (connection.url request.path)),
      ("timeout", .num connection.timeout),
      ("auth", .strings [connection.user, connection.password]),
      ("verify", .bool connection.verifyCertificates)]
    ++ (if parameters.isEmpty then [] else [("params", .obj parameters)]) ++ body)

/-- A request to the embedding service as its sender sees it. -/
def EmbeddingRequest.shown (request : EmbeddingRequest) : Json :=
  .obj [("method", .str "POST"), ("url", .str request.url),
    ("json", .obj [("content", .str request.text), ("model", .str request.model)]),
    ("timeout", .num request.timeout)]

namespace CommandLine

/-! ## Questions -/

/-- What the host is asked. -/
inductive Question where
  | engine (connection : Connection) (request : EngineRequest)
  | embedding (request : EmbeddingRequest)
  | model (text : String)

namespace Question

/-- A question as the host reads it. -/
def shown : Question → Json
  | engine connection request => .obj [("engine", request.shown connection)]
  | embedding request => .obj [("embedding", request.shown)]
  | model text => .obj [("encode", .str text)]

/-- The first question among events, the earliest event first, that goes beyond the given numbers of
questions to the engine, to the embedding service and to the model. -/
def first? (engine embedding model : Nat) : List Event → Option Question
  | [] => none
  | .asked connection request :: rest =>
    match engine with
    | 0 => some (.engine connection request)
    | engine + 1 => first? engine embedding model rest
  | .requestedEmbedding request :: rest =>
    match embedding with
    | 0 => some (.embedding request)
    | embedding + 1 => first? engine embedding model rest
  | .encoded text :: rest =>
    match model with
    | 0 => some (.model text)
    | model + 1 => first? engine embedding model rest
  | _ :: rest => first? engine embedding model rest

/-- The question that a run left open that started with the answers at hand. -/
def open? (known : Surroundings) (events : List Event) : Option Question :=
  first? known.engineReplies.length known.embeddingReplies.length known.modelOutputs.length
    events.reverse

end Question

/-! ## What the host says -/

/-- How an exchange was lost, by name. -/
def lossNamed : String → Loss
  | "late" => .late
  | "unreachable" => .unreachable
  | name => .broken name

/-- Reads the end of an exchange: a status and a text, or a loss and a text. -/
def reply? (value : Json) : Option Reply := do
  let text := ((value.get? "text").bind Lenient.text?).getD ""
  match value.get? "lost" with
  | some loss => return .lost (lossNamed (← Lenient.text? loss)) text
  | none => return .answer (← Lenient.integer? (← value.get? "status")) text

mutual

/-- Reads the output of a model. -/
def tensor? : Json → Option Tensor
  | .arr items => (tensors? items).map .axis
  | value => (Lenient.real? value).map .scalar

/-- Reads outputs of a model. -/
def tensors? : List Json → Option (List Tensor)
  | [] => some []
  | item :: rest => do return (← tensor? item) :: (← tensors? rest)

end

/-- Reads a time. -/
def instant? : Json → Option Instant
  | .int n => some (.seconds n)
  | value => (Lenient.real? value).map .decimal

/-- Reads a file: a path, a text, and the times of its last changes. -/
def file? (working : Trail) (value : Json) : Option (Trail × Entry) := do
  let path ← Lenient.text? (← value.get? "path")
  let text ← Lenient.text? (← value.get? "text")
  let createdAt ← instant? (← value.get? "created")
  let modifiedAt ← instant? (← value.get? "modified")
  return ((Path.ofString path).trailFrom working, .file ⟨text.toUTF8, createdAt, modifiedAt⟩)

/-- Reads the environment: texts by name. -/
def environment? (value : Json) : Option (List (String × String)) := do
  (← (← value.get? "environment").fields?).mapM fun (name, text) => do
    return (name, ← Lenient.text? text)

/-- Reads the surroundings at the start, when nothing was asked yet.  The working folder is the root
unless another one is named. -/
def surroundings? (value : Json) : Option Surroundings := do
  let working := (Path.ofString (((value.get? "folder").bind Lenient.text?).getD "/")).names
  let entries ← (← (← value.get? "files").items?).mapM (file? working)
  return {
    engineReplies := []
    embeddingReplies := []
    embeddingRest := .answer 200 ""
    modelOutputs := []
    modelRest := .axis []
    files := ⟨entries, working⟩
    loadedModels := []
    made := 0
    events := [] }

/-- Adds the answer to a question. -/
def Question.answered? (known : Surroundings) (value : Json) : Question → Option Surroundings
  | .engine _ _ => do
    return { known with engineReplies := known.engineReplies ++ [← reply? value] }
  | .embedding _ => do
    return { known with embeddingReplies := known.embeddingReplies ++ [← reply? value] }
  | .model _ => do
    return { known with modelOutputs := known.modelOutputs ++ [← tensor? value] }

end CommandLine

end SearchGateway
