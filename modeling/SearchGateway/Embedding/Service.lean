import SearchGateway.Action
import SearchGateway.Json.Encoded
import SearchGateway.Text.Numeral
import SearchGateway.Url.Basic

/-!
# The embedding service

A remote service that embeds one text per request.  Its answer is a list whose first entry has the
embeddings of the text, of which the first counts.
-/

set_option autoImplicit false

namespace SearchGateway

/-- A client of the embedding service. -/
structure EmbeddingService where
  identity : Nat
  address : String := "http://localhost:8085"
  model : String := "bge"
  timeout : Double
  /-- Whether the client made its HTTP client and so has to close it. -/
  owned : Bool := true

namespace EmbeddingService

/-! ## Reading answers -/

/-- The failure of an exchange without an answer.  Those that no classification covers are passed
on under their own names. -/
def lossFault (loss : Loss) (text : String) : Fault :=
  match loss with
  | .late => .announced .timeout s!"embeddings request timed out: {text}"
  | .unreachable => .announced .unavailable s!"embeddings service is unavailable: {text}"
  | .broken name => .defect (.brokenExchange name)

/-- The failure that an answer with a status other than success reports. -/
def statusFault (status : Int) (body : String) : Fault :=
  let start := String.ofList (body.toList.take 200)
  let cause : Cause :=
    if status = 503 then .unavailable
    else if status = 408 ∨ status = 504 then .timeout
    else .service (some status)
  .announced cause s!"embeddings service returned {status}: {start}"

/-- The first element of a list, or the first character of a text. -/
def first? : Json → Option Json
  | .arr (item :: _) => some item
  | .str s => s.toList.head?.map fun c => .str (String.singleton c)
  | _ => none

/-- The first embedding in the value of an answer. -/
def firstEmbedding? (value : Json) : Option Json := do
  let entry ← first? value
  first? (← entry.get? "embedding")

/-- A number of an embedding, which may be written as text. -/
def number : Json → Except Defect Double
  | .num d => .ok d
  | .int n => Double.ofInt n
  | .bool b => Double.ofInt (if b then 1 else 0)
  | .str s => match Numeral.decimal? s with
    | some d => .ok d
    | none => .error .wrongValue
  | _ => .error .wrongType

/-- Reads the embedding in the value of an answer. -/
def readEmbedding (value : Json) : Except Fault Embedding :=
  match firstEmbedding? value with
  | none => .error (.malformed "unexpected embeddings response")
  | some (.arr (item :: rest)) => do (item :: rest).mapM fun v => (number v : Except Defect Double)
  | some _ => .error (.malformed "returned empty embeddings vector")

/-- What a reply amounts to: an embedding, or a failure. -/
def outcome : Reply → Except Fault Embedding
  | .lost loss text => .error (lossFault loss text)
  | .answer status body =>
    if status ≠ 200 then .error (statusFault status body)
    else match Json.parseBytes Exchange.depth body.toUTF8.toList with
      | .ok value => readEmbedding value
      | .error .malformed => .error (.malformed "unexpected embeddings response")
      | .error .tooDeep => .error (.defect .tooDeep)

/-! ## Requests -/

/-- The request for the embedding of a text. -/
def requestFor (service : EmbeddingService) (text : String) : EmbeddingRequest :=
  ⟨withoutSlashes service.address ++ "/embeddings", text, service.model, service.timeout⟩

/-- Withholds a request that cannot be sent. -/
def withhold {α : Type} (request : EmbeddingRequest) (cause : Defect) : Action α := do
  Action.record (.withheldEmbedding request)
  throw (.defect cause)

/-- The embedding of a text.  An answer from a URL that does not say by itself where it leads is of
no use. -/
def embed (service : EmbeddingService) (text : String) : Action Embedding := do
  let request := service.requestFor text
  match Url.ofString? request.url with
  | none => withhold request .invalidUrl
  | some url =>
    if (← get).closedClients.contains service.identity then withhold request .closedClient
    let reply ← Action.askEmbeddingService { request with url := url.target.toString }
    match reply, url.isAbsolute with
    | .answer _ _, false => throw (.defect .wrongValue)
    | reply, _ => (outcome reply : Except Fault Embedding)

/-- Closes the HTTP client if it is the service's own. -/
def close (service : EmbeddingService) : Action Unit :=
  if service.owned then Action.closeClient service.identity else pure ()

end EmbeddingService

end SearchGateway
