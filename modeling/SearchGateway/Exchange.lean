import SearchGateway.Json.Basic

/-!
# Exchanges over the network

The gateway talks to two partners over HTTP: the search engine and the embedding service.  An
exchange ends with an answer or is lost on the way.
-/

set_option autoImplicit false

namespace SearchGateway

/-- How an exchange was lost. -/
inductive Loss where
  /-- No answer came in time. -/
  | late
  /-- The partner could not be reached. -/
  | unreachable
  /-- Anything else, by the name of what went wrong. -/
  | broken (name : String)
deriving Repr, DecidableEq

/-- How an exchange ended. -/
inductive Reply where
  /-- An answer with its status and body. -/
  | answer (status : Int) (body : String)
  /-- No answer, with a text that describes the loss. -/
  | lost (loss : Loss) (text : String)
deriving Repr, DecidableEq

/-- The most arrays and objects inside each other that are read in the body of an answer. -/
def Exchange.depth : Nat := 980

/-- The body of a request to the engine. -/
inductive Payload where
  | empty
  | json (value : Json)
  /-- JSON values, one per line. -/
  | lines (text : String)

/-- A request to the engine. -/
structure EngineRequest where
  method : String
  path : String
  parameters : List (String × String) := []
  payload : Payload := .empty

/-- How the engine is reached. -/
structure Connection where
  address : String := "https://localhost:9200"
  user : String := "admin"
  password : String := "admin"
  verifyCertificates : Bool := false
  /-- The most seconds to wait for an answer. -/
  timeout : Double

/-- An address without slashes at its end. -/
def withoutSlashes (address : String) : String :=
  String.ofList (address.toList.reverse.dropWhile (· == '/')).reverse

/-- The address that a request goes to. -/
def Connection.url (connection : Connection) (path : String) : String :=
  withoutSlashes connection.address ++ path

/-- A request to the embedding service for the embedding of one text. -/
structure EmbeddingRequest where
  url : String
  text : String
  model : String
  /-- The most seconds to wait for an answer. -/
  timeout : Double

end SearchGateway
