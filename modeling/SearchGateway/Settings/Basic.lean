import SearchGateway.Files
import SearchGateway.Index.Spec
import SearchGateway.Record.Lenient
import SearchGateway.Settings.Dotenv

/-!
# Settings

The settings of the gateway, each with a default.  A setting is taken from the values that are given
outright, else from the environment, else from the settings file `.env` of the working folder.
Names of settings are compared without regard to case.  Of several values under one name the first
counts among those given outright, and the last elsewhere.
-/

set_option autoImplicit false

namespace SearchGateway

/-- The settings of the gateway. -/
structure Settings where
  engineAddress : String
  engineUser : String
  enginePassword : String
  verifyCertificates : Bool
  engineTimeout : Double
  shards : Int
  replicas : Int
  /-- The model that the engine embeds with, if it has a name. -/
  modelId : String
  dimension : Int
  breadth : Int
  neighbours : Int
  tokenLimit : Int
  overlapRate : Double
  maxSize : Int
  searchLifetime : String
  pageLifetime : String
  embedderKind : String
  embeddingAddress : String
  embeddingModel : String
  embeddingTimeout : Double
  localModel : String
  queryLabel : String
  passageLabel : String
  documentFolder : String
  logLevel : String
deriving DecidableEq

namespace Settings

/-! ## Reading -/

/-- A truth value: one as such, a zero or one, or one of the usual words in any case. -/
def truth? : Json → Option Bool
  | .bool b => some b
  | .int n => if n = 0 then some false else if n = 1 then some true else none
  | .num d => match d.toInt? with
    | some n => if n = 0 then some false else if n = 1 then some true else none
    | none => none
  | .str s =>
    let word := String.ofList (s.toList.map Char.toLower)
    if word ∈ ["1", "true", "t", "yes", "y", "on"] then some true
    else if word ∈ ["0", "false", "f", "no", "n", "off"] then some false
    else none
  | _ => none

/-- Values by name. -/
abbrev Source := List (String × Json)

/-- The values of a source by their names in lower case; of several under one name the last. -/
def lowered (source : Source) : Source :=
  source.foldl (fun found (name, value) =>
    Association.put (String.ofList (name.toList.map Text.toAsciiLower)) value found) []

/-- The value of a name in the first of several sources that has one. -/
def firstValue? (sources : List Source) (name : String) : Option Json :=
  sources.findSome? (Association.get? name)

/-- A setting: its value as read, or the default if there is none. -/
def setting {α : Type} (sources : List Source) (name : String) (read? : Json → Option α)
    (standard : α) : Checked α :=
  match firstValue? sources name with
  | none => .valid standard
  | some value => .ofOption name (read? value)

/-- The settings of sources whose names are in lower case, the first one first. -/
def ofSources (sources : List Source) : Checked Settings :=
  let text (name standard : String) := setting sources name Lenient.text? standard
  let integer (name : String) (standard : Int) := setting sources name Lenient.integer? standard
  let real (name : String) (standard : Double) := setting sources name Lenient.real? standard
  mk
    <$> text "opensearch_address" "https://localhost:9200"
    <*> text "opensearch_username" "admin"
    <*> text "opensearch_password" "admin"
    <*> setting sources "opensearch_verify_certs" truth? false
    <*> real "opensearch_timeout" (.ofRatio false 60 1)
    <*> integer "number_of_shards" 1
    <*> integer "number_of_replicas" 1
    <*> text "knn_model_id" ""
    <*> integer "knn_dimension" 384
    <*> integer "knn_ef_search" 100
    <*> integer "knn_amount" 100
    <*> integer "token_limit" 700
    <*> real "overlap_rate" .oneFifth
    <*> integer "max_content_size" 3000
    <*> text "scroll_lifetime" "5m"
    <*> text "pagination_lifetime" "1m"
    <*> text "embedder_kind" "http"
    <*> text "embeddings_address" "http://localhost:8085"
    <*> text "embeddings_model" "bge"
    <*> real "embeddings_timeout" (.ofRatio false 30 1)
    <*> text "embedding_model" "intfloat/multilingual-e5-small"
    <*> text "embedding_query_prefix" "query: "
    <*> text "embedding_passage_prefix" "passage: "
    <*> text "docs_path" "./docs"
    <*> text "log_level" "INFO"

/-- The settings file of the working folder. -/
def fileText (files : Files) : Except Defect String :=
  match files.entry? (files.working ++ [".env"]) with
  | some (.file entry) => entry.text
  | _ => .ok ""

/-- The values of a settings file, without the names that are unset. -/
def fileSource (environment : List (String × String)) (text : String) : Source :=
  let bound := (Dotenv.read environment text).map fun (name, value) =>
    (name, value.elim Json.null Json.str)
  (lowered bound).filter fun (_, value) => !value.isNull

/-- Reads the settings. -/
def read (given : Source) (environment : List (String × String)) (files : Files) :
    Except Defect Settings := do
  let text ← fileText files
  let sources := [lowered given.reverse, lowered (environment.map fun (name, v) => (name, .str v)),
    fileSource environment text]
  match ofSources sources with
  | .valid settings => return settings
  | .invalid fields => throw (.invalidFields fields)

/-! ## Showing -/

/-- All settings by name. -/
def toFields (s : Settings) : Json.Fields :=
  [("opensearch_address", .str s.engineAddress), ("opensearch_username", .str s.engineUser),
    ("opensearch_password", .str s.enginePassword),
    ("opensearch_verify_certs", .bool s.verifyCertificates),
    ("opensearch_timeout", .num s.engineTimeout), ("number_of_shards", .int s.shards),
    ("number_of_replicas", .int s.replicas), ("knn_model_id", .str s.modelId),
    ("knn_dimension", .int s.dimension), ("knn_ef_search", .int s.breadth),
    ("knn_amount", .int s.neighbours), ("token_limit", .int s.tokenLimit),
    ("overlap_rate", .num s.overlapRate), ("max_content_size", .int s.maxSize),
    ("scroll_lifetime", .str s.searchLifetime), ("pagination_lifetime", .str s.pageLifetime),
    ("embedder_kind", .str s.embedderKind), ("embeddings_address", .str s.embeddingAddress),
    ("embeddings_model", .str s.embeddingModel), ("embeddings_timeout", .num s.embeddingTimeout),
    ("embedding_model", .str s.localModel), ("embedding_query_prefix", .str s.queryLabel),
    ("embedding_passage_prefix", .str s.passageLabel), ("docs_path", .str s.documentFolder),
    ("log_level", .str s.logLevel)]

/-- How indexes embed and search vectors. -/
def vectorSpec (s : Settings) : VectorSpec :=
  ⟨s.dimension, s.tokenLimit, s.overlapRate, s.breadth⟩

end Settings

end SearchGateway
