import SearchGateway.Index.Spec
import SearchGateway.Json.Basic

/-!
# Mappings and the ingest pipeline

A mapping declares the type of every field of a stored part.  The ingest pipeline has the engine
itself cut contents into chunks and embed them.
-/

set_option autoImplicit false

namespace SearchGateway

/-- The type that a mapping declares for a field. -/
inductive FieldType where
  /-- Text that is matched as a whole. -/
  | keyword
  /-- Text that is matched by its words. -/
  | text
  /-- Text that is matched by its words, and as a whole under `keyword` up to a length. -/
  | textAndKeyword (longest : Int)
  | long
  | float
  /-- A time in seconds since the epoch. -/
  | seconds
  | geoPoint
  /-- A vector of the given dimension, searched by its neighbours. -/
  | vector (dimension : Int)
  | object (fields : List (String × FieldType))
  /-- An array of objects whose elements are matched one by one. -/
  | nested (fields : List (String × FieldType))

namespace FieldType

mutual

/-- The declaration as it stands in a request. -/
def toJson : FieldType → Json
  | keyword => .obj [("type", "keyword")]
  | text => .obj [("type", "text")]
  | textAndKeyword longest =>
    .obj [("type", "text"), ("fields", .obj [("keyword",
      .obj [("type", "keyword"), ("ignore_above", longest)])])]
  | long => .obj [("type", "long")]
  | float => .obj [("type", "float")]
  | seconds => .obj [("type", "date"), ("format", "epoch_second")]
  | geoPoint => .obj [("type", "geo_point")]
  | vector dimension =>
    .obj [("type", "knn_vector"), ("dimension", dimension),
      ("method", .obj [("name", "hnsw"), ("engine", "lucene")])]
  | object fields => .obj [("type", "object"), ("properties", .obj (fieldsJson fields))]
  | nested fields => .obj [("type", "nested"), ("properties", .obj (fieldsJson fields))]

/-- Declarations as they stand in a request. -/
def fieldsJson : List (String × FieldType) → Json.Fields
  | [] => []
  | (name, type) :: rest => (name, type.toJson) :: fieldsJson rest

end

end FieldType

/-- A list of names, each of which is matched on its own. -/
def FieldType.names : FieldType := .nested [("name", .keyword)]

/-- The fields of metadata. -/
def metadataFields : List (String × FieldType) :=
  [("photo", .keyword), ("pipeline_id", .long), ("source", .keyword),
    ("semantic_source", .keyword), ("summary", .text), ("pipelines", .keyword),
    ("references", .keyword),
    ("locations", .nested [("name", .keyword), ("coords", .geoPoint)]),
    ("classes", .nested [("name", .keyword), ("probability", .float)]),
    ("subjects", .names), ("icons", .names), ("groups", .names)]

/-- The fields of a stored part with embeddings of the given dimension. -/
def partFields (dimension : Int) : List (String × FieldType) :=
  [("large_doc_id", .keyword), ("doc_part_id", .long), ("file_name", .textAndKeyword 256),
    ("file_path", .keyword), ("file_size", .long), ("content", .text), ("chunked_text", .text),
    ("created_at", .seconds), ("modified_at", .seconds),
    ("embeddings", .nested [("knn", .vector dimension)]), ("metadata", .object metadataFields)]

namespace IndexSpecOf

variable {N : Type}

/-- The vector settings of an index, the usual ones if none are given. -/
def vectorSpec (spec : IndexSpecOf N) : VectorSpec := spec.vectors.getD {}

/-- The request body that creates the index.  A pipeline that has a name takes in every part that is
stored. -/
def mapping [Operand N] (spec : IndexSpecOf N) (pipeline : Option String) : Json :=
  .obj [
    ("settings", .obj [("index", .obj (
      [("knn", Json.bool true), ("knn.algo_param.ef_search", Json.int spec.vectorSpec.breadth),
        ("number_of_shards", Operand.json spec.shards),
        ("number_of_replicas", Operand.json spec.replicas)]
      ++ (pipeline.filter (!·.isEmpty)).toList.map fun p => ("default_pipeline", Json.str p)))]),
    ("mappings", .obj [("properties",
      .obj (FieldType.fieldsJson (partFields spec.vectorSpec.dimension)))])]

end IndexSpecOf

/-- The name of the ingest pipeline. -/
def pipelineName : String := "embeddings-ingest-pipeline"

/-- The request body of the ingest pipeline that embeds with the given model. -/
def VectorSpec.pipeline (spec : VectorSpec) (modelId : String) : Json :=
  .obj [("description", "A text chunking and embedding ingest pipeline"),
    ("processors", .arr [
      .obj [("text_chunking", .obj [
        ("algorithm", .obj [("fixed_token_length", .obj [("token_limit", spec.tokenLimit),
          ("overlap_rate", spec.overlapRate), ("tokenizer", "standard")])]),
        ("field_map", .obj [("content", "chunked_text")])])],
      .obj [("text_embedding", .obj [("model_id", modelId),
        ("field_map", .obj [("chunked_text", "embeddings")])])]])]

end SearchGateway
