import SearchGateway.Document
import SearchGateway.Record.Metadata

/-!
# Parts as they are stored

A `Record` is a part in the form the index holds it.  Its metadata stays unread until the part is
asked for, so that broken metadata costs a part its metadata and nothing else.
-/

set_option autoImplicit false

namespace SearchGateway

/-- A stored part. -/
structure Record where
  documentId : String
  number : Int
  file : FileFacts
  content : Option String
  chunks : Option (List String)
  embeddings : Option (List Embedding)
  metadata : Option Json.Fields

namespace Record

/-- The record of a part. -/
def ofPart (part : Part) : Record where
  documentId := part.documentId
  number := part.number
  file := part.file
  content := part.content
  chunks := part.chunks
  embeddings := part.embeddings
  metadata := part.metadata.map Metadata.toFields

/-- The part of a record, without metadata that cannot be read. -/
def toPart (record : Record) : Part where
  documentId := record.documentId
  number := record.number
  file := record.file
  content := record.content
  chunks := record.chunks
  embeddings := record.embeddings
  metadata := record.metadata.bind fun fields => (Metadata.readFields fields).value?

/-- One embedding as it is stored. -/
def embeddingJson (e : Embedding) : Json := .obj [("knn", .numbers e)]

/-- Reads one stored embedding. -/
def readEmbedding? (value : Json) : Option Embedding := do
  (Checked.required (← value.fields?) "knn" (Lenient.list? Lenient.real?)).value?

/-- The record of its fields in storing order. -/
def ofFields (documentId : String) (number : Int) (name path : String)
    (size createdAt modifiedAt : Int) (content : Option String) (chunks : Option (List String))
    (embeddings : Option (List Embedding)) (metadata : Option Json.Fields) : Record :=
  ⟨documentId, number, ⟨name, path, size, createdAt, modifiedAt⟩, content, chunks, embeddings,
    metadata⟩

/-- Reads the fields of a record. -/
def readFields (fields : Json.Fields) : Checked Record :=
  ofFields
    <$> Checked.required fields "large_doc_id" Lenient.text?
    <*> Checked.required fields "doc_part_id" Lenient.integer?
    <*> Checked.required fields "file_name" Lenient.text?
    <*> Checked.required fields "file_path" Lenient.text?
    <*> Checked.required fields "file_size" Lenient.integer?
    <*> Checked.required fields "created_at" Lenient.integer?
    <*> Checked.required fields "modified_at" Lenient.integer?
    <*> Checked.optional fields "content" Lenient.text?
    <*> Checked.optional fields "chunked_text" (Lenient.list? Lenient.text?)
    <*> Checked.optional fields "embeddings" (Lenient.list? readEmbedding?)
    <*> Checked.optional fields "metadata" Lenient.object?

/-- Reads a record. -/
def read? (value : Json) : Option Record := do
  (readFields (← value.fields?)).value?

/-- A field that is stored if it has a value. -/
def stored {α : Type} (name : String) (toJson : α → Json) (value : Option α) : Json.Fields :=
  value.toList.map fun a => (name, toJson a)

/-- The fields of the stored form, without those that have no value. -/
def toFields (record : Record) : Json.Fields :=
  [("large_doc_id", .str record.documentId), ("doc_part_id", .int record.number),
      ("file_name", .str record.file.name), ("file_path", .str record.file.path),
      ("file_size", .int record.file.size), ("created_at", .int record.file.createdAt),
      ("modified_at", .int record.file.modifiedAt)]
    ++ stored "content" .str record.content
    ++ stored "chunked_text" .strings record.chunks
    ++ stored "embeddings" (fun es => .arr (es.map embeddingJson)) record.embeddings
    ++ stored "metadata" .obj record.metadata

/-- The stored form. -/
def toJson (record : Record) : Json := .obj record.toFields

end Record

end SearchGateway
