import SearchGateway.Index.Info
import SearchGateway.Record.Page

/-!
# Results of commands

How pages, parts and descriptions of indexes are shown: as JSON objects with all their fields,
absent ones as `null`.
-/

set_option autoImplicit false

namespace SearchGateway

/-- A location as it is shown. -/
def Location.shown (l : Location) : Json :=
  .obj [("name", .str l.name), ("latitude", .num l.latitude), ("longitude", .num l.longitude)]

/-- A classification as it is shown. -/
def Classification.shown (c : Classification) : Json :=
  .obj [("name", .str c.name), ("probability", .num c.probability)]

/-- Metadata as they are shown. -/
def Metadata.shown (m : Metadata) : Json :=
  .obj [("photo", .ofOption .str m.photo), ("pipeline_id", .ofOption .int m.pipelineId),
    ("source", .ofOption .str m.source), ("semantic_source", .ofOption .str m.semanticSource),
    ("summary", .ofOption .str m.summary), ("locations", .arr (m.locations.map Location.shown)),
    ("subjects", .strings m.subjects), ("classes", .arr (m.classes.map Classification.shown)),
    ("icons", .strings m.icons), ("groups", .strings m.groups),
    ("pipelines", .strings m.pipelines), ("references", .strings m.references)]

/-- Embeddings as they are shown. -/
def embeddingsShown (embeddings : List Embedding) : Json :=
  .arr (embeddings.map fun embedding => .obj [("knn", .numbers embedding)])

/-- A part as it is shown. -/
def Part.shown (p : Part) : Json :=
  .obj [("large_doc_id", .str p.documentId), ("doc_part_id", .int p.number),
    ("file_name", .str p.file.name), ("file_path", .str p.file.path),
    ("file_size", .int p.file.size), ("created_at", .int p.file.createdAt),
    ("modified_at", .int p.file.modifiedAt), ("content", .ofOption .str p.content),
    ("chunked_text", .ofOption .strings p.chunks),
    ("embeddings", .ofOption embeddingsShown p.embeddings),
    ("metadata", .ofOption Metadata.shown p.metadata)]

/-- A hit as it is shown. -/
def Hit.shown (h : Hit) : Json :=
  .obj [("id", .str h.id), ("index", .str h.index), ("document", h.part.shown),
    ("score", .ofOption .num h.score), ("highlight", .strings h.highlight)]

/-- A page as it is shown. -/
def Page.shown (p : Page) : Json :=
  .obj [("founded", .arr (p.hits.map Hit.shown)), ("cursor", .ofOption .str p.cursor)]

/-- The description of an index as it is shown. -/
def IndexInfo.shown (i : IndexInfo) : Json :=
  .obj [("name", i.name), ("health", i.health), ("status", i.status),
    ("docs_count", .int i.documents), ("store_size", i.storeSize)]

end SearchGateway
