import SearchGateway.Embedding.Embedder
import SearchGateway.Files
import SearchGateway.Paginator
import SearchGateway.Search.Query
import SearchGateway.Segment
import SearchGateway.Text.Quoted

/-!
# Storing documents

A `Storage` provisions indexes, divides documents into parts, has the parts embedded and stores
them, and takes in whole folders of text files.
-/

set_option autoImplicit false

namespace SearchGateway

/-- What stores documents. -/
structure Storage where
  /-- What provisions indexes. -/
  indexes : Engine
  /-- What stores parts. -/
  documents : Engine
  /-- What answers searches. -/
  engine : Engine
  paginator : Paginator
  /-- What embeds parts before they are stored; without it the engine may do so. -/
  embedder : Option Embedder := none
  /-- The most characters of a part. -/
  maxSize : Int := 3000
  /-- The fraction of a part that overlaps with the part before. -/
  overlapRate : Double := Double.oneFifth
  /-- The lifetime of the sessions that read the parts of a document. -/
  lifetime : String := "5m"

namespace Storage

/-! ## Indexes -/

/-- Whether an index may have the name: it is not empty, starts with neither a dot nor an
underscore, and is in lower case. -/
def isIndexName (name : String) : Bool :=
  match name.toList with
  | [] => false
  | c :: _ => c ≠ '.' && c ≠ '_' && Text.isLowerCase name

/-- Creates an index. -/
def createIndex {N : Type} [Operand N] (storage : Storage) (spec : IndexSpecOf N) :
    Action String := do
  if !isIndexName spec.id then
    throw (.invalid s!"invalid index name: {Text.quoted spec.id}")
  if let some vectors := spec.vectors then
    if !vectors.overlapRate.isProperFraction then
      throw (.invalid s!"overlap rate must be in [0, 1): {vectors.overlapRate}")
  storage.indexes.createIndex spec

/-- Deletes an index. -/
def deleteIndex (storage : Storage) (index : String) : Action Unit :=
  storage.indexes.deleteIndex index

/-- The description of an index. -/
def getIndex (storage : Storage) (index : String) : Action IndexInfo :=
  storage.indexes.getIndex index

/-- The descriptions of all indexes. -/
def getAllIndexes (storage : Storage) : Action (List IndexInfo) :=
  storage.indexes.getAllIndexes

/-- Defines the ingest pipeline. -/
def initPipelines (storage : Storage) (spec : Option VectorSpec) : Action Unit :=
  storage.indexes.initPipelines (spec.getD {})

/-! ## Documents -/

/-- A part with its content embedded. -/
def embedPart (embedder : Embedder) (part : Part) : Action Part := do
  let content := part.content.getD ""
  let embedding ← embedder.embedPassage content
  return { part with chunks := some [content], embeddings := some [embedding] }

/-- Parts with their contents embedded in order, if there is what embeds them. -/
def embedParts (embedder : Option Embedder) (parts : List Part) : Action (List Part) :=
  match embedder with
  | none => return parts
  | some e => parts.mapM (embedPart e)

/-- Stores a document in an index that has to exist. -/
def storeDocument (storage : Storage) (index : String) (document : Document) : Action Stored := do
  let _ ← storage.indexes.getIndex index
  let parts ← (Segment.divide document storage.maxSize storage.overlapRate : Except Fault _)
  let parts ← embedParts storage.embedder parts
  storage.documents.storeParts index parts

/-- How the parts of a document are asked for: a hundred at a time and without embeddings. -/
def partsPresentation {T : Type} : PresentationOf T Double :=
  { size := 100, order := .ascending, exclude := some [Field.embeddings] }

/-- The query for the parts of a document. -/
def partsQuery {T : Type} [Operand T] (documentId : T) : Query :=
  let kind : KindOf Int T := .retrieve none (some documentId) none
  Query.compose kind partsPresentation none

/-- The parts of a document in the order of their numbers. -/
def getDocumentParts {T : Type} [Operand T] (storage : Storage) (index : String) (documentId : T) :
    Action (List Part) := do
  let value ← storage.engine.search [index] (partsQuery documentId).toJson (some storage.lifetime)
  let first ← Action.page value
  let pages ← (Walk.start first (some storage.lifetime)).pages storage.paginator
  let parts := pages.flatMap fun page => page.hits.map Hit.part
  return parts.mergeSort fun a b => decide (a.number ≤ b.number)

/-- The part that is stored under an identifier. -/
def getDocumentPart (storage : Storage) (index partId : String) : Action Part := do
  if partId.isEmpty then throw (.invalid "document part id must not be empty")
  storage.documents.getPart index partId

/-- Deletes all parts of a document. -/
def deleteDocument (storage : Storage) (index documentId : String) : Action Unit := do
  storage.documents.deleteParts index documentId
  Action.log .info s!"Deleted document {documentId} from {index}"

/-! ## Folders -/

/-- The suffixes of text files. -/
def textSuffixes : List String := [".txt", ".md", ".markdown"]

/-- The document in a file of a folder. -/
def loadDocument (files : Files) (folder : Trail) (path : Path) (name : String) :
    Except Defect Document := do
  if Files.longestPath < (path.child name).toString.utf8ByteSize then throw .pathTooLong
  match files.entry? (folder ++ [name]) with
  | some (.file entry) =>
    let createdAt ← entry.createdAt.truncate
    let modifiedAt ← entry.modifiedAt.truncate
    let content ← entry.text
    return {
      file := ⟨name, (path.child name).toString, entry.bytes.size, createdAt, modifiedAt⟩
      content := content
      metadata := none }
  | _ => throw .folderAsFile

/-- Stores a document of a folder; the operator is told how it went. -/
def ingestDocument (storage : Storage) (index : String) (document : Document) : Action Unit := do
  match ← Action.attempt (storage.storeDocument index document) with
  | .ok stored => Action.log .info s!"Stored {document.file.name}: {stored.parts} parts"
  | .error fault =>
    if let .announced _ message := fault then
      Action.log .error s!"Failed to store {document.file.name}: {message.display}"
    throw fault

/-- Stores the text files of the given names in a folder, one after the other, and counts them.
Files without content are passed over; the first failure ends it. -/
def ingestFiles (storage : Storage) (index : String) (folder : Trail) (path : Path) :
    List String → Action Nat
  | [] => return 0
  | name :: rest => do
    if !textSuffixes.contains (Path.suffix name) then
      storage.ingestFiles index folder path rest
    else
      let document ← (loadDocument (← get).files folder path name : Except Defect Document)
      if Text.isBlankText document.content then storage.ingestFiles index folder path rest
      else
        storage.ingestDocument index document
        return (← storage.ingestFiles index folder path rest) + 1

/-- Stores every text file of a folder and counts them. -/
def ingestPath (storage : Storage) (index folder : String) : Action Nat := do
  let path := Path.ofString folder
  let files := (← get).files
  match ← (files.folder? path : Except Defect _) with
  | none => throw (.invalid s!"docs path not found: {path.toString}")
  | some trail =>
    let count ← storage.ingestFiles index trail path (files.names trail)
    Action.log .info s!"Ingest complete: {count} documents into {index}"
    return count

end Storage

end SearchGateway
