import SearchGateway.Digest
import SearchGateway.Metadata
import SearchGateway.Text.Raw

/-!
# Documents and their parts

A document is stored in parts, so that each part is short enough to search and to embed.  All parts
of a document share its identifier, a digest of path and content; a stored part has an identifier of
its own, a digest of index, path and number, so that storing a document again replaces its parts.

A digest is one of bytes, so only what has an encoding has an identifier.  The texts of a `Document`
have one; a `RawDocument` is what a document may be before that is known.
-/

set_option autoImplicit false

namespace SearchGateway

/-- What a document and its parts know about the file they come from. -/
structure FileFacts where
  name : String
  path : String
  size : Int
  createdAt : Int
  modifiedAt : Int
deriving Repr, DecidableEq

/-- A whole document, before it is divided into parts. -/
structure Document where
  file : FileFacts
  content : String
  metadata : Option Metadata
deriving DecidableEq

/-- The vector that stands for a text. -/
abbrev Embedding := List Double

/-- A part of a document, as it is stored and found. -/
structure Part where
  documentId : String
  /-- The position among the parts of the document, from zero. -/
  number : Int
  file : FileFacts
  content : Option String
  /-- The texts that the embeddings stand for. -/
  chunks : Option (List String)
  embeddings : Option (List Embedding)
  metadata : Option Metadata
deriving DecidableEq

namespace Document

/-- The text whose digest identifies the document. -/
def identity (document : Document) : String :=
  document.file.path ++ "\n" ++ document.content

/-- The identifier that all parts of the document share. -/
def id (document : Document) : String := Digest.ofText document.identity

end Document

/-- A document whose path and content may have surrogates in them. -/
structure RawDocument (κ : Type) where
  path : Text.Raw
  content : Text.Raw
  /-- What else the parts take over from the document, unread. -/
  facts : κ

/-- A part of such a document. -/
structure RawPart (κ : Type) where
  documentId : String
  number : Int
  path : Text.Raw
  content : Text.Raw
  facts : κ

namespace RawDocument

/-- A document of characters. -/
def ofDocument (document : Document) : RawDocument (FileFacts × Option Metadata) where
  path := .ofString document.file.path
  content := .ofString document.content
  facts := (document.file, document.metadata)

/-- The identifier that all parts of the document share. -/
def id {κ : Type} (document : RawDocument κ) : Except Defect String :=
  (document.path ++ (.ofString "\n" ++ document.content)).encoded.map Digest.ofText

end RawDocument

namespace Part

/-- The text whose digest identifies the part within an index. -/
def identity (index : String) (part : Part) : String :=
  index ++ "/" ++ part.file.path ++ "/" ++ toString part.number

/-- The identifier that the part is stored under. -/
def storedId (index : String) (part : Part) : String := Digest.ofText (part.identity index)

end Part

end SearchGateway
