import SearchGateway.Embedding.Embedder
import SearchGateway.Paginator
import SearchGateway.Search.Query

/-!
# Searching

A `Searcher` checks a request, has its text embedded if a vector is needed and none is given, and
sends the composed query to the engine.  Nothing is asked of anyone before the request is checked.
-/

set_option autoImplicit false

namespace SearchGateway

/-- What carries out search requests. -/
structure Searcher where
  engine : Engine
  paginator : Paginator
  embedder : Option Embedder := none
  /-- The lifetime of the session that a first page opens. -/
  lifetime : String := "5m"
  /-- The number of candidates of a vector search that names none. -/
  breadth : Option Int := none

namespace Searcher

variable {N T D : Type}

/-! ## Checking requests -/

/-- Checks that there are indexes to search, all of them with a name. -/
def checkIndexes (indexes : List String) : Except Fault Unit := do
  if indexes.isEmpty || indexes.any String.isEmpty then
    throw (.invalid "at least one index must be specified")

/-- Checks the size of a page. -/
def checkSize (size : Int) : Except Fault Unit := do
  if size ≤ 0 then throw (.invalid s!"result size must be positive: {size}")

/-- Checks where a page starts. -/
def checkOffset (offset : Int) : Except Fault Unit := do
  if offset < 0 then throw (.invalid s!"result offset must not be negative: {offset}")

/-- Whether a vector is given that has numbers in it. -/
def hasVector (near : Neighbours) : Bool :=
  match near.vector with
  | some (_ :: _) => true
  | _ => false

/-- Checks what a vector search needs: neighbours to find, and a text or a vector. -/
def checkNeighbours (text : String) (near : Neighbours) : Except Fault Unit := do
  if near.amount ≤ 0 then
    throw (.invalid s!"knn amount must be positive: {near.amount}")
  if text.isEmpty && !hasVector near then
    throw (.invalid "query text or precomputed vector is required")

/-- Checks a request. -/
def check (request : RequestOf N T D) : Except Fault Unit := do
  checkIndexes request.indexes
  checkSize request.presentation.size
  checkOffset request.presentation.offset
  match request.kind with
  | none => throw (.defect .missingKind)
  | some (.retrieve ..) => return ()
  | some (.fulltext ..) => return ()
  | some (.semantic text near) => checkNeighbours (text.getD "") near
  | some (.hybrid text near _) => checkNeighbours text near

/-! ## Vectors -/

/-- A vector search with its vector and with the usual number of candidates. -/
def complete (searcher : Searcher) (text : String) (near : Neighbours) : Action Neighbours := do
  let near := { near with breadth := near.breadth.or searcher.breadth }
  if hasVector near then return near
  match searcher.embedder with
  | none => throw (.invalid "embedder is not configured, precomputed vector required")
  | some embedder => return { near with vector := some (← embedder.embed text) }

/-- A kind of search with its vector, if it needs one. -/
def resolve (searcher : Searcher) : KindOf N T → Action (KindOf N T)
  | .semantic text near => return .semantic text (← searcher.complete (text.getD "") near)
  | .hybrid text near wording => return .hybrid text (← searcher.complete text near) wording
  | kind => return kind

/-! ## Searching -/

/-- The lifetime of the session that the first page of a request opens.  Pages at an offset and
searches of two kinds at once have no session. -/
def sessionFor (searcher : Searcher) (kind : KindOf N T) (p : PresentationOf T D) : Option String :=
  if 0 < p.offset ∨ kind.kindName = .hybrid then none else some searcher.lifetime

variable [Operand N] [Operand T] [Operand D]

/-- The first page of a request. -/
def search (searcher : Searcher) (request : RequestOf N T D) : Action Page := do
  (check request : Except Fault Unit)
  match request.kind with
  | none => throw (.defect .missingKind)
  | some kind =>
    let kind ← searcher.resolve kind
    let p := request.presentation
    let query := Query.compose kind p request.filters
    let value ← searcher.engine.search request.indexes query.toJson (searcher.sessionFor kind p)
    let page ← Action.page value
    let indexes := ",".intercalate request.indexes
    Action.log .info
      s!"Search {kind.kindName.title}: returned {page.hits.length} docs from {indexes}"
    return page

/-- The first page of a request that has to be of the given kind. -/
def searchAs (searcher : Searcher) (expected : KindName) (request : RequestOf N T D) :
    Action Page := do
  let found := request.kind.map KindOf.kindName
  if found ≠ some expected then
    let title := (found.map KindName.title).getD "NoneType"
    throw (.invalid s!"expected {expected.title} search, got {title}")
  searcher.search request

end Searcher

end SearchGateway
