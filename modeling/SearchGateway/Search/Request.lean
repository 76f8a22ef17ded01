import SearchGateway.Document

/-!
# Search requests

A request names the indexes to search, what to look for (one of four kinds of search), which
documents to consider at all, and how the hits are to be presented.

The values that a request compares with are integers, texts and decimals.  The types of requests
come over any types `N`, `T` and `D` in their places (`RequestOf N T D`), because a request can also
be put together from values of which it is not yet known whether they are there; `Request` is the
one over plain values.
-/

set_option autoImplicit false

namespace SearchGateway

/-- How the words of a text are joined in a lexical search. -/
inductive MatchOperator where
  | any
  | all
deriving Repr, DecidableEq

/-- The order of hits by the creation time of their documents. -/
inductive SortOrder where
  | ascending
  | descending
deriving Repr, DecidableEq

namespace MatchOperator

/-- The name of an operator in requests. -/
def name : MatchOperator → String
  | any => "or"
  | all => "and"

/-- The operator of a name. -/
def ofName? : String → Option MatchOperator
  | "or" => some any
  | "and" => some all
  | _ => none

end MatchOperator

namespace SortOrder

/-- The name of an order in requests. -/
def name : SortOrder → String
  | ascending => "asc"
  | descending => "desc"

/-- The order of a name. -/
def ofName? : String → Option SortOrder
  | "asc" => some ascending
  | "desc" => some descending
  | _ => none

end SortOrder

/-- Where and how the words of a text have to occur. -/
structure WordingOf (T : Type) where
  /-- The fields that the words have to occur in; without any it is the content. -/
  fields : Option (List T) := none
  operator : MatchOperator := .any
deriving Repr, DecidableEq

/-- Where and how words have to occur, in named fields. -/
abbrev Wording := WordingOf String

/-- A search for the embeddings nearest to a vector. -/
structure Neighbours where
  /-- The vector; without one the text of the search is embedded. -/
  vector : Option Embedding := none
  /-- The number of neighbours to find. -/
  amount : Int := 100
  /-- The number of candidates that the engine examines. -/
  breadth : Option Int := none
deriving DecidableEq

/-- What a search looks for. -/
inductive KindOf (N T : Type) where
  /-- The parts with exactly these properties. -/
  | retrieve (path documentId : Option T) (number : Option N)
  /-- The parts that the words of the text occur in, or all parts. -/
  | fulltext (text : Option String) (wording : WordingOf T)
  /-- The parts closest in meaning to the text. -/
  | semantic (text : Option String) (near : Neighbours)
  /-- The parts that satisfy either of the last two. -/
  | hybrid (text : String) (near : Neighbours) (wording : WordingOf T)
deriving DecidableEq

/-- What a search over plain values looks for. -/
abbrev Kind := KindOf Int String

/-- The four kinds of search without their particulars. -/
inductive KindName where
  | retrieve
  | fulltext
  | semantic
  | hybrid
deriving Repr, DecidableEq

namespace KindName

/-- The title of a kind of search in messages. -/
def title : KindName → String
  | retrieve => "RetrieveParams"
  | fulltext => "FullTextParams"
  | semantic => "SemanticParams"
  | hybrid => "HybridParams"

end KindName

namespace KindOf

variable {N T : Type}

/-- Which of the four kinds it is. -/
def kindName : KindOf N T → KindName
  | retrieve .. => .retrieve
  | fulltext .. => .fulltext
  | semantic .. => .semantic
  | hybrid .. => .hybrid

end KindOf

/-- The documents that a search considers.  Every bound that is given has to hold. -/
structure FiltersOf (N T D : Type) where
  createdFrom : Option N := none
  createdTo : Option N := none
  modifiedFrom : Option N := none
  modifiedTo : Option N := none
  sizeFrom : Option N := none
  sizeTo : Option N := none
  /-- Longitude and latitude of a centre that some location has to be near to. -/
  centre : Option (List Double) := none
  /-- How near a location has to be, such as `5km`. -/
  distance : Option String := none
  source : Option T := none
  semanticSource : Option T := none
  classLabel : Option T := none
  classProbability : Option D := none
  pipelineLabel : Option T := none
deriving DecidableEq

/-- The documents that a search over plain values considers. -/
abbrev Filters := FiltersOf Int String Double

/-- How the hits of a search are presented. -/
structure PresentationOf (T D : Type) where
  size : Int := 10
  offset : Int := 0
  minScore : Option D := none
  /-- The top-level fields that hits come without; by default the embeddings and their texts. -/
  exclude : Option (List String) := none
  order : SortOrder := .descending
  /-- What is put before a place where words occur, if anything. -/
  highlightBefore : Option T := none
  /-- What is put behind a place where words occur, if anything. -/
  highlightAfter : Option T := none
  highlightAmount : Option Int := none
  highlightSize : Option Int := none
deriving DecidableEq

/-- How hits are presented, over plain values. -/
abbrev Presentation := PresentationOf String Double

namespace PresentationOf

variable {T D : Type}

/-- The top-level fields that hits come without. -/
def excluded (p : PresentationOf T D) : List String :=
  p.exclude.getD ["chunked_text", "embeddings"]

end PresentationOf

/-- A search request.  A request without a kind of search can be written down, but not carried
out. -/
structure RequestOf (N T D : Type) where
  indexes : List String
  kind : Option (KindOf N T)
  presentation : PresentationOf T D := {}
  filters : Option (FiltersOf N T D) := none
deriving DecidableEq

/-- A search request over plain values. -/
abbrev Request := RequestOf Int String Double

end SearchGateway
