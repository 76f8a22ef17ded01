import SearchGateway.CommandLine.Grammar
import SearchGateway.Search.Searcher

/-!
# The arguments of searches

The four search commands share most of their arguments: the indexes, how the hits are presented, and
which documents are considered at all.  What the words of any of them say is one record, from which
each makes its request.  Any of the arguments may be given nothing; where a number or a name has to
be known that is a defect, and elsewhere it goes into the request as it is.
-/

set_option autoImplicit false

namespace SearchGateway.CommandLine

/-- Longitude and latitude, with a comma between them. -/
def point? (text : String) : Option (List Double) :=
  match text.splitOn "," with
  | [longitude, latitude] => do
    return [← Numeral.decimal? longitude, ← Numeral.decimal? latitude]
  | _ => none

/-- How hits are presented, from what is given for arguments. -/
abbrev GivenPresentation := PresentationOf (Given String) (Given Double)

/-- Which documents are considered, from what is given for arguments. -/
abbrev GivenFilters := FiltersOf (Given Int) (Given String) (Given Double)

/-- A request from what is given for arguments. -/
abbrev GivenRequest := RequestOf (Given Int) (Given String) (Given Double)

/-- What the words of a search say, whichever kind of search it is. -/
structure SearchWords where
  text : Option String := none
  path : Option (Given String) := none
  documentId : Option (Given String) := none
  number : Option (Given Int) := none
  /-- The number of neighbours to find. -/
  amount : Given Int
  /-- The fields that words have to occur in; none are named for the usual ones. -/
  fields : List (Given String) := []
  operator : Given MatchOperator := .value .any
  indexes : List String := []
  size : Given Int := .value 10
  offset : Given Int := .value 0
  order : Given SortOrder := .value .descending
  /-- The rest of how the hits are presented. -/
  presentation : GivenPresentation := {}
  filters : GivenFilters := {}
deriving DecidableEq

namespace SearchWords

/-- Where words have to occur, joined in the given way. -/
def wording (w : SearchWords) (operator : MatchOperator) : WordingOf (Given String) :=
  ⟨if w.fields.isEmpty then none else some w.fields, operator⟩

/-- The neighbours that a search by meaning looks for. -/
def neighbours (w : SearchWords) : Except Fault Neighbours := do
  return { amount := ← w.amount.get .wrongType }

/-- What a search of the given kind looks for. -/
def kind (w : SearchWords) (operator : MatchOperator) :
    KindName → Except Fault (KindOf (Given Int) (Given String))
  | .retrieve => return .retrieve w.path w.documentId w.number
  | .fulltext => return .fulltext w.text (w.wording operator)
  | .semantic => return .semantic w.text (← w.neighbours)
  | .hybrid => return .hybrid (w.text.getD "") (← w.neighbours) (w.wording operator)

/-- The request for a search of the given kind.  That a number is nothing is found out where a check
needs it, so the checks on what comes before it are made first. -/
def request (w : SearchWords) (kindName : KindName) (operator : MatchOperator) :
    Except Fault GivenRequest := do
  let order ← w.order.get .wrongValue
  Searcher.checkIndexes w.indexes
  let size ← w.size.get .wrongType
  Searcher.checkSize size
  let offset ← w.offset.get .wrongType
  Searcher.checkOffset offset
  let kind ← w.kind operator kindName
  return {
    indexes := w.indexes
    kind := some kind
    presentation := { w.presentation with size := size, offset := offset, order := order }
    filters := if w.filters = {} then none else some w.filters }

/-- Changes how the hits are presented. -/
def present (change : GivenPresentation → GivenPresentation) (w : SearchWords) : SearchWords :=
  { w with presentation := change w.presentation }

/-- Changes which documents are considered. -/
def filter (change : GivenFilters → GivenFilters) (w : SearchWords) : SearchWords :=
  { w with filters := change w.filters }

/-- The index to search, which may be given several times. -/
def indexArgument : Named SearchWords where
  names := ["-i", "--index"]
  isRequired := true
  effect := .value fun given w => .ok { w with indexes := w.indexes ++ [given.getD ""] }

/-- The order of hits. -/
def orderArgument : Named SearchWords :=
  Named.parsed "--order" SortOrder.ofName?
    (.notAmong ([SortOrder.ascending, .descending].map SortOrder.name))
    fun order w => { w with order := order }

/-- The arguments that every search has. -/
def sharedArguments : List (Named SearchWords) := [
  indexArgument,
  Named.integer "--size" fun n w => { w with size := n },
  Named.integer "--offset" fun n w => { w with offset := n },
  Named.decimal "--min-score" fun d => present fun p => { p with minScore := some d },
  orderArgument,
  Named.text "--pre-tag" fun s => present fun p => { p with highlightBefore := some s },
  Named.text "--post-tag" fun s => present fun p => { p with highlightAfter := some s },
  Named.integer "--created-from" fun n => filter fun f => { f with createdFrom := some n },
  Named.integer "--created-to" fun n => filter fun f => { f with createdTo := some n },
  Named.integer "--modified-from" fun n => filter fun f => { f with modifiedFrom := some n },
  Named.integer "--modified-to" fun n => filter fun f => { f with modifiedTo := some n },
  Named.integer "--file-size-from" fun n => filter fun f => { f with sizeFrom := some n },
  Named.integer "--file-size-to" fun n => filter fun f => { f with sizeTo := some n },
  Named.parsed "--location" point? .notPoint fun point =>
    filter fun f => { f with centre := some (point.getD []) },
  Named.text "--distance" fun s => filter fun f => { f with distance := some (s.getD "") },
  Named.text "--source" fun s => filter fun f => { f with source := some s },
  Named.text "--semantic-source" fun s => filter fun f => { f with semanticSource := some s },
  Named.text "--class-label" fun s => filter fun f => { f with classLabel := some s },
  Named.decimal "--class-probability" fun d =>
    filter fun f => { f with classProbability := some d },
  Named.text "--pipeline" fun s => filter fun f => { f with pipelineLabel := some s }]

/-- The text to search for. -/
def textPlace (isRequired : Bool) : Placed SearchWords :=
  ⟨"query", isRequired, fun given w => { w with text := some (given.getD "") }⟩

/-- A field that words have to occur in, which may be given several times. -/
def fieldArgument : Named SearchWords :=
  Named.text "--field" fun s w => { w with fields := w.fields ++ [s] }

/-- How the words of the text are joined. -/
def operatorArgument : Named SearchWords :=
  Named.parsed "--operator" MatchOperator.ofName?
    (.notAmong ([MatchOperator.any, .all].map MatchOperator.name))
    fun operator w => { w with operator := operator }

/-- The number of neighbours to find. -/
def amountArgument : Named SearchWords :=
  Named.integer "--knn-amount" fun n w => { w with amount := n }

/-- The placed arguments of a search. -/
def placed : KindName → List (Placed SearchWords)
  | .retrieve => []
  | .fulltext => [textPlace false]
  | .semantic | .hybrid => [textPlace true]

/-- The named arguments that only some searches have. -/
def ownArguments : KindName → List (Named SearchWords)
  | .retrieve => [
      Named.text "--path" fun s w => { w with path := some s },
      Named.text "--doc-id" fun s w => { w with documentId := some s },
      Named.integer "--part-id" fun n w => { w with number := some n }]
  | .fulltext => [fieldArgument, operatorArgument]
  | .semantic => [amountArgument]
  | .hybrid => [amountArgument, fieldArgument, operatorArgument]

/-- The arguments of a search. -/
def grammar (kindName : KindName) : Grammar SearchWords :=
  ⟨placed kindName, Named.help :: ownArguments kindName ++ sharedArguments⟩

end SearchWords

end SearchGateway.CommandLine
