import SearchGateway.CommandLine.Form
import SearchGateway.CommandLine.SearchWords
import SearchGateway.Settings.Basic

/-!
# Commands

What can be asked for on the command line, and the arguments of every command.  Settings give the
defaults of some arguments.
-/

set_option autoImplicit false

namespace SearchGateway.CommandLine

/-- What a command line asks for. -/
inductive Command where
  | initPipelines
  | createIndex (spec : IndexSpecOf (Given Int))
  | deleteIndex (index : String)
  | showIndex (index : String)
  | showIndexes
  /-- Stores the documents of a folder. -/
  | ingest (index folder : String)
  | showPart (index partId : String)
  | showParts (index : String) (documentId : Given String)
  | search (kindName : KindName) (words : SearchWords)
  | paginate (cursor lifetime : String)
  | deleteSession (cursor : String)
deriving DecidableEq

/-! ## Forms -/

namespace Forms

/-- The form of a command without arguments. -/
def bare (name : String) (command : Command) : Form Command :=
  Form.ofGrammar name ⟨[], [Named.help]⟩ () fun _ => command

/-- The form of a command that takes one text. -/
def single (name argument : String) (command : String → Command) : Form Command :=
  Form.ofGrammar name ⟨[⟨argument, true, fun given _ => given.getD ""⟩], [Named.help]⟩ "" command

/-- The form of a command that takes an index and one text. -/
def ofIndex (name argument : String) (command : String → Given String → Command) : Form Command :=
  Form.ofGrammar name
    ⟨[⟨"name", true, fun given s => (given.getD "", s.2)⟩,
        ⟨argument, true, fun given s => (s.1, given)⟩],
      [Named.help]⟩
    ("", .nothing) fun s => command s.1 s.2

/-- The form that creates an index. -/
def createIndex (s : Settings) : Form Command :=
  Form.ofGrammar "create-index"
    ⟨[⟨"name", true, fun given spec => { spec with id := given.getD "" }⟩],
      [Named.help,
        Named.integer "--shards" fun n (spec : IndexSpecOf (Given Int)) =>
          { spec with shards := n },
        Named.integer "--replicas" fun n spec => { spec with replicas := n }]⟩
    ⟨"", .value s.shards, .value s.replicas, some s.vectorSpec⟩ .createIndex

/-- The form that shows one index or all; no index has an empty name. -/
def showIndexes : Form Command :=
  Form.ofGrammar "indexes" ⟨[⟨"name", false, fun given _ => given.getD ""⟩], [Named.help]⟩ ""
    fun index => if index.isEmpty then .showIndexes else .showIndex index

/-- The form that stores the documents of a folder; without a path it is the usual folder. -/
def ingest (s : Settings) : Form Command :=
  Form.ofGrammar "ingest"
    ⟨[⟨"name", true, fun given w => (given.getD "", w.2)⟩],
      [Named.help, Named.text "--path" fun given w => (w.1, given.getD "")]⟩
    ("", "") fun w => .ingest w.1 (if w.2.isEmpty then s.documentFolder else w.2)

/-- The form of a search. -/
def search (s : Settings) (name : String) (kindName : KindName) : Form Command :=
  Form.ofGrammar name (SearchWords.grammar kindName) { amount := .value s.neighbours }
    (.search kindName)

/-- The form that fetches a further page. -/
def paginate (s : Settings) : Form Command :=
  Form.ofGrammar "paginate"
    ⟨[⟨"cursor", true, fun given w => (given.getD "", w.2)⟩],
      [Named.help, Named.text "--lifetime" fun given w => (w.1, given.getD "")]⟩
    ("", s.pageLifetime) fun w => .paginate w.1 w.2

/-- The forms of all commands. -/
def all (s : Settings) : List (Form Command) := [
  bare "init" .initPipelines,
  createIndex s,
  single "delete-index" "name" .deleteIndex,
  showIndexes,
  ingest s,
  ofIndex "get-part" "part_id" fun index partId => .showPart index (partId.getD ""),
  ofIndex "get-parts" "doc_id" .showParts,
  search s "retrieve" .retrieve,
  search s "fulltext" .fulltext,
  search s "semantic" .semantic,
  search s "hybrid" .hybrid,
  paginate s,
  single "delete-session" "cursor" .deleteSession]

end Forms

/-- Reads a command line. -/
def Command.read (s : Settings) (words : List String) : Except (Refusal Command) Command :=
  Form.choose (Forms.all s) words

end SearchGateway.CommandLine
