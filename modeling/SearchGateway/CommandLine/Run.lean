import SearchGateway.App
import SearchGateway.CommandLine.Command
import SearchGateway.CommandLine.Result

/-!
# Running a command line

A command line is read, its command is carried out on a fresh container of services, and the
container is closed again, however the command ends.  What the command gives is printed at its end,
so a failed command prints nothing.
-/

set_option autoImplicit false

namespace SearchGateway.CommandLine

/-! ## Commands -/

/-- An action on the storage. -/
def withStorage {α : Type} (action : Storage → Action α) : App.Run α := do
  let storage ← App.storage
  Container.Run.lift (action storage)

/-- An action on the searcher. -/
def withSearcher {α : Type} (action : Searcher → Action α) : App.Run α := do
  let searcher ← App.searcher
  Container.Run.lift (action searcher)

/-- Carries out a command and gives what it shows, if anything. -/
def Command.run (s : Settings) : Command → App.Run (Option Json)
  | .initPipelines => do
    withStorage fun storage => do
      storage.initPipelines (some s.vectorSpec)
      Action.log .info "Pipelines initialized"
    return none
  | .createIndex spec => do
    let id ← withStorage (·.createIndex spec)
    return some (.obj [("index", .str id)])
  | .deleteIndex index => do
    withStorage (·.deleteIndex index)
    return none
  | .showIndex index => return some (← withStorage (·.getIndex index)).shown
  | .showIndexes => return some (.arr ((← withStorage (·.getAllIndexes)).map IndexInfo.shown))
  | .ingest index folder => do
    withStorage fun storage => do
      let count ← storage.ingestPath index folder
      Action.log .info s!"Stored {count} documents"
    return none
  | .showPart index partId => return some (← withStorage (·.getDocumentPart index partId)).shown
  | .showParts index documentId => do
    let parts ← withStorage (·.getDocumentParts index documentId)
    return some (.arr (parts.map Part.shown))
  | .search kindName words => do
    let operator ← words.operator.get .wrongValue
    let page ← withSearcher fun searcher => do
      let request ← (words.request kindName operator : Except Fault _)
      searcher.search request
    return some page.shown
  | .paginate cursor lifetime => do
    return some (← withSearcher (·.paginator.paginate cursor (some lifetime))).shown
  | .deleteSession cursor => do
    withSearcher (·.paginator.deleteSession cursor)
    return none

/-! ## Command lines -/

/-- How a command line ended. -/
inductive Ending where
  /-- The command was carried out, or help was given. -/
  | done
  /-- The command failed with an announced cause, which is logged. -/
  | failed
  /-- The command line was refused, with a text for the user. -/
  | refused (text : String)
  /-- The command broke off. -/
  | broken (cause : Defect)
deriving Repr, DecidableEq

/-- What a command line leaves behind besides what it does to its surroundings. -/
structure Report where
  ending : Ending
  /-- What is printed. -/
  printed : String
  /-- The log records that the operator wants to see. -/
  logs : List Log
deriving Repr, DecidableEq

/-- The exit status of a program that ended so, if it came to an end by itself. -/
def Ending.status? : Ending → Option Nat
  | done => some 0
  | failed => some 1
  | refused _ => some 2
  | broken _ => none

/-- The text of a value as it is printed. -/
def printed (value : Json) : String := value.render .pretty ++ "\n"

/-- Tells the operator of an announced failure. -/
def logFailure : Fault → Action Unit
  | .announced cause message => Action.log .error (cause.title ++ ": " ++ message.display)
  | .defect _ => pure ()

/-- How a command ended that failed. -/
def Ending.ofFault : Fault → Ending
  | .announced _ _ => .failed
  | .defect cause => .broken cause

/-- Carries out a command on the services of a container and closes them. -/
def conclude (s : Settings) (command : Command) : App.Run (Ending × String) := do
  let result ← ExceptT.mk do return .ok (← (command.run s).run)
  if let .error fault := result then Container.Run.lift (logFailure fault)
  App.close
  match result with
  | .ok shown => return (.done, (shown.map printed).getD "")
  | .error fault => return (.ofFault fault, "")

/-- The log records among events, the latest event first, that rank at least as high as a
threshold. -/
def logsOf (threshold : Nat) (events : List Event) : List Log :=
  events.reverse.filterMap fun
    | .logged log => if threshold ≤ log.level.rank then some log else none
    | _ => none

/-- Carries out a command on a fresh container. -/
def execute (s : Settings) (threshold : Nat) (command : Command) : StateM Surroundings Report := do
  let _ ← (Action.log .info "Container configured").run
  let (result, _) ← ((conclude s command).run).run (App.configure s)
  let logs := logsOf threshold (← get).events
  match result with
  | .ok (ending, text) => return ⟨ending, text, logs⟩
  | .error fault => return ⟨.ofFault fault, "", logs⟩

/-- The name of the program. -/
def programName : String := "docsearch"

/-- Runs a command line under the given settings. -/
def run (s : Settings) (words : List String) : StateM Surroundings Report :=
  match Command.read s words with
  | .error (.help form) =>
    return ⟨.done, (Refusal.help form).text programName ++ "\n", []⟩
  | .error (.misuse form problem) =>
    return ⟨.refused ((Refusal.misuse form problem).text programName), "", []⟩
  | .ok command =>
    match Level.threshold? s.logLevel with
    | none => return ⟨.broken .wrongValue, "", []⟩
    | some threshold => execute s threshold command

end SearchGateway.CommandLine
