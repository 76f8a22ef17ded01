import SearchGateway.CommandLine.Host

/-!
# The program

The command line under its host.  The first line on standard input describes the environment and the
files; every question goes out as a line on standard output, and its answer comes in as a line.
What the command shows goes to standard output in the end, log records and complaints to standard
error.
-/

set_option autoImplicit false

namespace SearchGateway.CommandLine

/-- Reads one value from the host. -/
def hear : IO Json := do
  let line ← (← IO.getStdin).getLine
  match Json.parse? line with
  | some value => return value
  | none => throw (IO.userError "the host said nothing that can be read")

/-- What was read of the host's words. -/
def understood {α : Type} : Option α → IO α
  | some a => return a
  | none => throw (IO.userError "the host gave an answer of the wrong shape")

/-- Runs a command line until no question is left open. -/
partial def converse (s : Settings) (words : List String) (known : Surroundings) : IO Report := do
  let (report, after) := (run s words).run known
  match Question.open? known after.events with
  | none => return report
  | some question =>
    IO.println (question.shown.render .compact)
    (← IO.getStdout).flush
    converse s words (← understood (question.answered? known (← hear)))

/-- Says how a command line ended and gives the exit status; a command that broke off counts as
failed. -/
def conclusion (report : Report) : IO UInt32 := do
  report.logs.forM fun log => IO.eprintln log.message
  IO.print report.printed
  match report.ending with
  | .refused text => IO.eprintln text
  | .broken _ => IO.eprintln "the command broke off"
  | _ => pure ()
  return UInt32.ofNat (report.ending.status?.getD 1)

/-- Runs the command line of the given words. -/
def program (words : List String) : IO UInt32 := do
  let start ← hear
  let known ← understood (surroundings? start)
  match Settings.read [] (← understood (environment? start)) known.files with
  | .error (.invalidFields fields) =>
    IO.eprintln ("invalid settings: " ++ ", ".intercalate fields)
    return 1
  | .error _ =>
    IO.eprintln "the settings file cannot be read"
    return 1
  | .ok settings => conclusion (← converse settings words known)

end SearchGateway.CommandLine

/-- The program. -/
def main (words : List String) : IO UInt32 := SearchGateway.CommandLine.program words
