import SearchGateway.Text.Quoted

/-!
# Misuse of the command line

What can be wrong with the words of a command line, and how the user is told.
-/

set_option autoImplicit false

namespace SearchGateway.CommandLine

/-- What is wrong with the value of one argument. -/
inductive Flaw where
  | missingValue
  /-- A value for an argument that takes none. -/
  | needlessValue (text : String)
  | notInteger (text : String)
  | notDecimal (text : String)
  | notPoint (text : String)
  | notAmong (choices : List String) (text : String)
deriving Repr, DecidableEq

namespace Flaw

/-- What the user is told about a flaw. -/
def message : Flaw → String
  | missingValue => "expected one argument"
  | needlessValue text => "ignored explicit argument " ++ Text.quoted text
  | notInteger text => "invalid int value: " ++ Text.quoted text
  | notDecimal text => "invalid float value: " ++ Text.quoted text
  | notPoint text => "expected LON,LAT, got " ++ Text.quoted text
  | notAmong choices text =>
    "invalid choice: " ++ Text.quoted text
      ++ " (choose from " ++ ", ".intercalate (choices.map Text.quoted) ++ ")"

end Flaw

/-- What is wrong with a command line. -/
inductive Misuse where
  /-- A word that begins several names. -/
  | ambiguous (word : String) (names : List String)
  | flawed (argument : String) (flaw : Flaw)
  /-- Arguments that have to be given and are not. -/
  | missing (arguments : List String)
  /-- Words that mean nothing. -/
  | unknown (words : List String)
deriving Repr, DecidableEq

namespace Misuse

/-- What the user is told about misuse. -/
def message : Misuse → String
  | ambiguous word names =>
    "ambiguous option: " ++ word ++ " could match " ++ ", ".intercalate names
  | flawed argument flaw => "argument " ++ argument ++ ": " ++ flaw.message
  | missing arguments =>
    "the following arguments are required: " ++ ", ".intercalate arguments
  | unknown words => "unrecognized arguments: " ++ " ".intercalate words

end Misuse

end SearchGateway.CommandLine
