import SearchGateway.Fault
import SearchGateway.Json.Basic

/-!
# What is given for an argument

An argument is given a value, or nothing.  Nothing is written `--`, attached to the name of a named
argument or in the place of a placed one.  It is not read as a value and not checked; it stands in
requests as an empty array.
-/

set_option autoImplicit false

namespace SearchGateway.CommandLine

/-- What is given for an argument with values of type `α`. -/
inductive Given (α : Type) where
  | value (a : α)
  | nothing
deriving Repr, DecidableEq

namespace Given

variable {α β : Type}

/-- What a text gives. -/
def ofText (text : String) : Given String := if text = "--" then nothing else value text

/-- The value, or a default if nothing is given. -/
def getD (default : α) : Given α → α
  | value a => a
  | nothing => default

/-- The value, which has to be there. -/
def get (cause : Defect) : Given α → Except Fault α
  | value a => .ok a
  | nothing => .error (.defect cause)

/-- What is given once its value, if there is one, is read. -/
def read {ε : Type} (f : α → Except ε β) : Given α → Except ε (Given β)
  | value a => value <$> f a
  | nothing => .ok nothing

instance [Operand α] : Operand (Given α) where
  json
    | value a => Operand.json a
    | nothing => .arr []

end Given

end SearchGateway.CommandLine
