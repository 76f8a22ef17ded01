/-!
# Log records

What the gateway tells its operator while it works.
-/

set_option autoImplicit false

namespace SearchGateway

/-- How much a log record matters. -/
inductive Level where
  | info
  | warning
  | error
deriving Repr, DecidableEq

namespace Level

/-- The name of a level in log output. -/
def name : Level → String
  | info => "INFO"
  | warning => "WARNING"
  | error => "ERROR"

/-- The rank of a level; a threshold lets pass what ranks at least as high. -/
def rank : Level → Nat
  | info => 20
  | warning => 30
  | error => 40

/-- The threshold of a name.  More names are known than there are levels of records. -/
def threshold? : String → Option Nat
  | "CRITICAL" | "FATAL" => some 50
  | "ERROR" => some 40
  | "WARNING" | "WARN" => some 30
  | "INFO" => some 20
  | "DEBUG" => some 10
  | "NOTSET" => some 0
  | _ => none

end Level

/-- A log record. -/
structure Log where
  level : Level
  message : String
deriving Repr, DecidableEq

end SearchGateway
