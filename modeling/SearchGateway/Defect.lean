/-!
# Defects: failures that no operation announces

The operations of the gateway announce their failures as `Fault`s, each with a message for the
caller.  Below those lie failures of arithmetic, of decoding and of shape, which data from outside
can still provoke.  They carry no message: the cause is all there is to say about them.
-/

set_option autoImplicit false

namespace SearchGateway

/-- The cause of a failure that no operation announces. -/
inductive Defect where
  /-- A value of a kind that the operation cannot use at all, such as text where a list is due. -/
  | wrongType
  /-- A value of the right kind whose content cannot be used, such as a number in letters. -/
  | wrongValue
  /-- A number too large for the format that has to hold it. -/
  | overflow
  /-- A quotient by zero. -/
  | divisionByZero
  /-- A value that lacks the member asked of it. -/
  | missingMember
  /-- A search request without a kind of search. -/
  | missingKind
  /-- Bytes that are no UTF-8 text. -/
  | malformedText
  /-- A text with half of a surrogate pair in it where bytes are due. -/
  | unencodableText
  /-- A folder where a file is due. -/
  | folderAsFile
  /-- A path, or a name on it, that is longer than paths and names can be. -/
  | pathTooLong
  /-- A JSON text nested deeper than it can be read. -/
  | tooDeep
  /-- A text where a URL is due. -/
  | invalidUrl
  /-- A request by an HTTP client that is closed. -/
  | closedClient
  /-- A key that nothing is registered under. -/
  | unregistered (key : String)
  /-- A name that no open walk goes by. -/
  | unknownWalk
  /-- A recipe that needs itself. -/
  | endlessRecursion
  /-- Top-level fields of a record that do not hold what the record asks for. -/
  | invalidFields (fields : List String)
  /-- An exchange with the embedding service that broke off before any classification applies,
  by the name of the failure. -/
  | brokenExchange (name : String)
deriving Repr, DecidableEq

end SearchGateway
