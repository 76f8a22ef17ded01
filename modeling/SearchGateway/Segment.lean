import SearchGateway.Document
import SearchGateway.Fault

/-!
# Dividing documents into parts

A document is cut into parts of a bounded number of characters.  Every part but the first begins
with the last characters of the part before it: with an overlap of `o` characters and parts of at
most `m`, part `i` covers the characters from `i * (m - o) - o` up to `(i + 1) * (m - o)`, so
consecutive parts advance by `m - o`.
-/

set_option autoImplicit false

namespace SearchGateway

namespace Segment

/-- The number of characters that neighbouring parts share: the given rate of a part's size, rounded
down. -/
def overlapWidth (maxSize : Int) (rate : Double) : Except Defect Int := do
  let size ← Double.ofInt maxSize
  (rate * size).floor

/-- The number of parts for a content of the given length. -/
def partCount (length maxSize : Int) (rate : Double) : Except Defect Int := do
  if maxSize = 0 ∨ length ≤ maxSize then return 1
  let step := maxSize - (← overlapWidth maxSize rate)
  (← Double.quotient length step).ceil

/-- A part of a document with the given number and content. -/
def part (document : Document) (documentId : String) (number : Nat) (content : String) : Part where
  documentId := documentId
  number := number
  file := document.file
  content := some content
  chunks := none
  embeddings := none
  metadata := document.metadata

/-- The characters that part `number` covers, for parts that advance by `step` and begin with
`overlap` characters of the part before. -/
def slice {α : Type} (content : List α) (step overlap number : Nat) : List α :=
  let start := number * step - overlap
  (content.take (number * step + step)).drop start

/-- What stands against dividing a document. -/
inductive Objection (τ : Type) where
  /-- Size or rate is out of range, or the two do not go together. -/
  | invalid (message : String)
  /-- The document under this path has no content, and is to have parts of a bounded size. -/
  | empty (path : τ)
  | defect (cause : Defect)
deriving Repr, DecidableEq

instance {τ : Type} : MonadLift (Except Defect) (Except (Objection τ)) where
  monadLift
    | .ok a => .ok a
    | .error d => .error (.defect d)

/-- An objection as a failure. -/
def Objection.fault : Objection String → Fault
  | invalid message => .invalid message
  | empty path => .announced .indivisible s!"document content is empty: {path}"
  | defect cause => .defect cause

/-- The number of characters that neighbouring parts share, if a content of the given length may be
divided. -/
def vet {τ : Type} (path : τ) (length : Nat) (maxSize : Int) (rate : Double) :
    Except (Objection τ) Int := do
  if maxSize < 0 then
    throw (.invalid s!"max part size must not be negative: {maxSize}")
  if !rate.isProperFraction then
    throw (.invalid s!"overlap rate must be in [0, 1): {rate}")
  let overlap ← (overlapWidth maxSize rate : Except Defect Int)
  let step := maxSize - overlap
  if step < overlap then
    throw (.invalid (s!"overlap {overlap} exceeds part step {step}: " ++
      s!"overlap rate {rate} is too large for max part size {maxSize}"))
  if 0 < maxSize ∧ length = 0 then
    throw (.empty path)
  return overlap

/-- The pieces that a content is cut into, of which there are to be `count`. -/
def pieces {α : Type} (content : List α) (maxSize overlap count : Int) : List (List α) :=
  if count = 1 then [content]
  else (List.range count.toNat).map (slice content (maxSize - overlap).toNat overlap.toNat)

/-- Divides a content into parts of at most `maxSize` characters; zero leaves it whole.  At most
half of a part may overlap with the part before it.  A part is made from the identifier of the
document, its own number and its characters. -/
def divideWith {τ α β : Type} (path : τ) (content : List α) (id : Except Defect String)
    (make : String → Nat → List α → β) (maxSize : Int) (rate : Double) :
    Except (Objection τ) (List β) := do
  let overlap ← vet path content.length maxSize rate
  let count ← (partCount content.length maxSize rate : Except Defect Int)
  let documentId ← id
  return (pieces content maxSize overlap count).mapIdx (make documentId)

/-- Divides a document into parts. -/
def divide (document : Document) (maxSize : Int) (rate : Double) : Except Fault (List Part) :=
  (divideWith document.file.path document.content.toList (.ok document.id)
    (fun documentId number piece => part document documentId number (String.ofList piece))
    maxSize rate).mapError Objection.fault

end Segment

/-- Divides a document into parts that has an identifier only if its texts have an encoding. -/
def RawDocument.divide {κ : Type} (document : RawDocument κ) (maxSize : Int) (rate : Double) :
    Except (Segment.Objection Text.Raw) (List (RawPart κ)) :=
  Segment.divideWith document.path document.content document.id
    (fun documentId number piece => ⟨documentId, number, document.path, piece, document.facts⟩)
    maxSize rate

end SearchGateway
