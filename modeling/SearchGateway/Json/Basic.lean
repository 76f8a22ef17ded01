import SearchGateway.Association
import SearchGateway.Double.Decimal

/-!
# JSON values

Integers and binary64 numbers are kept apart, as the texts `1` and `1.0` are.  An object is the list
of its entries in order; readers and builders of this library give every key once.
-/

set_option autoImplicit false

namespace SearchGateway

/-- A JSON value. -/
inductive Json where
  | null
  | bool (value : Bool)
  | int (value : Int)
  | num (value : Double)
  | str (value : String)
  | arr (items : List Json)
  | obj (fields : List (String × Json))

namespace Json

/-- The most digits an integer may have in JSON text. -/
def maxDigits : Nat := 4300

instance : Inhabited Json := ⟨null⟩
instance : Coe String Json := ⟨str⟩
instance : Coe Int Json := ⟨int⟩
instance : Coe Double Json := ⟨num⟩
instance : Coe Bool Json := ⟨bool⟩

/-- The entries of an object. -/
abbrev Fields := List (String × Json)

/-- The value under a key. -/
def Fields.get? (fields : Fields) (key : String) : Option Json := Association.get? key fields

/-- The entries of an object value. -/
def fields? : Json → Option Fields
  | obj fields => some fields
  | _ => none

/-- The items of an array value. -/
def items? : Json → Option (List Json)
  | arr items => some items
  | _ => none

/-- The value under a key of an object value. -/
def get? (value : Json) (key : String) : Option Json :=
  value.fields?.bind (·.get? key)

/-- Whether the value is `null`. -/
def isNull : Json → Bool
  | null => true
  | _ => false

/-- Whether the value counts as something: not `null`, `false`, a zero, or empty. -/
def isSomething : Json → Bool
  | null => false
  | bool b => b
  | int n => n != 0
  | num d => !d.isZero
  | str s => !s.isEmpty
  | arr items => !items.isEmpty
  | obj fields => !fields.isEmpty

/-- An optional value, `null` for none. -/
def ofOption {α : Type} (f : α → Json) : Option α → Json
  | none => null
  | some a => f a

/-- A list of texts. -/
def strings (texts : List String) : Json := arr (texts.map str)

/-- A list of numbers. -/
def numbers (values : List Double) : Json := arr (values.map num)

end Json

/-! ## Operands -/

/-- A type of values that requests speak about, each with a form in JSON. -/
class Operand (α : Type) where
  json : α → Json

namespace Operand

instance : Operand Int := ⟨.int⟩
instance : Operand String := ⟨.str⟩
instance : Operand Double := ⟨.num⟩

@[simp]
theorem json_int (n : Int) : json n = .int n := rfl

@[simp]
theorem json_string (s : String) : json s = .str s := rfl

@[simp]
theorem json_double (d : Double) : json d = .num d := rfl

end Operand

end SearchGateway
