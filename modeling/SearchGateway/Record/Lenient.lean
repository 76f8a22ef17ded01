import SearchGateway.Json.Basic
import SearchGateway.Text.Numeral

/-!
# Lenient readers of JSON values

The engine hands out what was stored, and other programs store too.  These readers take every
value that can only mean one thing: a number may be written as text, an integer as a decimal
without a fraction, and a truth value counts as a number.  Text is only ever text.

`Checked` collects the names of the fields that cannot be read, so that a record with two broken
fields reports both.
-/

set_option autoImplicit false

namespace SearchGateway

namespace Lenient

/-! ## Single values -/

/-- A text. -/
def text? : Json → Option String
  | .str s => some s
  | _ => none

/-! ## Numbers in text

Both readers allow white space around a number.  An integer may also have zeros in front and a
fraction of zeros; both kinds of number may have underscores inside, one at a time. -/

/-- The characters from the first that counts, where `last` is the zero or underscore before them.
A text of zeros alone leaves its last character, and a zero before a point stays. -/
def afterZeros? (last : Char) : List Char → Option (List Char)
  | [] => some [last]
  | c :: rest =>
    if c = '0' ∨ c = '_' then afterZeros? c rest
    else if c = '.' then some (last :: c :: rest)
    else if c = '-' ∨ c.isDigit then some (c :: rest)
    else none

/-- A number without the zeros in front of it, nor the underscores among them.  It has to start
with a digit or a minus. -/
def withoutLeadingZeros? : List Char → Option (List Char)
  | [] => none
  | '0' :: rest => afterZeros? '0' rest
  | c :: rest => if c = '-' ∨ c.isDigit then some (c :: rest) else none

/-- A number without its sign, if that is a plus, and without the zeros in front of its digits. -/
def withoutLead? : List Char → Option (List Char)
  | '+' :: '-' :: _ => none
  | '+' :: rest => withoutLeadingZeros? rest
  | '-' :: rest => (withoutLeadingZeros? rest).map ('-' :: ·)
  | cs => withoutLeadingZeros? cs

/-- Whether the characters are a fraction of zeros: a point and at least one of them. -/
def isZeroFraction : List Char → Bool
  | '.' :: zeros => !zeros.isEmpty && zeros.all (· == '0')
  | _ => false

/-- A number without a fraction of zeros. -/
def withoutZeroFraction (cs : List Char) : List Char :=
  if isZeroFraction (cs.dropWhile (· ≠ '.')) then cs.takeWhile (· ≠ '.') else cs

/-- Whether two underscores follow each other. -/
def hasDoubleUnderscore : List Char → Bool
  | '_' :: '_' :: _ => true
  | _ :: rest => hasDoubleUnderscore rest
  | [] => false

/-- A number without its underscores.  It needs to have some, inside and one at a time. -/
def withoutUnderscores? (cs : List Char) : Option (List Char) :=
  if cs.head? = some '_' ∨ cs.getLast? = some '_' ∨ hasDoubleUnderscore cs ∨ '_' ∉ cs then none
  else some (cs.filter (· ≠ '_'))

/-- The natural number in decimal digits, zero as one digit and any other without zeros in front. -/
def natural? : List Char → Option Nat
  | ['0'] => some 0
  | '0' :: _ => none
  | [] => none
  | cs => (cs.mapM Text.asciiDigitValue?).map Decimal.ofDigits

/-- The integer of at most `Numeral.maxDigits` characters, a minus among them. -/
def plainInteger? (cs : List Char) : Option Int :=
  if Numeral.maxDigits < cs.length then none
  else match cs with
    | '-' :: rest => (natural? rest).map fun n => -(n : Int)
    | cs => (natural? cs).map Int.ofNat

/-- The integer that a text stands for. -/
def integerOfText? (s : String) : Option Int := do
  let cs ← withoutLead? (Text.trimBoth Text.isSpace s.toList)
  let cs := withoutZeroFraction cs
  plainInteger? ((withoutUnderscores? cs).getD cs)

/-- The decimal that a text stands for: one with white space around it or one with underscores
inside it, but not with both. -/
def realOfText? (s : String) : Option Double :=
  Numeral.plainDecimal? (Text.trimBoth Text.isSpace s.toList) <|>
    (withoutUnderscores? s.toList).bind Numeral.plainDecimal?

/-! ## Values of other kinds -/

/-- The largest magnitude that a decimal must stay below to be read as an integer. -/
def integerLimit : Int := Nat.pow 2 63

/-- An integer: one as such, a truth value, a decimal without a fraction, or text. -/
def integer? : Json → Option Int
  | .int n => some n
  | .bool b => some (if b then 1 else 0)
  | .num d => match d.toInt? with
    | some n => if -integerLimit < n ∧ n < integerLimit then some n else none
    | none => none
  | .str s => integerOfText? s
  | _ => none

/-- A number: one as such, a truth value, or text. -/
def real? : Json → Option Double
  | .num d => some d
  | .int n => (Double.ofInt n).toOption
  | .bool b => (Double.ofInt (if b then 1 else 0)).toOption
  | .str s => realOfText? s
  | _ => none

/-- A list of values that can all be read. -/
def list? {α : Type} (item? : Json → Option α) : Json → Option (List α)
  | .arr items => items.mapM item?
  | _ => none

/-- An object. -/
def object? : Json → Option Json.Fields
  | .obj fields => some fields
  | _ => none

/-- The texts under the keys of an object, in order. -/
def textLists? : Json → Option (List (String × List String))
  | .obj fields => fields.mapM fun (key, value) => (list? text? value).map (key, ·)
  | _ => none

end Lenient

/-! ## Fields of records -/

/-- A value read from the fields of an object, or the names of the fields that cannot be read. -/
inductive Checked (α : Type) where
  | valid (value : α)
  | invalid (fields : List String)

namespace Checked

instance : Functor Checked where
  map f
    | valid a => valid (f a)
    | invalid names => invalid names

instance : Applicative Checked where
  pure := valid
  seq f x := match f, x () with
    | valid f, valid a => valid (f a)
    | valid _, invalid names => invalid names
    | invalid names, valid _ => invalid names
    | invalid names, invalid more => invalid (names ++ more)

/-- The value, if all fields could be read. -/
def value? {α : Type} : Checked α → Option α
  | valid a => some a
  | invalid _ => none

/-- A value that was read or not, on account of the named field. -/
def ofOption {α : Type} (name : String) : Option α → Checked α
  | some a => valid a
  | none => invalid [name]

/-- A field that has to be there. -/
def required {α : Type} (fields : Json.Fields) (name : String) (read? : Json → Option α) :
    Checked α :=
  ofOption name ((fields.get? name).bind read?)

/-- A field that may be absent or `null`. -/
def optional {α : Type} (fields : Json.Fields) (name : String) (read? : Json → Option α) :
    Checked (Option α) :=
  match fields.get? name with
  | none => valid none
  | some .null => valid none
  | some value => ofOption name ((read? value).map some)

/-- A list that is empty if its field is absent. -/
def listOrEmpty {α : Type} (fields : Json.Fields) (name : String) (item? : Json → Option α) :
    Checked (List α) :=
  match fields.get? name with
  | none => valid []
  | some value => ofOption name (Lenient.list? item? value)

end Checked

end SearchGateway
