import SearchGateway.Double.Decimal
import SearchGateway.Text.Blank
import SearchGateway.Text.Digit

/-!
# Numbers written in text

Integers and decimals as people and programs write them: with a sign, perhaps with underscores
between digits, perhaps with white space around them.  Two families of readers are built here: the
readers of `Numeral` proper take the digits of all scripts, and the parts they are made of serve
the readers of records, which are stricter about digits and laxer about underscores.
-/

set_option autoImplicit false

namespace SearchGateway.Numeral

/-- Whether the number is negative, and what follows its sign. -/
def sign : List Char → Bool × List Char
  | '-' :: rest => (true, rest)
  | '+' :: rest => (false, rest)
  | cs => (false, cs)

/-- The values of digits that may have single underscores between them. -/
def digitGroups? : List Char → Option (List Nat)
  | [] => none
  | [c] => (Text.asciiDigitValue? c).map ([·])
  | c :: '_' :: rest => do return (← Text.asciiDigitValue? c) :: (← digitGroups? rest)
  | c :: rest => do return (← Text.asciiDigitValue? c) :: (← digitGroups? rest)

/-- The integer of a sign and a magnitude. -/
def signed (negative : Bool) (magnitude : Nat) : Int :=
  if negative then -(magnitude : Int) else magnitude

/-- The most digits an integer may have. -/
def maxDigits : Nat := 4300

/-! ## Decimals -/

/-- The values of the digits in front, and what follows them. -/
def leadingDigits (cs : List Char) : List Nat × List Char :=
  (cs.takeWhile Char.isDigit |>.filterMap Text.asciiDigitValue?, cs.dropWhile Char.isDigit)

/-- The exponent at the end of a decimal: nothing, or a mark, a sign and digits. -/
def exponent? : List Char → Option Int
  | [] => some 0
  | c :: rest =>
    if c = 'e' ∨ c = 'E' then
      let (negative, rest) := sign rest
      match leadingDigits rest with
      | ([], _) => none
      | (ds, []) => some (signed negative (Decimal.ofDigits ds))
      | _ => none
    else none

/-- The number that stands behind a sign: digits with a point among or around them, and perhaps an
exponent. -/
def magnitude? (negative : Bool) (cs : List Char) : Option Double :=
  let (whole, rest) := leadingDigits cs
  let (part, rest) := match rest with
    | '.' :: rest => leadingDigits rest
    | _ => ([], rest)
  if whole.isEmpty && part.isEmpty then none
  else (exponent? rest).map fun e =>
    Double.ofDecimal negative ⟨Decimal.ofDigits (whole ++ part), e - part.length⟩

/-- A decimal without underscores or white space.  Infinities and not-a-number have names, in any
case; a magnitude beyond the format is an infinity. -/
def plainDecimal? (cs : List Char) : Option Double :=
  let (negative, rest) := sign cs
  let name := String.ofList (rest.map Char.toLower)
  if name = "inf" ∨ name = "infinity" then some (.infinite negative)
  else if name = "nan" then some .nan
  else magnitude? negative rest

/-- Whether every underscore stands between two digits; `inDigit` tells whether a digit comes right
before the characters. -/
def underscoresInside : Bool → List Char → Bool
  | _, [] => true
  | inDigit, '_' :: rest => match rest with
    | c :: _ => inDigit && c.isDigit && underscoresInside false rest
    | [] => false
  | _, c :: rest => underscoresInside c.isDigit rest

/-! ## Numbers in the digits of any script -/

/-- A digit of any script as one of `0` to `9`; other characters as they are. -/
def asciiDigit (c : Char) : Char :=
  match Text.digitValue? c with
  | some value => Char.ofNat ('0'.toNat + value)
  | none => c

/-- The text of a number without the white space around it and with plain digits. -/
def normalized (s : String) : List Char :=
  (Text.trimBoth Text.isSpace s.toList).map asciiDigit

/-- The integer that a text stands for. -/
def integer? (s : String) : Option Int := do
  let (negative, rest) := sign (normalized s)
  let digits ← digitGroups? rest
  if digits.length ≤ maxDigits then some (signed negative (Decimal.ofDigits digits)) else none

/-- The decimal that a text stands for. -/
def decimal? (s : String) : Option Double :=
  let cs := normalized s
  if underscoresInside false cs then plainDecimal? (cs.filter (· ≠ '_')) else none

end SearchGateway.Numeral
