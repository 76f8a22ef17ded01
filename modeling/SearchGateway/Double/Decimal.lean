import SearchGateway.Double.Basic

/-!
# Decimal text of binary64 numbers

Reading a decimal rounds it once.  Writing chooses the decimal with the fewest digits that reads
back as the same number, and of those the nearest one (`Double.shortest`); how such a decimal is
laid out, and how the values without digits are spelled, is a `NumberStyle`.
-/

set_option autoImplicit false

namespace SearchGateway

/-- The number `digits * 10 ^ exponent`. -/
structure Decimal where
  digits : Nat
  exponent : Int
deriving Repr, DecidableEq

namespace Decimal

/-- The decimal digits of a natural number, the most significant one first. -/
def digitsOf (n : Nat) : List Char := Nat.toDigits 10 n

/-- The number that a list of decimal digits, the most significant one first, stands for. -/
def ofDigits (digits : List Nat) : Nat := digits.foldl (fun n d => 10 * n + d) 0

/-- The same number without zeros at the end of its digits.  The fuel bounds their count. -/
def stripZeros : Nat → Decimal → Decimal
  | 0, d => d
  | fuel + 1, d =>
    if d.digits ≠ 0 ∧ d.digits % 10 = 0 then stripZeros fuel ⟨d.digits / 10, d.exponent + 1⟩ else d

/-- The power of ten of the first digit. -/
def leading (d : Decimal) : Int := d.exponent + (digitsOf d.digits).length - 1

end Decimal

namespace Double

/-! ## Reading -/

/-- The `Double` nearest to a signed decimal.  Decimals far outside the format are settled by the
place of their first digit, so no large power is computed. -/
def ofDecimal (negative : Bool) (d : Decimal) : Double :=
  if d.digits = 0 then zero negative
  else if 310 < d.leading then infinite negative
  else if d.leading < -330 then zero negative
  else if 0 ≤ d.exponent then ofRatio negative (d.digits * Nat.pow 10 d.exponent.toNat) 1
  else ofRatio negative d.digits (Nat.pow 10 (-d.exponent).toNat)

/-! ## The shortest decimal that reads back -/

/-- The power of ten of the first digit of the positive magnitude `mantissa * 2 ^ exponent`. -/
def leadingPower (mantissa : Nat) (exponent : Int) : Int :=
  let num := mantissa * Nat.pow 2 exponent.toNat
  let den := Nat.pow 2 (-exponent).toNat
  if den ≤ num then ((Decimal.digitsOf (num / den)).length : Int) - 1
  else -((Decimal.digitsOf (den / num)).length : Int)

/-- The decimal with its last digit at `10 ^ power` that is nearest to the positive magnitude
`mantissa * 2 ^ exponent` among those that round to it, if there is one.  All is compared in
quarters of the mantissa's unit: what rounds to the magnitude lies within two quarters of it, within
one quarter below a power of two, the ends included for an even mantissa. -/
def nearestOnGrid (mantissa : Nat) (exponent power : Int) : Option Decimal :=
  let num := Nat.pow 10 power.toNat * Nat.pow 2 (2 - exponent).toNat
  let den := Nat.pow 10 (-power).toNat * Nat.pow 2 (exponent - 2).toNat
  let value := 4 * mantissa * den
  let low := (4 * mantissa - (if mantissa = Nat.pow 2 52 ∧ -1074 < exponent then 1 else 2)) * den
  let high := (4 * mantissa + 2) * den
  let reads (c : Nat) : Bool :=
    if mantissa % 2 = 0 then low ≤ c * num && c * num ≤ high else low < c * num && c * num < high
  let below := value / num
  let above := below + 1
  match reads below, reads above with
  | true, true =>
    let gapBelow := value - below * num
    let gapAbove := above * num - value
    if gapBelow < gapAbove ∨ (gapBelow = gapAbove ∧ below % 2 = 0) then some ⟨below, power⟩
    else some ⟨above, power⟩
  | true, false => some ⟨below, power⟩
  | false, true => some ⟨above, power⟩
  | false, false => none

/-- The decimal with the fewest digits that reads back as the positive magnitude
`mantissa * 2 ^ exponent`; seventeen digits always suffice. -/
def shortest (mantissa : Nat) (exponent : Int) : Decimal :=
  let first := leadingPower mantissa exponent
  let found := (List.range 17).findSome? fun (n : Nat) =>
    nearestOnGrid mantissa exponent (first - n)
  match found with
  | some d => d.stripZeros 17
  | none => ⟨mantissa, exponent⟩

end Double

/-! ## Layout -/

/-- How numbers are laid out as text. -/
structure NumberStyle where
  /-- The least power of ten of a first digit that is written without an exponent. -/
  leastPositional : Int
  /-- The greatest power of ten of a first digit that is written without an exponent. -/
  greatestPositional : Int
  /-- The least number of digits of an exponent. -/
  exponentDigits : Nat
  notANumber : String
  infinity : String

namespace NumberStyle

/-- The layout of messages and records: no exponent from `0.0001` up to sixteen digits. -/
def plain : NumberStyle := ⟨-4, 15, 2, "nan", "inf"⟩

/-- The layout of JSON text, with names for the numbers that JSON has none for. -/
def json : NumberStyle := ⟨-4, 15, 2, "NaN", "Infinity"⟩

/-- Zeros in the given number. -/
def zeros (n : Nat) : List Char := List.replicate n '0'

/-- A nonzero decimal as text.  A point is always written unless an exponent is. -/
def layOut (style : NumberStyle) (d : Decimal) : List Char :=
  let digits := Decimal.digitsOf d.digits
  let first := d.leading
  if first < style.leastPositional ∨ style.greatestPositional < first then
    let power := Decimal.digitsOf first.natAbs
    let mantissa := match digits with
      | [] => []
      | [c] => [c]
      | c :: rest => c :: '.' :: rest
    mantissa ++ ['e', if first < 0 then '-' else '+']
      ++ zeros (style.exponentDigits - power.length) ++ power
  else if first < 0 then ['0', '.'] ++ zeros (first.natAbs - 1) ++ digits
  else if digits.length ≤ first.toNat + 1 then
    digits ++ zeros (first.toNat + 1 - digits.length) ++ ['.', '0']
  else digits.take (first.toNat + 1) ++ '.' :: digits.drop (first.toNat + 1)

end NumberStyle

namespace Double

/-- The text of a number: the shortest decimal that reads back, with a point or an exponent. -/
def text (style : NumberStyle) : Double → String
  | nan => style.notANumber
  | infinite negative => if negative then "-" ++ style.infinity else style.infinity
  | finite negative mantissa exponent _ =>
    let magnitude := if mantissa = 0 then ['0', '.', '0']
      else style.layOut (shortest mantissa exponent)
    String.ofList (if negative then '-' :: magnitude else magnitude)

instance : ToString Double := ⟨text NumberStyle.plain⟩

end Double

end SearchGateway
