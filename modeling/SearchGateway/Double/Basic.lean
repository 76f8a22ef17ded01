import SearchGateway.Defect

/-!
# Binary64 numbers with exact arithmetic

A `Double` is a binary64 number given by sign, integer mantissa and binary exponent.  Every finite
number has one representation here, the two zeros are different values, and all not-a-numbers are
one value, so equality of `Double`s is equality of what a program can print.

Every operation rounds one exact rational to the nearest `Double` through `Double.ofRatio`; no
machine arithmetic is involved, so statements about results are statements about integers.
-/

set_option autoImplicit false

namespace SearchGateway

/-- The one way in which binary64 writes the magnitude `mantissa * 2 ^ exponent`: 53 bits at most,
all 53 used unless the exponent is already the least one. -/
def Canonical (mantissa : Nat) (exponent : Int) : Prop :=
  mantissa < Nat.pow 2 53 ∧ -1074 ≤ exponent ∧ exponent ≤ 971 ∧
    (exponent = -1074 ∨ Nat.pow 2 52 ≤ mantissa)

instance (mantissa : Nat) (exponent : Int) : Decidable (Canonical mantissa exponent) :=
  inferInstanceAs (Decidable (_ ∧ _))

/-- A binary64 number. -/
inductive Double where
  /-- The number `± mantissa * 2 ^ exponent`. -/
  | finite (negative : Bool) (mantissa : Nat) (exponent : Int)
      (canonical : Canonical mantissa exponent)
  | infinite (negative : Bool)
  | nan
deriving DecidableEq

namespace Double

/-! ## Rounding an exact rational -/

/-- A magnitude in its canonical form, or infinity if its exponent is beyond the format. -/
def ofParts (negative : Bool) (mantissa : Nat) (exponent : Int) : Double :=
  if h : Canonical mantissa exponent then finite negative mantissa exponent h
  else infinite negative

/-- The zero of a sign. -/
def zero (negative : Bool) : Double :=
  finite negative 0 (-1074) (by decide)

instance : Inhabited Double := ⟨zero false⟩

/-- The integer nearest to `num / den`, the even one of two equally near. -/
def roundHalfEven (num den : Nat) : Nat :=
  let quotient := num / den
  let rest := num % den
  if 2 * rest < den ∨ (2 * rest = den ∧ quotient % 2 = 0) then quotient else quotient + 1

/-- Numerator and denominator of `(num / den) / 2 ^ exponent`. -/
def scaled (num den : Nat) (exponent : Int) : Nat × Nat :=
  if 0 ≤ exponent then (num, den * Nat.pow 2 exponent.toNat)
  else (num * Nat.pow 2 (-exponent).toNat, den)

/-- The exponent at which the magnitude `num / den` has 53 bits before the point, raised to the
least exponent of the format where it would fall below. -/
def exponentOf (num den : Nat) : Int :=
  let guess : Int := (num.log2 : Int) - (den.log2 : Int) - 52
  let (n, d) := scaled num den guess
  max (if n < d * Nat.pow 2 52 then guess - 1 else guess) (-1074)

/-- The `Double` nearest to `± num / den`, a tie going to the even mantissa, for a positive `den`.
A magnitude that rounds beyond the largest finite number becomes infinite. -/
def ofRatio (negative : Bool) (num den : Nat) : Double :=
  if num = 0 then zero negative
  else
    let exponent := exponentOf num den
    let (n, d) := scaled num den exponent
    let mantissa := roundHalfEven n d
    if mantissa = Nat.pow 2 53 then ofParts negative (Nat.pow 2 52) (exponent + 1)
    else ofParts negative mantissa exponent

/-! ## Integers -/

/-- The `Double` nearest to an integer; an integer that rounds beyond the format overflows. -/
def ofInt (n : Int) : Except Defect Double :=
  match ofRatio (decide (n < 0)) n.natAbs 1 with
  | infinite _ => .error .overflow
  | d => .ok d

/-- The mantissa with its sign. -/
def signed (negative : Bool) (mantissa : Nat) : Int :=
  if negative then -(mantissa : Int) else mantissa

/-- The greatest integer that is not above the number. -/
def floor : Double → Except Defect Int
  | nan => .error .wrongValue
  | infinite _ => .error .overflow
  | finite negative mantissa exponent _ =>
    .ok (if 0 ≤ exponent then signed negative mantissa * Nat.pow 2 exponent.toNat
      else Int.fdiv (signed negative mantissa) (Nat.pow 2 (-exponent).toNat))

/-- The least integer that is not below the number. -/
def ceil : Double → Except Defect Int
  | nan => .error .wrongValue
  | infinite _ => .error .overflow
  | finite negative mantissa exponent _ =>
    .ok (if 0 ≤ exponent then signed negative mantissa * Nat.pow 2 exponent.toNat
      else -Int.fdiv (-signed negative mantissa) (Nat.pow 2 (-exponent).toNat))

/-- The integer left when the fraction is dropped. -/
def truncate : Double → Except Defect Int
  | nan => .error .wrongValue
  | infinite _ => .error .overflow
  | finite negative mantissa exponent _ =>
    .ok (if 0 ≤ exponent then signed negative mantissa * Nat.pow 2 exponent.toNat
      else Int.tdiv (signed negative mantissa) (Nat.pow 2 (-exponent).toNat))

/-- The integer that the number is, if it is one. -/
def toInt? : Double → Option Int
  | finite negative mantissa exponent _ =>
    if 0 ≤ exponent then some (signed negative mantissa * Nat.pow 2 exponent.toNat)
    else if mantissa % Nat.pow 2 (-exponent).toNat = 0 then
      some (Int.tdiv (signed negative mantissa) (Nat.pow 2 (-exponent).toNat))
    else none
  | _ => none

/-! ## Arithmetic and order -/

/-- Whether the number has a negative sign. -/
def isNegative : Double → Bool
  | finite negative _ _ _ => negative
  | infinite negative => negative
  | nan => false

/-- Whether the number is one of the two zeros. -/
def isZero : Double → Bool
  | finite _ mantissa _ _ => mantissa == 0
  | _ => false

/-- The product rounded once. -/
def mul : Double → Double → Double
  | nan, _ => nan
  | _, nan => nan
  | infinite s, d => if d.isZero then nan else infinite (s != d.isNegative)
  | d, infinite s => if d.isZero then nan else infinite (s != d.isNegative)
  | finite s m e _, finite t n f _ =>
    let exponent := e + f
    if 0 ≤ exponent then ofRatio (s != t) (m * n * Nat.pow 2 exponent.toNat) 1
    else ofRatio (s != t) (m * n) (Nat.pow 2 (-exponent).toNat)

instance : Mul Double := ⟨mul⟩

/-- The quotient of two integers rounded once.  There is none by zero, and one that rounds beyond
the format overflows. -/
def quotient (a b : Int) : Except Defect Double :=
  if b = 0 then .error .divisionByZero
  else
    match ofRatio (decide (a < 0) != decide (b < 0)) a.natAbs b.natAbs with
    | infinite _ => .error .overflow
    | d => .ok d

/-- Whether the number lies in `[0, 1)`.  Negative zero does, and not-a-number does not. -/
def isProperFraction : Double → Bool
  | finite negative mantissa exponent _ =>
    (mantissa == 0 || !negative) && exponent < 0 && mantissa < Nat.pow 2 (-exponent).toNat
  | _ => false

/-- Whether the number differs from both zeros. -/
def isNonzero : Double → Bool
  | d => !d.isZero

end Double

end SearchGateway
