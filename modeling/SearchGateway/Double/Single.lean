import SearchGateway.Double.Basic

/-!
# Rounding to single precision

Local models give out binary32 numbers.  `Double.toSingle` is the binary32 number nearest to a
binary64 number, as a binary64 number again.
-/

set_option autoImplicit false

namespace SearchGateway.Double

/-- The number of binary digits of a natural number. -/
def bitLength (n : Nat) : Nat := if n = 0 then 0 else n.log2 + 1

/-- The nearest binary32 number, a tie going to the even mantissa: 24 bits at most, the least
exponent being `-149`.  Magnitudes that round to `2 ^ 128` or beyond are infinite. -/
def toSingle : Double → Double
  | nan => nan
  | infinite negative => infinite negative
  | finite negative mantissa exponent _ =>
    let last : Int := max (exponent + bitLength mantissa - 24) (-149)
    if last ≤ exponent then
      if exponent + bitLength mantissa ≤ 128 then
        ofRatio negative (mantissa * Nat.pow 2 exponent.toNat) (Nat.pow 2 (-exponent).toNat)
      else infinite negative
    else
      let rounded := roundHalfEven mantissa (Nat.pow 2 (last - exponent).toNat)
      if last + bitLength rounded ≤ 128 then
        ofRatio negative (rounded * Nat.pow 2 last.toNat) (Nat.pow 2 (-last).toNat)
      else infinite negative

end SearchGateway.Double
