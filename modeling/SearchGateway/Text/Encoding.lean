/-!
# Encodings of text

Text in bytes: UTF-8, UTF-16 and UTF-32, the latter two with the high or the low byte first.  A text
is made of characters, so half of a surrogate pair has no place in it by itself, and the replacement
character stands for it.  Where an escape in JSON text names such a half this loses it: texts that
keep it are those of `Text.Raw`, and no JSON value has them.
-/

set_option autoImplicit false

namespace SearchGateway.Text

/-- Whether a code unit is half of a pair. -/
def isSurrogate (unit : Nat) : Bool := 0xd800 ≤ unit && unit ≤ 0xdfff

/-- The character of a code point.  A surrogate is none by itself and is lost. -/
def scalarChar (point : Nat) : Char := if isSurrogate point then '\ufffd' else Char.ofNat point

/-- The characters that code units of sixteen bits stand for: a high and a low surrogate together
are one. -/
def ofUnits : List Nat → List Char
  | [] => []
  | [unit] => [scalarChar unit]
  | high :: low :: rest =>
    if 0xd800 ≤ high ∧ high ≤ 0xdbff ∧ 0xdc00 ≤ low ∧ low ≤ 0xdfff then
      Char.ofNat (0x10000 + (high - 0xd800) * 0x400 + (low - 0xdc00)) :: ofUnits rest
    else scalarChar high :: ofUnits (low :: rest)

/-- The order of the bytes of a number. -/
inductive ByteOrder where
  | highFirst
  | lowFirst
deriving Repr, DecidableEq

/-- The number that bytes stand for. -/
def ByteOrder.number (order : ByteOrder) (bytes : List UInt8) : Nat :=
  let highFirst := match order with
    | .highFirst => bytes
    | .lowFirst => bytes.reverse
  highFirst.foldl (fun n b => 256 * n + b.toNat) 0

/-- How text is written in bytes. -/
inductive Encoding where
  | utf8
  | utf16 (order : ByteOrder)
  | utf32 (order : ByteOrder)
deriving Repr, DecidableEq

/-- Bytes in pairs as numbers. -/
def pairs? (order : ByteOrder) : List UInt8 → Option (List Nat)
  | [] => some []
  | a :: b :: rest => (pairs? order rest).map (order.number [a, b] :: ·)
  | _ => none

/-- Bytes in fours as numbers. -/
def quads? (order : ByteOrder) : List UInt8 → Option (List Nat)
  | [] => some []
  | a :: b :: c :: d :: rest => (quads? order rest).map (order.number [a, b, c, d] :: ·)
  | _ => none

/-- The text that bytes stand for. -/
def Encoding.decode? (encoding : Encoding) (bytes : List UInt8) : Option String :=
  match encoding with
  | .utf8 => String.fromUTF8? ⟨bytes.toArray⟩
  | .utf16 order => (pairs? order bytes).map fun units => String.ofList (ofUnits units)
  | .utf32 order => do
    let points ← quads? order bytes
    if points.all (· ≤ 0x10ffff) then return String.ofList (points.map scalarChar) else none

end SearchGateway.Text
