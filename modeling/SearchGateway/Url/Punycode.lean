/-!
# Punycode

Characters beyond ASCII written in letters and digits.  The characters of ASCII come first, as they
are.  Behind a hyphen follow the others in the order of their code points: every number says how
many steps to pass over before the next of them is put in, where a step is a place in the text, and
behind the last place comes the next code point.  The numbers have digits to the base 36, and the
weight of a digit depends on how large the numbers before it were.
-/

set_option autoImplicit false

namespace SearchGateway.Url.Punycode

/-! ## Digits -/

/-- The digit of a value below 36. -/
def digit (value : Nat) : Char :=
  if value < 26 then Char.ofNat ('a'.toNat + value) else Char.ofNat ('0'.toNat + (value - 26))

/-- The value of a digit. -/
def digitValue? (c : Char) : Option Nat :=
  if 'a' ≤ c ∧ c ≤ 'z' then some (c.toNat - 'a'.toNat)
  else if 'A' ≤ c ∧ c ≤ 'Z' then some (c.toNat - 'A'.toNat)
  else if c.isDigit then some (c.toNat - '0'.toNat + 26)
  else none

/-- The value from which on a digit in the given place is not the last one; places are 36, 72, and
so on. -/
def threshold (place bias : Nat) : Nat :=
  if place ≤ bias then 1 else if bias + 26 ≤ place then 26 else place - bias

/-- The bias that suits a number of the given size. -/
def biasFor (bias : Nat) : Nat → Nat → Nat
  | 0, size => bias + 36 * size / (size + 38)
  | fuel + 1, size =>
    if 455 < size then biasFor (bias + 36) fuel (size / 35) else bias + 36 * size / (size + 38)

/-- The bias after a number, when so many characters are there; the first number counts for less. -/
def adapt (number characters : Nat) (isFirst : Bool) : Nat :=
  let size := if isFirst then number / 700 else number / 2
  biasFor 0 size (size + size / characters)

/-- The digits of a number.  The fuel bounds the number, which every digit makes smaller. -/
def digits (bias : Nat) : Nat → Nat → Nat → List Char
  | 0, _, _ => []
  | fuel + 1, place, number =>
    let t := threshold place bias
    if number < t then [digit number]
    else digit (t + (number - t) % (36 - t)) ::
      digits bias fuel (place + 36) ((number - t) / (36 - t))

/-! ## Writing -/

/-- What is to be written: how many steps were passed over since the last character that was put in,
how many characters are there, and how numbers are written. -/
structure Writer where
  steps : Nat := 0
  characters : Nat
  isFirst : Bool := true
  bias : Nat := 72
  written : List Char := []

/-- Passes a place, where one of the characters stands that are put in now, or one that is there
already, or one that is put in later. -/
def Writer.pass (now : Nat) (w : Writer) (c : Char) : Writer :=
  if c.toNat < now then { w with steps := w.steps + 1 }
  else if c.toNat = now then {
    steps := 0
    characters := w.characters + 1
    isFirst := false
    bias := adapt w.steps (w.characters + 1) w.isFirst
    written := w.written ++ digits w.bias (w.steps + 1) 36 w.steps }
  else w

/-- Puts in the characters of the given code points, which ascend from the one that is due. -/
def writePoints (cs : List Char) : List Nat → Nat → Writer → List Char
  | [], _, w => w.written
  | point :: rest, due, w =>
    let w := cs.foldl (Writer.pass point)
      { w with steps := w.steps + (point - due) * (w.characters + 1) }
    writePoints cs rest (point + 1) { w with steps := w.steps + 1 }

/-- Whether the character is one of ASCII. -/
def isBasic (c : Char) : Bool := c.toNat < 128

/-- Characters in letters and digits. -/
def encode (cs : List Char) : List Char :=
  let basic := cs.filter isBasic
  let points := ((cs.filter (!isBasic ·)).map Char.toNat).eraseDups.mergeSort
  (if basic.isEmpty then [] else basic ++ ['-'])
    ++ writePoints cs points 128 { characters := basic.length }

/-! ## Reading -/

/-- The number in front, and what follows it: the weight of the next digit and its place are
given. -/
def number? (bias : Nat) : Nat → Nat → List Char → Option (Nat × List Char)
  | _, _, [] => none
  | weight, place, c :: rest => do
    let value ← digitValue? c
    let t := threshold place bias
    if value < t then return (value * weight, rest)
    else
      let (more, rest) ← number? bias (weight * (36 - t)) (place + 36) rest
      return (value * weight + more, rest)

/-- The character of a code point. -/
def char? (point : Nat) : Option Char :=
  if point < 0xd800 ∨ (0xdfff < point ∧ point ≤ 0x10ffff) then some (Char.ofNat point) else none

/-- Puts characters in as numbers say.  The fuel bounds the digits; `place` is where the last
character was put in and `due` its code point. -/
def readPoints : Nat → List Char → Nat → Nat → Nat → Bool → List Char → Option (List Char)
  | 0, _, _, _, _, _, _ => none
  | fuel + 1, found, due, place, bias, isFirst, cs =>
    if cs.isEmpty then some found
    else do
      let (number, rest) ← number? bias 1 36 cs
      let count := found.length + 1
      let steps := place + number
      let c ← char? (due + steps / count)
      let place := steps % count
      readPoints fuel (found.take place ++ c :: found.drop place) (due + steps / count) (place + 1)
        (adapt number count isFirst) false rest

/-- The characters that letters and digits stand for. -/
def decode? (cs : List Char) : Option (List Char) :=
  let start := (cs.reverse.dropWhile (· ≠ '-')).reverse
  let numbers := cs.drop start.length
  readPoints (numbers.length + 1) start.dropLast 128 0 72 true numbers

end SearchGateway.Url.Punycode
