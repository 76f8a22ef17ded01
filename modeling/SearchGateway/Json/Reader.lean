import SearchGateway.Json.Basic
import SearchGateway.Text.Encoding
import SearchGateway.Text.Hex

/-!
# Reading JSON text

`Json.parse` reads one value with nothing but blanks around it.  Beyond JSON it takes the names
`NaN`, `Infinity` and `-Infinity`.  Of two entries with one key the last value counts, in the place
of the first.  An integer may have `Json.maxDigits` digits; numbers with a point or an exponent
are rounded to binary64, to an infinity if need be.  Arrays and objects may stand inside each other
to a given depth.

The functions of the reader take the characters to read and return what they read together with the
characters after it.
-/

set_option autoImplicit false

namespace SearchGateway.Json

/-- Why a text is not read as a value. -/
inductive Flaw where
  /-- It stands for none. -/
  | malformed
  /-- It opens more arrays and objects inside each other than can be read. -/
  | tooDeep
deriving Repr, DecidableEq

namespace Reader

/-- Whether a character may stand between the parts of a value. -/
def isGap (c : Char) : Bool := c == ' ' || c == '\t' || c == '\n' || c == '\r'

/-- The characters after the blanks in front. -/
def skip (cs : List Char) : List Char := cs.dropWhile isGap

/-- The characters after a given beginning. -/
def after? : List Char → List Char → Option (List Char)
  | [], cs => some cs
  | _ :: _, [] => none
  | e :: es, c :: cs => if e = c then after? es cs else none

/-! ## Texts -/

/-- The code units up to the closing quote. -/
def units : List Char → Option (List Nat × List Char)
  | [] => none
  | '"' :: rest => some ([], rest)
  | '\\' :: 'u' :: a :: b :: c :: d :: rest => do
    let unit ← Text.hexNumber? [a, b, c, d]
    let (more, rest) ← units rest
    return (unit :: more, rest)
  | '\\' :: e :: rest => do
    let unit ← match e with
      | '"' => some 0x22
      | '\\' => some 0x5c
      | '/' => some 0x2f
      | 'b' => some 0x8
      | 'f' => some 0xc
      | 'n' => some 0xa
      | 'r' => some 0xd
      | 't' => some 0x9
      | _ => none
    let (more, rest) ← units rest
    return (unit :: more, rest)
  | c :: rest => do
    if c.toNat < 0x20 then none
    else
      let (more, rest) ← units rest
      return (c.toNat :: more, rest)

/-- A text up to its closing quote, the opening one being read already. -/
def text (cs : List Char) : Option (String × List Char) := do
  let (us, rest) ← units cs
  return (String.ofList (Text.ofUnits us), rest)

/-! ## Numbers -/

/-- The values of the decimal digits in front, and what follows them. -/
def digits (cs : List Char) : List Nat × List Char :=
  ((cs.takeWhile Char.isDigit).map (fun c => c.toNat - '0'.toNat), cs.dropWhile Char.isDigit)

/-- The digits of an integer: a zero alone, or digits that do not begin with one. -/
def integerDigits : List Char → Option (List Nat × List Char)
  | '0' :: rest => some ([0], rest)
  | cs => match digits cs with
    | ([], _) => none
    | found => some found

/-- The digits after a point, if a point with digits follows. -/
def fraction? : List Char → Option (List Nat × List Char)
  | '.' :: rest => match digits rest with
    | ([], _) => none
    | found => some found
  | _ => none

/-- The sign in front of an exponent's digits. -/
def exponentSign : List Char → Bool × List Char
  | '-' :: rest => (true, rest)
  | '+' :: rest => (false, rest)
  | cs => (false, cs)

/-- The exponent, if a mark with digits follows. -/
def exponent? : List Char → Option (Int × List Char)
  | c :: rest =>
    if c = 'e' ∨ c = 'E' then
      let (negative, rest) := exponentSign rest
      match digits rest with
      | ([], _) => none
      | (ds, rest) =>
        let n : Int := Decimal.ofDigits ds
        some (if negative then -n else n, rest)
    else none
  | [] => none

/-- A number behind its sign. -/
def number (negative : Bool) (cs : List Char) : Option (Json × List Char) := do
  let (whole, rest) ← integerDigits cs
  let (part, rest, pointed) := match fraction? rest with
    | some (ds, rest) => (ds, rest, true)
    | none => ([], rest, false)
  match exponent? rest, pointed with
  | none, false =>
    if whole.length ≤ maxDigits then
      let n : Int := Decimal.ofDigits whole
      some (.int (if negative then -n else n), rest)
    else none
  | none, true =>
    some (.num (.ofDecimal negative ⟨Decimal.ofDigits (whole ++ part), -part.length⟩), rest)
  | some (e, rest), _ =>
    some (.num (.ofDecimal negative ⟨Decimal.ofDigits (whole ++ part), e - part.length⟩), rest)

/-! ## Values -/

/-- The values that have names. -/
def names : List (List Char × Json) :=
  [("null".toList, .null), ("true".toList, .bool true), ("false".toList, .bool false),
    ("NaN".toList, .num .nan), ("Infinity".toList, .num (.infinite false)),
    ("-Infinity".toList, .num (.infinite true))]

/-- A named value or a number. -/
def scalar (cs : List Char) : Option (Json × List Char) :=
  match names.findSome? fun (name, value) => (after? name cs).map (value, ·) with
  | some found => some found
  | none => match cs with
    | '-' :: rest => number true rest
    | _ => number false cs

/-- What was read, or the flaw of a text that cannot be read. -/
def orMalformed {α : Type} : Option α → Except Flaw α
  | some found => .ok found
  | none => .error .malformed

mutual

/-- A value that opens at most `depth` arrays and objects inside each other.  The fuel bounds the
steps; every step but those into an empty array or object reads a character. -/
def value (depth : Nat) : Nat → List Char → Except Flaw (Json × List Char)
  | 0, _ => .error .malformed
  | fuel + 1, cs => match cs, depth with
    | '"' :: rest, _ => do
      let (s, rest) ← orMalformed (text rest)
      return (.str s, rest)
    | '[' :: _, 0 => .error .tooDeep
    | '[' :: rest, depth + 1 => match skip rest with
      | ']' :: rest => .ok (.arr [], rest)
      | rest => do
        let (items, rest) ← items depth fuel rest
        return (.arr items, rest)
    | '\x7b' :: _, 0 => .error .tooDeep
    | '\x7b' :: rest, depth + 1 => match skip rest with
      | '\x7d' :: rest => .ok (.obj [], rest)
      | rest => do
        let (fields, rest) ← fields depth fuel [] rest
        return (.obj fields, rest)
    | _, _ => orMalformed (scalar cs)

/-- The items of an array up to its closing bracket, at least one. -/
def items (depth : Nat) : Nat → List Char → Except Flaw (List Json × List Char)
  | 0, _ => .error .malformed
  | fuel + 1, cs => do
    let (item, rest) ← value depth fuel cs
    match skip rest with
    | ',' :: rest => do
      let (more, rest) ← items depth fuel (skip rest)
      return (item :: more, rest)
    | ']' :: rest => return ([item], rest)
    | _ => .error .malformed

/-- The entries of an object up to its closing brace, at least one, put to those read before. -/
def fields (depth : Nat) : Nat → Fields → List Char → Except Flaw (Fields × List Char)
  | 0, _, _ => .error .malformed
  | fuel + 1, before, cs => match cs with
    | '"' :: rest => do
      let (key, rest) ← orMalformed (text rest)
      match skip rest with
      | ':' :: rest => do
        let (v, rest) ← value depth fuel (skip rest)
        let found := Association.put key v before
        match skip rest with
        | ',' :: rest => fields depth fuel found (skip rest)
        | '\x7d' :: rest => return (found, rest)
        | _ => .error .malformed
      | _ => .error .malformed
    | _ => .error .malformed

end

end Reader

/-- The value that the whole text stands for, with at most `depth` arrays and objects inside each
other. -/
def parse (depth : Nat) (s : String) : Except Flaw Json := do
  let cs := s.toList
  let (v, rest) ← Reader.value depth (cs.length + 1) (Reader.skip cs)
  if (Reader.skip rest).isEmpty then .ok v else .error .malformed

/-- The value that the whole text stands for, however deep. -/
def parse? (s : String) : Option Json := (parse s.length s).toOption

end SearchGateway.Json
