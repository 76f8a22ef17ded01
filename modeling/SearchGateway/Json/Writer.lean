import SearchGateway.Json.Basic
import SearchGateway.Text.Hex

/-!
# JSON text

A `Layout` fixes what JSON leaves open: separators, indentation, and whether characters beyond ASCII
are escaped.  Numbers take the shortest decimal that reads back; infinities and not-a-number are
spelled `Infinity`, `-Infinity` and `NaN`.
-/

set_option autoImplicit false

namespace SearchGateway.Json

/-- What JSON leaves open about its text. -/
structure Layout where
  /-- What stands between two items. -/
  comma : List Char
  /-- What stands between a key and its value. -/
  colon : List Char
  /-- Whether all but printable ASCII is escaped. -/
  asciiOnly : Bool
  /-- The number of blanks per level if every item has its own line. -/
  indent : Option Nat

namespace Layout

/-- No blanks at all. -/
def compact : Layout := ⟨[','], [':'], true, none⟩

/-- All in one line, with blanks after the separators. -/
def line : Layout := ⟨[',', ' '], [':', ' '], true, none⟩

/-- One item per line, indented by two blanks per level, all characters as they are. -/
def pretty : Layout := ⟨[','], [':', ' '], false, some 2⟩

end Layout

/-! ## Texts -/

/-- The escape of a code unit. -/
def unitEscape (n : Nat) : List Char := '\\' :: 'u' :: Text.hex 4 n

/-- One character of a text.  Characters beyond the basic plane are escaped as two code units. -/
def writeChar (asciiOnly : Bool) (c : Char) : List Char :=
  if c == '"' then ['\\', '"']
  else if c == '\\' then ['\\', '\\']
  else if c == '\n' then ['\\', 'n']
  else if c == '\r' then ['\\', 'r']
  else if c == '\t' then ['\\', 't']
  else if c.toNat = 8 then ['\\', 'b']
  else if c.toNat = 12 then ['\\', 'f']
  else if c.toNat < 0x20 then unitEscape c.toNat
  else if !asciiOnly || c.toNat < 0x7f then [c]
  else if c.toNat < 0x10000 then unitEscape c.toNat
  else
    let offset := c.toNat - 0x10000
    unitEscape (0xd800 + offset / 0x400) ++ unitEscape (0xdc00 + offset % 0x400)

/-- A text between quotes. -/
def writeString (asciiOnly : Bool) (s : String) : List Char :=
  '"' :: (s.toList.flatMap (writeChar asciiOnly) ++ ['"'])

/-! ## Values -/

namespace Layout

/-- What begins a line at a depth. -/
def newline (layout : Layout) (depth : Nat) : List Char :=
  match layout.indent with
  | none => []
  | some width => '\n' :: List.replicate (width * depth) ' '

end Layout

/-- The decimal digits of an integer with its sign. -/
def writeInt (n : Int) : List Char :=
  if n < 0 then '-' :: Decimal.digitsOf n.natAbs else Decimal.digitsOf n.natAbs

mutual

/-- The text of a value at a depth. -/
def write (layout : Layout) (depth : Nat) : Json → List Char
  | null => ['n', 'u', 'l', 'l']
  | bool true => ['t', 'r', 'u', 'e']
  | bool false => ['f', 'a', 'l', 's', 'e']
  | int n => writeInt n
  | num d => (d.text NumberStyle.json).toList
  | str s => writeString layout.asciiOnly s
  | arr [] => ['[', ']']
  | arr (item :: rest) =>
    '[' :: (layout.newline (depth + 1) ++ write layout (depth + 1) item
      ++ writeItems layout (depth + 1) rest ++ layout.newline depth ++ [']'])
  | obj [] => ['\x7b', '\x7d']
  | obj ((key, value) :: rest) =>
    '\x7b' :: (layout.newline (depth + 1) ++ writeString layout.asciiOnly key ++ layout.colon
      ++ write layout (depth + 1) value ++ writeFields layout (depth + 1) rest
      ++ layout.newline depth ++ ['\x7d'])

/-- The items after the first one, each behind a separator. -/
def writeItems (layout : Layout) (depth : Nat) : List Json → List Char
  | [] => []
  | item :: rest =>
    layout.comma ++ layout.newline depth ++ write layout depth item ++ writeItems layout depth rest

/-- The entries after the first one, each behind a separator. -/
def writeFields (layout : Layout) (depth : Nat) : List (String × Json) → List Char
  | [] => []
  | (key, value) :: rest =>
    layout.comma ++ layout.newline depth ++ writeString layout.asciiOnly key ++ layout.colon
      ++ write layout depth value ++ writeFields layout depth rest

end

/-- The text of a value. -/
def render (layout : Layout) (value : Json) : String := String.ofList (write layout 0 value)

/-! ## Values that can be written -/

mutual

/-- Whether no integer of a value has more digits than an integer may have. -/
def isWritable : Json → Bool
  | int n => decide ((Decimal.digitsOf n.natAbs).length ≤ maxDigits)
  | arr items => areWritable items
  | obj fields => areWritableFields fields
  | _ => true

/-- Whether no integer of several values has more digits than an integer may have. -/
def areWritable : List Json → Bool
  | [] => true
  | item :: rest => item.isWritable && areWritable rest

/-- Whether no integer of several entries has more digits than an integer may have. -/
def areWritableFields : List (String × Json) → Bool
  | [] => true
  | (_, value) :: rest => value.isWritable && areWritableFields rest

end

/-- The text of a value for a partner, who has to be able to read it. -/
def encode (layout : Layout) (value : Json) : Except Defect String :=
  if value.isWritable then .ok (value.render layout) else .error .wrongValue

end SearchGateway.Json
