import SearchGateway.Defect
import SearchGateway.Text.Encoding

/-!
# Raw texts

A text from outside may have halves of surrogate pairs in it that stand by themselves.  A `Text.Raw`
is a text of that kind.  Without surrogates it is a text of characters and has an encoding, with one
it has none.
-/

set_option autoImplicit false

namespace SearchGateway.Text

/-- A code point: that of a character, or half of a surrogate pair. -/
abbrev Point := Fin 0x110000

namespace Point

/-- The code point of a character. -/
def ofChar (c : Char) : Point :=
  ⟨c.toNat, by
    have hvalid := c.valid
    simp only [UInt32.isValidChar, Nat.isValidChar] at hvalid
    show c.val.toNat < 0x110000
    omega⟩

/-- The character of a code point; a surrogate is none. -/
def char? (point : Point) : Option Char :=
  if isSurrogate point then none else some (Char.ofNat point)

end Point

/-- A text that may have surrogates in it. -/
abbrev Raw := List Point

namespace Raw

/-- A text of characters. -/
def ofString (s : String) : Raw := s.toList.map Point.ofChar

/-- The text of characters that a text is, which alone has an encoding. -/
def encoded (text : Raw) : Except Defect String :=
  match text.mapM Point.char? with
  | some cs => .ok (String.ofList cs)
  | none => .error .unencodableText

end Raw

end SearchGateway.Text
