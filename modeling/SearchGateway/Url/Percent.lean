import SearchGateway.Text.Hex

/-!
# Percent-encoding

In each part of a URL some characters stand for themselves and all others are written as the bytes
of their UTF-8 encoding, every byte behind a percent sign.  What is encoded already stays as it is.
-/

set_option autoImplicit false

namespace SearchGateway.Url

/-- The characters that stand for themselves in every part. -/
def isUnreserved (c : Char) : Bool := c.isAlphanum || c ∈ ['-', '.', '_', '~']

/-- Whether a character is a visible one of ASCII and none of the given. -/
def isVisibleExcept (others : List Char) (c : Char) : Bool :=
  0x21 ≤ c.toNat && c.toNat ≤ 0x7e && !others.contains c

/-- The characters that stand for themselves in a path. -/
def isPathChar : Char → Bool := isVisibleExcept ['"', '#', '<', '>', '?', '\x60', '\x7b', '\x7d']

/-- The characters that stand for themselves in a query. -/
def isQueryChar : Char → Bool := isVisibleExcept ['"', '#', '<', '>']

/-- The characters that stand for themselves in a fragment. -/
def isFragmentChar : Char → Bool := isVisibleExcept ['"', '<', '>', '\x60']

/-- The characters that stand for themselves in what comes before a host. -/
def isUserChar (c : Char) : Bool :=
  isPathChar c && isVisibleExcept ['/', ';', '=', '@', '[', '\\', ']', '^', '|'] c

/-- The characters that stand for themselves in the name of a host. -/
def isHostChar (c : Char) : Bool :=
  isUnreserved c || "!$&'()*+,;=\"\x60\x7b\x7d%|\\".toList.contains c

/-- The bytes of a character, each behind a percent sign. -/
def percentBytes (c : Char) : List Char :=
  (String.singleton c).toUTF8.toList.flatMap fun byte =>
    '%' :: (Text.hex 2 byte.toNat).map Char.toUpper

/-- A character as it is written where the given ones stand for themselves. -/
def encodeChar (stands : Char → Bool) (c : Char) : List Char :=
  if stands c then [c] else percentBytes c

/-- Whether the character is a hexadecimal digit. -/
def isHexDigit (c : Char) : Bool := (Text.hexValue? c).isSome

/-- Characters as they are written where the given ones stand for themselves. -/
def encode (stands : Char → Bool) : List Char → List Char
  | [] => []
  | '%' :: a :: b :: rest =>
    if isHexDigit a && isHexDigit b then '%' :: a :: b :: encode stands rest
    else encodeChar stands '%' ++ encode stands (a :: b :: rest)
  | c :: rest => encodeChar stands c ++ encode stands rest

end SearchGateway.Url
