import SearchGateway.Json.Reader
import SearchGateway.Text.Encoding

/-!
# JSON text in bytes

A JSON text begins with a character of ASCII, mostly with two of them, so the bytes that are NUL
among the first four tell its encoding.
-/

set_option autoImplicit false

namespace SearchGateway.Json

/-- The encoding of a JSON text. -/
def encodingOf : List UInt8 → Text.Encoding
  | 0 :: 0 :: _ :: _ :: _ => .utf32 .highFirst
  | 0 :: _ :: _ :: _ :: _ => .utf16 .highFirst
  | _ :: 0 :: 0 :: 0 :: _ => .utf32 .lowFirst
  | _ :: 0 :: _ :: _ :: _ => .utf16 .lowFirst
  | [0, _] => .utf16 .highFirst
  | [_, 0] => .utf16 .lowFirst
  | _ => .utf8

/-- Bytes without the byte order mark of UTF-8 in front. -/
def withoutMark : List UInt8 → List UInt8
  | 0xef :: 0xbb :: 0xbf :: rest => rest
  | bytes => bytes

/-- The value that the text in bytes stands for, with at most `depth` arrays and objects inside each
other. -/
def parseBytes (depth : Nat) (bytes : List UInt8) : Except Flaw Json :=
  match (encodingOf bytes).decode? (withoutMark bytes) with
  | some text => parse depth text
  | none => .error .malformed

end SearchGateway.Json
