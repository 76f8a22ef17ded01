import SearchGateway.Json.Writer
import SearchGateway.Text.Quoted

/-!
# JSON values inside messages

A value that has to appear in a message is spelled for reading, not for decoding: texts are quoted
as messages quote them, and a text that is the whole value stands without quotes.
-/

set_option autoImplicit false

namespace SearchGateway.Json

mutual

/-- The spelling of a value inside another one. -/
def spell : Json → List Char
  | null => "None".toList
  | bool true => "True".toList
  | bool false => "False".toList
  | int n => writeInt n
  | num d => (d.text NumberStyle.plain).toList
  | str s => Text.quotedChars s.toList
  | arr [] => ['[', ']']
  | arr (item :: rest) => '[' :: (spell item ++ spellItems rest ++ [']'])
  | obj [] => ['\x7b', '\x7d']
  | obj ((key, value) :: rest) =>
    '\x7b' :: (Text.quotedChars key.toList ++ [':', ' '] ++ spell value ++ spellFields rest
      ++ ['\x7d'])

/-- The items after the first one. -/
def spellItems : List Json → List Char
  | [] => []
  | item :: rest => ',' :: ' ' :: (spell item ++ spellItems rest)

/-- The entries after the first one. -/
def spellFields : List (String × Json) → List Char
  | [] => []
  | (key, value) :: rest =>
    ',' :: ' ' :: (Text.quotedChars key.toList ++ [':', ' '] ++ spell value ++ spellFields rest)

end

/-- The text of a value in a message. -/
def display : Json → String
  | str s => s
  | value => String.ofList (spell value)

/-- The kind of a value in messages. -/
def kindName : Json → String
  | null => "NoneType"
  | bool _ => "bool"
  | int _ => "int"
  | num _ => "float"
  | str _ => "str"
  | arr _ => "list"
  | obj _ => "dict"

end SearchGateway.Json
