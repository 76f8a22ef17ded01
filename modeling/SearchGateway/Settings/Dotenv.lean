import SearchGateway.Association
import SearchGateway.Text.Blank

/-!
# Settings files

A settings file has one binding `NAME=value` per line, perhaps behind the word `export`.  A value
stands between quotes, in which escapes are read and lines may end, or runs up to a comment or the
end of the line.  A line that does not fit is passed over.  A name without an equals sign unsets
what was bound to it before.

In values `${NAME}` and `${NAME:-default}` stand for what is bound to the name: by a binding further
up, or else in the environment.

The functions of the reader take the characters to read and return what they read together with the
characters after it.
-/

set_option autoImplicit false

namespace SearchGateway.Dotenv

/-- Whether a character may stand between the parts of a line. -/
def isGap (c : Char) : Bool := Text.isBlank c && c ≠ '\r' && c ≠ '\n'

/-- The characters after the blanks in front on the same line. -/
def skipGap (cs : List Char) : List Char := cs.dropWhile isGap

/-- Whether a character ends a line. -/
def isLineEnd (c : Char) : Bool := c == '\r' || c == '\n'

/-! ## Names -/

/-- The characters after the word `export`, if blanks follow it. -/
def skipExport (cs : List Char) : List Char :=
  match cs with
  | 'e' :: 'x' :: 'p' :: 'o' :: 'r' :: 't' :: c :: rest => if isGap c then skipGap rest else cs
  | _ => cs

/-- A name and what follows it: between quotes, or up to a blank, an equals sign or a comment.  A
comment has no name. -/
def key? (cs : List Char) : Option (Option (List Char) × List Char) :=
  match cs with
  | '#' :: _ => some (none, cs)
  | '\'' :: rest =>
    let name := rest.takeWhile (· ≠ '\'')
    match rest.dropWhile (· ≠ '\'') with
    | _ :: rest => if name.isEmpty then none else some (some name, rest)
    | [] => none
  | _ =>
    let isName (c : Char) : Bool := c ≠ '=' && c ≠ '#' && !Text.isBlank c
    let name := cs.takeWhile isName
    if name.isEmpty then none else some (some name, cs.dropWhile isName)

/-! ## Values -/

/-- What stands before the closing quote, and what follows that.  A character behind a backslash
does not close. -/
def quotedValue? (quote : Char) : List Char → Option (List Char × List Char)
  | [] => none
  | '\\' :: c :: rest => (quotedValue? quote rest).map fun (value, after) =>
    ('\\' :: c :: value, after)
  | c :: rest =>
    if c = quote then some ([], rest)
    else (quotedValue? quote rest).map fun (value, after) => (c :: value, after)

/-- The character that a letter behind a backslash stands for between double quotes. -/
def doubleEscape? : Char → Option Char
  | '\\' => some '\\'
  | '\'' => some '\''
  | '"' => some '"'
  | 'a' => some '\x07'
  | 'b' => some '\x08'
  | 'f' => some '\x0c'
  | 'n' => some '\n'
  | 'r' => some '\r'
  | 't' => some '\t'
  | 'v' => some '\x0b'
  | _ => none

/-- The character that a character behind a backslash stands for between single quotes. -/
def singleEscape? : Char → Option Char
  | '\\' => some '\\'
  | '\'' => some '\''
  | _ => none

/-- A value with its escapes read; a backslash that begins none stands for itself. -/
def unescape (escape? : Char → Option Char) : List Char → List Char
  | [] => []
  | [c] => [c]
  | c :: d :: rest =>
    match if c = '\\' then escape? d else none with
    | some e => e :: unescape escape? rest
    | none => c :: unescape escape? (d :: rest)

/-- What stands in front of a comment: of blanks with a number sign behind them. -/
def beforeComment : List Char → List Char
  | [] => []
  | c :: rest =>
    if Text.isBlank c && (rest.dropWhile Text.isBlank).head? == some '#' then []
    else c :: beforeComment rest

/-- The value behind an equals sign, and what follows it.  Blanks in front of a value are no part of
it, but they let a number sign begin a comment. -/
def value? (cs : List Char) : Option (List Char × List Char) :=
  match skipGap cs with
  | '\'' :: rest => (quotedValue? '\'' rest).map fun (v, after) => (unescape singleEscape? v, after)
  | '"' :: rest => (quotedValue? '"' rest).map fun (v, after) => (unescape doubleEscape? v, after)
  | _ =>
    let line := cs.takeWhile (!isLineEnd ·)
    some (Text.trimBoth Text.isBlank (beforeComment line), cs.dropWhile (!isLineEnd ·))

/-! ## Lines -/

/-- What follows a comment, if there is one. -/
def skipComment (cs : List Char) : List Char :=
  match skipGap cs with
  | '#' :: rest => rest.dropWhile (!isLineEnd ·)
  | _ => cs

/-- What follows the end of a line, if nothing else stands before it. -/
def lineEnd? (cs : List Char) : Option (List Char) :=
  match skipGap cs with
  | [] => some []
  | '\r' :: '\n' :: rest => some rest
  | '\r' :: rest => some rest
  | '\n' :: rest => some rest
  | _ => none

/-- What follows the rest of a line. -/
def skipLine (cs : List Char) : List Char := (cs.dropWhile (!isLineEnd ·)).drop 1

/-- A name with its value, if it has one. -/
abbrev Binding := List Char × Option (List Char)

/-- What was read of a line: a binding or none, and where to go on. -/
structure Line where
  binding : Option Binding
  rest : List Char

/-- A line behind its name: the value if an equals sign follows, and the end of the line. -/
def afterKey (key : Option (List Char)) (cs : List Char) : Line :=
  let found := match skipGap cs with
    | '=' :: rest => match value? rest with
      | some (value, rest) => (some (some value), rest)
      | none => (none, skipGap rest)
    | rest => (some none, rest)
  match found with
  | (none, rest) => ⟨none, skipLine rest⟩
  | (some value, rest) =>
    let rest := skipComment rest
    match lineEnd? rest with
    | some after => ⟨key.map (·, value), after⟩
    | none => ⟨none, skipLine rest⟩

/-- A line that begins with something else than a blank. -/
def line (cs : List Char) : Line :=
  let cs := skipExport cs
  match key? cs with
  | none => ⟨none, skipLine cs⟩
  | some (key, rest) => afterKey key rest

/-- The bindings of a file.  The fuel bounds the number of lines; every one takes a character. -/
def bindings : Nat → List Char → List Binding
  | 0, _ => []
  | fuel + 1, cs =>
    match cs.dropWhile Text.isBlank with
    | [] => []
    | cs =>
      let l := line cs
      l.binding.toList ++ bindings fuel l.rest

/-! ## References -/

/-- A reference: the name, the value that stands in if the name has none, and what comes next. -/
structure Reference where
  name : List Char
  fallback : List Char
  rest : List Char

/-- A reference behind its opening brace. -/
def reference? (cs : List Char) : Option Reference :=
  let isName (c : Char) : Bool := c ≠ '\x7d' && c ≠ ':'
  let name := cs.takeWhile isName
  match cs.dropWhile isName with
  | '\x7d' :: rest => some ⟨name, [], rest⟩
  | ':' :: '-' :: rest =>
    match rest.dropWhile (· ≠ '\x7d') with
    | _ :: after => some ⟨name, rest.takeWhile (· ≠ '\x7d'), after⟩
    | [] => none
  | _ => none

/-- A value with its references replaced.  The fuel bounds the number of characters. -/
def expand (lookup : String → Option (Option String)) : Nat → List Char → List Char
  | 0, cs => cs
  | fuel + 1, cs => match cs with
    | [] => []
    | '$' :: '\x7b' :: rest =>
      match reference? rest with
      | some r =>
        let value := match lookup (String.ofList r.name) with
          | some (some v) => v.toList
          | some none => []
          | none => r.fallback
        value ++ expand lookup fuel r.rest
      | none => '$' :: expand lookup fuel ('\x7b' :: rest)
    | c :: rest => c :: expand lookup fuel rest

/-- Adds a binding to those above it, with its references replaced. -/
def bind (environment : List (String × String)) (above : List (String × Option String))
    (binding : Binding) : List (String × Option String) :=
  let lookup (name : String) : Option (Option String) :=
    match Association.get? name above with
    | some value => some value
    | none => (Association.get? name environment).map some
  let value := binding.2.map fun v => String.ofList (expand lookup v.length v)
  Association.put (String.ofList binding.1) value above

/-- The characters of a file without the byte order mark that may begin them. -/
def skipMark : List Char → List Char
  | '\ufeff' :: rest => rest
  | cs => cs

/-- The names of a settings file with their values; a name that is unset has none. -/
def read (environment : List (String × String)) (text : String) : List (String × Option String) :=
  let cs := skipMark text.toList
  (bindings (cs.length + 1) cs).foldl (bind environment) []

end SearchGateway.Dotenv
