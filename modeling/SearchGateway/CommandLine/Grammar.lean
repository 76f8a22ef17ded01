import SearchGateway.CommandLine.Given
import SearchGateway.CommandLine.Misuse
import SearchGateway.Text.Numeral

/-!
# The words of a command

A command takes placed arguments, told apart by their order, and named arguments, each a name with a
value.  A value follows its name as the next word, or is attached to it: `--size 5`, `--size=5`,
`-idocs`.  A long name may be cut short while it stays the only one with that beginning.  The letter
that asks for help takes no value, so the letters attached to it are names themselves.

Whether a word is a name is decided before anything is read.  A word that starts with a dash is one,
known or not, unless as a whole it looks like a negative number or has a blank in it; after the
word `--` no word is.  A word that is a name never serves as the value of another one.
-/

set_option autoImplicit false

namespace SearchGateway.CommandLine

/-- An argument that is told by its place among others. -/
structure Placed (σ : Type) where
  name : String
  isRequired : Bool := true
  set : Given String → σ → σ

/-- What a named argument does. -/
inductive Effect (σ : Type) where
  /-- It asks for help and takes no value. -/
  | help
  /-- It takes a value. -/
  | value (set : Given String → σ → Except Flaw σ)

/-- An argument that is told by its name. -/
structure Named (σ : Type) where
  /-- Its names with their dashes: one dash for a single letter, two for more. -/
  names : List String
  isRequired : Bool := false
  effect : Effect σ

namespace Named

variable {σ : Type}

/-- All names of an argument as they stand in messages. -/
def title (argument : Named σ) : String := "/".intercalate argument.names

/-- An argument that asks for help. -/
def help : Named σ := { names := ["-h", "--help"], effect := .help }

/-- An argument with any text. -/
def text (name : String) (set : Given String → σ → σ) : Named σ :=
  { names := [name], effect := .value fun given state => .ok (set given state) }

/-- An argument with a value that is read from its text. -/
def parsed {α : Type} (name : String) (read? : String → Option α) (flaw : String → Flaw)
    (set : Given α → σ → σ) : Named σ :=
  { names := [name], effect := .value fun given state => do
      let given ← given.read fun text =>
        match read? text with
        | some a => .ok a
        | none => .error (flaw text)
      return set given state }

/-- An argument with an integer. -/
def integer (name : String) (set : Given Int → σ → σ) : Named σ :=
  parsed name Numeral.integer? .notInteger set

/-- An argument with a decimal. -/
def decimal (name : String) (set : Given Double → σ → σ) : Named σ :=
  parsed name Numeral.decimal? .notDecimal set

end Named

/-- The arguments of a command. -/
structure Grammar (σ : Type) where
  placed : List (Placed σ)
  named : List (Named σ)

/-- What a word is. -/
inductive Word (σ : Type) where
  /-- A value, or a placed argument. -/
  | plain (text : String)
  /-- The first `--`; all words after it are plain. -/
  | separator
  /-- The name of an argument, perhaps with a value attached. -/
  | named (argument : Named σ) (value : Option String)
  /-- A wish for help with the name of an argument attached, whose value has to come next. -/
  | helpBefore (argument : Named σ)
  /-- A name that no argument has. -/
  | unknown (text : String)

/-- Why the words of a command are not read to their end. -/
inductive Halt where
  | help
  | misuse (problem : Misuse)

/-! ## Telling names from values -/

/-- Whether characters look like a positive number: digits, perhaps with a point among or before
them, and perhaps a line feed at the end. -/
def looksLikeNumber (cs : List Char) : Bool :=
  let isDigit (c : Char) : Bool := (Text.digitValue? c).isSome
  let isNumber (ds : List Char) : Bool := !ds.isEmpty && ds.all isDigit
  let cs := if cs.getLast? = some '\n' then cs.dropLast else cs
  match cs.dropWhile isDigit with
  | [] => isNumber cs
  | '.' :: decimals => isNumber decimals
  | _ => false

/-- A word that starts with a dash and is no known name. -/
def strangeWord {σ : Type} (word : String) : Word σ :=
  if looksLikeNumber (word.toList.drop 1) || word.toList.contains ' ' then .plain word
  else .unknown word

/-- A word at its first equals sign: what stands before it, and what stands behind it if there is
one. -/
def splitValue (word : String) : String × Option String :=
  let (name, rest) := word.toList.span (· ≠ '=')
  match rest with
  | [] => (word, none)
  | _ :: value => (String.ofList name, some (String.ofList value))

namespace Grammar

variable {σ : Type}

/-- Every name with its argument. -/
def allNames (g : Grammar σ) : List (String × Named σ) :=
  g.named.flatMap fun argument => argument.names.map (·, argument)

/-- A wish for help with letters attached, each of them a name.  They are read until one takes a
value; a letter that is no name turns the rest into a value, which help has no use for. -/
def helpWord (g : Grammar σ) (help : Named σ) : List Char → Word σ
  | [] => .named help none
  | letter :: rest =>
    match g.allNames.lookup (String.ofList ['-', letter]) with
    | none => .named help (some (String.ofList (letter :: rest)))
    | some argument =>
      match argument.effect with
      | .help => g.helpWord argument rest
      | .value _ => if rest.isEmpty then .helpBefore argument else .named help none

/-- A one-letter name with something attached: its value, or more letters if it takes none. -/
def letterWord (g : Grammar σ) (argument : Named σ) (attached : List Char) : Word σ :=
  match argument.effect, attached with
  | .help, _ :: _ => g.helpWord argument attached
  | _, _ => .named argument (some (String.ofList attached))

/-- What a word is that comes before any `--`. -/
def classify (g : Grammar σ) (word : String) : Except Misuse (Word σ) :=
  match word.toList with
  | '-' :: letter :: rest =>
    let (name, value) := splitValue word
    match g.allNames.lookup word, g.allNames.lookup name, value with
    | some argument, _, _ => .ok (.named argument none)
    | none, some argument, some value =>
      .ok (if letter = '-' then .named argument (some value)
        else g.letterWord argument value.toList)
    | none, _, _ =>
      if letter = '-' then
        match g.allNames.filter fun (full, _) => name.toList.isPrefixOf full.toList with
        | [] => .ok (strangeWord word)
        | [(_, argument)] => .ok (.named argument value)
        | several => .error (.ambiguous word (several.map (·.1)))
      else match g.allNames.lookup (String.ofList ['-', letter]) with
        | some argument => .ok (g.letterWord argument rest)
        | none => .ok (strangeWord word)
  | _ => .ok (.plain word)

/-- What the words of a command are. -/
def classifyAll (g : Grammar σ) : List String → Except Misuse (List (Word σ))
  | [] => .ok []
  | word :: rest =>
    if word = "--" then .ok (.separator :: rest.map .plain)
    else do return (← g.classify word) :: (← classifyAll g rest)

end Grammar

/-! ## Reading -/

/-- What came right before a word. -/
inductive Before where
  | placed
  | separator
  | other
deriving Repr, DecidableEq

/-- What was read of the words of a command. -/
structure Reading (σ : Type) where
  state : σ
  /-- The placed arguments that are still to come. -/
  awaited : List (Placed σ)
  /-- The titles of the named arguments that were given. -/
  given : List String
  /-- The words that mean nothing. -/
  unknown : List String
  before : Before

namespace Reading

variable {σ : Type}

/-- Notes a word that means nothing. -/
def skip (r : Reading σ) (word : String) : Reading σ :=
  { r with unknown := r.unknown ++ [word], before := .other }

/-- Reads a named argument together with its value. -/
def give (r : Reading σ) (argument : Named σ) (text : String) : Except Halt (Reading σ) :=
  match argument.effect with
  | .help => .error (.misuse (.flawed argument.title (.needlessValue text)))
  | .value set =>
    match set (.ofText text) r.state with
    | .ok state =>
      .ok { r with state := state, given := argument.title :: r.given, before := .other }
    | .error flaw => .error (.misuse (.flawed argument.title flaw))

/-- Reads a plain word: the next placed argument, if one is awaited.  A second `--` is an argument
right behind the first one only; anywhere else it gives nothing. -/
def place (r : Reading σ) (word : String) : Reading σ :=
  match r.awaited with
  | [] => r.skip word
  | argument :: rest =>
    let given := if r.before = .separator then .value word else .ofText word
    { r with state := argument.set given r.state, awaited := rest, before := .placed }

/-- Reads the first `--`.  It goes unnoticed next to a placed argument, also one that may be left
out. -/
def separate (r : Reading σ) (isLast : Bool) : Reading σ :=
  match r.before, r.awaited with
  | .placed, _ => { r with before := .other }
  | _, [] => r.skip "--"
  | _, argument :: _ =>
    if isLast && argument.isRequired then r.skip "--" else { r with before := .separator }

/-- Reads words one after the other. -/
def consume : List (Word σ) → Reading σ → Except Halt (Reading σ)
  | [], r => .ok r
  | .plain text :: rest, r => consume rest (r.place text)
  | .separator :: rest, r => consume rest (r.separate rest.isEmpty)
  | .unknown text :: rest, r => consume rest (r.skip text)
  | .named argument (some text) :: rest, r => do consume rest (← r.give argument text)
  | .named argument none :: rest, r =>
    match argument.effect, rest with
    | .help, _ => .error .help
    | .value _, .plain text :: rest => do consume rest (← r.give argument text)
    | .value _, _ => .error (.misuse (.flawed argument.title .missingValue))
  | .helpBefore argument :: rest, _ =>
    match rest with
    | .plain _ :: _ => .error .help
    | _ => .error (.misuse (.flawed argument.title .missingValue))

end Reading

namespace Grammar

variable {σ : Type}

/-- The titles of the arguments that have to be given and are not. -/
def missing (g : Grammar σ) (r : Reading σ) : List String :=
  (r.awaited.filter (·.isRequired)).map (·.name)
    ++ ((g.named.filter (·.isRequired)).map Named.title).filter (!r.given.contains ·)

/-- Reads the words of a command from a start: what they say, and those that mean nothing. -/
def read (g : Grammar σ) (start : σ) (words : List String) : Except Halt (σ × List String) :=
  match g.classifyAll words with
  | .error problem => .error (.misuse problem)
  | .ok classified => do
    let r ← Reading.consume classified ⟨start, g.placed, [], [], .other⟩
    match g.missing r with
    | [] => .ok (r.state, r.unknown)
    | titles => .error (.misuse (.missing titles))

/-- All arguments in one line, those that may be left out in brackets. -/
def synopsis (g : Grammar σ) : String :=
  let item (isRequired : Bool) (text : String) : String :=
    if isRequired then text else "[" ++ text ++ "]"
  " ".intercalate (g.named.map (fun a => item a.isRequired a.title)
    ++ g.placed.map (fun a => item a.isRequired a.name))

end Grammar

end SearchGateway.CommandLine
