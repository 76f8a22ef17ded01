import SearchGateway.CommandLine.Grammar

/-!
# Forms of commands

A program has commands, each with a name and arguments of its own.  A command line names one of
them; the words behind the name are read by the command's own grammar.
-/

set_option autoImplicit false

namespace SearchGateway.CommandLine

/-- A command as it is written: its name, its arguments in one line, and how the words behind the
name are read.  They say what kind `γ` of thing is asked for, and some of them may mean nothing. -/
structure Form (γ : Type) where
  name : String
  synopsis : String
  read : List String → Except Halt (γ × List String)

namespace Form

variable {γ : Type}

/-- A form from the arguments of a command. -/
def ofGrammar {σ : Type} (name : String) (g : Grammar σ) (start : σ) (finish : σ → γ) : Form γ where
  name := name
  synopsis := g.synopsis
  read words := do
    let (state, unknown) ← g.read start words
    return (finish state, unknown)

end Form

/-! ## Refusals -/

/-- Why a command line is not carried out. -/
inductive Refusal (γ : Type) where
  /-- Help is asked for, about one command or about all. -/
  | help (command : Option (Form γ))
  /-- The command line is wrong, in the words of one command or outside of them. -/
  | misuse (command : Option (Form γ)) (problem : Misuse)

namespace Refusal

variable {γ : Type}

/-- The refusal of words that were not read to their end. -/
def ofHalt (command : Option (Form γ)) : Halt → Refusal γ
  | .help => .help command
  | .misuse problem => .misuse command problem

/-- A program, or one command of it. -/
def caller (program : String) (command : Option (Form γ)) : String :=
  " ".intercalate (program :: (command.map Form.name).toList)

/-- What the user of a program is told when a command line is not carried out. -/
def text (program : String) : Refusal γ → String
  | help (some form) => "usage: " ++ caller program (some form) ++ " " ++ form.synopsis
  | help none => "usage: " ++ program ++ " command"
  | misuse command problem => caller program command ++ ": error: " ++ problem.message

end Refusal

/-! ## Reading a command line -/

namespace Form

variable {γ : Type}

/-- The arguments that come before the name of a command. -/
def front : Grammar Unit := ⟨[], [Named.help]⟩

/-- A command line at the name of its command: the words before it that mean nothing, the name, and
the words behind it.  A `--` that has words behind it passes for a name. -/
def split : List String → Except Halt (List String × String × List String)
  | [] => .error (.misuse (.missing ["command"]))
  | word :: rest =>
    if word = "--" then
      if rest.isEmpty then .error (.misuse (.missing ["command"])) else .ok ([], word, rest)
    else match front.classify word with
      | .error problem => .error (.misuse problem)
      | .ok (.named _ none) | .ok (.helpBefore _) => .error .help
      | .ok (.named argument (some text)) =>
        .error (.misuse (.flawed argument.title (.needlessValue text)))
      | .ok (.unknown text) => do
        let (unknown, name, rest) ← split rest
        return (text :: unknown, name, rest)
      | .ok _ => .ok ([], word, rest)

/-- Reads a command line.  Words that mean nothing are refused only if there is nothing else to
complain about. -/
def choose (forms : List (Form γ)) (words : List String) : Except (Refusal γ) γ :=
  match split words with
  | .error halt => .error (.ofHalt none halt)
  | .ok (before, name, rest) =>
    match forms.find? (·.name = name) with
    | none => .error (.misuse none (.flawed "command" (.notAmong (forms.map Form.name) name)))
    | some form =>
      match form.read rest with
      | .error halt => .error (.ofHalt (some form) halt)
      | .ok (command, after) =>
        match before ++ after with
        | [] => .ok command
        | unknown => .error (.misuse none (.unknown unknown))

end Form

end SearchGateway.CommandLine
