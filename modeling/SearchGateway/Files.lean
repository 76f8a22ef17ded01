import SearchGateway.Defect
import SearchGateway.Double.Basic
import SearchGateway.Text.Case

/-!
# Files and folders

The files that documents are taken in from, as a value: what there is below the root of the file
system, and which folder the program works in.  A folder exists if it is listed itself or holds
anything; the working folder exists.
-/

set_option autoImplicit false

namespace SearchGateway

/-- A time in seconds since the epoch. -/
inductive Instant where
  | seconds (n : Int)
  | decimal (d : Double)

/-- The whole seconds of a time. -/
def Instant.truncate : Instant → Except Defect Int
  | seconds n => .ok n
  | decimal d => d.truncate

/-- A file, with the times of its last changes. -/
structure FileEntry where
  bytes : ByteArray
  createdAt : Instant
  modifiedAt : Instant

/-- What a path leads to. -/
inductive Entry where
  | file (entry : FileEntry)
  | folder

/-- Names from the root down to an entry, each of them in UTF-8. -/
abbrev Trail := List String

/-- The files that the program finds. -/
structure Files where
  entries : List (Trail × Entry) := []
  /-- The folder that paths lead on from if they do not start at the root. -/
  working : Trail := []

/-! ## Paths -/

/-- A path as it is written: whether it starts at the root, and its names without empty ones and
single dots. -/
structure Path where
  /-- The slashes that the path starts with. -/
  root : String
  names : List String
deriving Repr, DecidableEq

namespace Path

/-- The slashes that a path starts with; exactly two mean something else than one. -/
def rootOf (cs : List Char) : String :=
  match (cs.takeWhile (· == '/')).length with
  | 0 => ""
  | 2 => "//"
  | _ => "/"

/-- Reads a path. -/
def ofString (s : String) : Path :=
  ⟨rootOf s.toList, (s.splitOn "/").filter fun name => name ≠ "" ∧ name ≠ "."⟩

/-- The path of a name below another path. -/
def child (path : Path) (name : String) : Path := ⟨path.root, path.names ++ [name]⟩

/-- The names of a path from the root on, if the path leads on from the given folder. -/
def trailFrom (path : Path) (working : Trail) : Trail :=
  if path.root.isEmpty then working ++ path.names else path.names

/-- The text of a path; the working folder is a single dot. -/
def toString (path : Path) : String :=
  if path.root.isEmpty && path.names.isEmpty then "."
  else path.root ++ "/".intercalate path.names

/-- The suffix of a file name in lower case: what follows the last dot, with that dot, unless the
dot is the first or last character. -/
def suffix (name : String) : String :=
  let (after, before) := name.toList.reverse.span (· ≠ '.')
  match before with
  | [] => ""
  | [_] => ""
  | _ => if after.isEmpty then "" else String.ofList (('.' :: after.reverse).map Text.toAsciiLower)

end Path

namespace Files

/-- What is known to be there. -/
def listed (files : Files) : List (Trail × Entry) := (files.working, .folder) :: files.entries

/-- Whether a trail leads to a folder. -/
def isFolder (files : Files) (trail : Trail) : Bool :=
  trail.isEmpty || files.listed.any fun (t, entry) =>
    match entry with
    | .folder => trail.isPrefixOf t
    | .file _ => trail.isPrefixOf t && trail.length < t.length

/-- The most bytes that a name may have. -/
def longestName : Nat := 255

/-- The most bytes that a path may have. -/
def longestPath : Nat := 4095

/-- The folder that names lead to, step by step from an entry.  A step up from the root leads to the
root. -/
def enter (files : Files) (trail : Trail) : List String → Except Defect (Option Trail)
  | [] => .ok (if files.isFolder trail then some trail else none)
  | name :: rest =>
    if !files.isFolder trail then .ok none
    else if name = ".." then enter files trail.dropLast rest
    else if longestName < name.utf8ByteSize then .error .pathTooLong
    else enter files (trail ++ [name]) rest

/-- The folder that a path leads to, if it is one.  No path has the character NUL in it. -/
def folder? (files : Files) (path : Path) : Except Defect (Option Trail) :=
  if path.toString.contains '\x00' then .ok none
  else if longestPath < path.toString.utf8ByteSize then .error .pathTooLong
  else files.enter (if path.root.isEmpty then files.working else []) path.names

/-- The names right below a folder, each once, in the order of their characters. -/
def names (files : Files) (trail : Trail) : List String :=
  let below := files.listed.filterMap fun (t, _) =>
    if trail.isPrefixOf t then (t.drop trail.length).head? else none
  below.eraseDups.mergeSort fun a b => decide (a ≤ b)

/-- What a trail leads to: a listed entry, or a folder that is implied by what it holds. -/
def entry? (files : Files) (trail : Trail) : Option Entry :=
  match List.lookup trail files.listed with
  | some entry => some entry
  | none => if files.isFolder trail then some .folder else none

end Files

/-! ## Text files -/

/-- Text with every line ending written as a line feed. -/
def unifyLineEndings : List Char → List Char
  | '\r' :: '\n' :: rest => '\n' :: unifyLineEndings rest
  | '\r' :: rest => '\n' :: unifyLineEndings rest
  | c :: rest => c :: unifyLineEndings rest
  | [] => []

/-- The text of a file. -/
def FileEntry.text (entry : FileEntry) : Except Defect String :=
  match String.fromUTF8? entry.bytes with
  | some s => .ok (String.ofList (unifyLineEndings s.toList))
  | none => .error .malformedText

end SearchGateway
