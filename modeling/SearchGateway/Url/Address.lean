import SearchGateway.Text.Hex
import SearchGateway.Text.Digit

/-!
# Network addresses in text

Addresses of the two versions of the Internet protocol.  One of version 4 has four numbers below 256
with dots between them; one of version 6 has eight groups of hexadecimal digits with colons between
them, of which one run of zeros may be left out, and its last two groups may be an address of
version 4.
-/

set_option autoImplicit false

namespace SearchGateway.Url

/-! ## Version 4 -/

/-- Whether characters are a number below 256 without zeros in front. -/
def isOctet (cs : List Char) : Bool :=
  1 ≤ cs.length && cs.length ≤ 3 && cs.all Char.isDigit && (cs = ['0'] || cs.head? ≠ some '0')
    && cs.foldl (fun n c => 10 * n + (c.toNat - '0'.toNat)) 0 ≤ 255

/-- Whether a text is an address of version 4. -/
def isAddress4 (s : String) : Bool :=
  let parts := s.splitOn "."
  parts.length = 4 && parts.all fun part => isOctet part.toList

/-- Whether characters are digits with exactly so many other characters among them, no two of which
are neighbours; digits may pass for others. -/
def digitsAround : Nat → List Char → Bool
  | _, [] => false
  | others, [c] => others = 0 && c.isDigit
  | 0, c :: d :: rest => c.isDigit && digitsAround 0 (d :: rest)
  | others + 1, c :: d :: rest =>
    c.isDigit && (digitsAround (others + 1) (d :: rest) || digitsAround others rest)

/-- Whether a host has to be an address of version 4: four numbers with a character between any
two. -/
def looksLikeAddress4 (s : String) : Bool := digitsAround 3 s.toList

/-! ## Version 6 -/

/-- Whether a text is one to four hexadecimal digits. -/
def isGroup (s : String) : Bool :=
  let cs := s.toList
  1 ≤ cs.length && cs.length ≤ 4 && cs.all fun c => (Text.hexValue? c).isSome

/-- The groups of an address, where an address of version 4 at the end counts as two. -/
def groups? (s : String) : Option (List String) :=
  let parts := s.splitOn ":"
  match parts.getLast? with
  | some last =>
    if last.contains '.' then
      if isAddress4 last then some (parts.dropLast ++ ["0", "0"]) else none
    else some parts
  | none => none

/-- Whether the groups before a run of zeros and those after it leave room for one more.  An address
may begin or end with the run. -/
def isSplitAddress (before after : List String) : Bool :=
  let before := if before = [""] then [] else before
  let after := if after = [""] then [] else after
  before.length + after.length ≤ 7 && before.all isGroup && after.all isGroup

/-- Whether groups are an address.  An empty group in the middle stands for a run of zeros. -/
def isGroups (groups : List String) : Bool :=
  match groups with
  | first :: rest =>
    let middle := rest.dropLast
    match middle.idxOf? "" with
    | some i =>
      groups.length ≤ 9 && isSplitAddress (first :: middle.take i) (rest.drop (i + 1))
    | none => groups.length = 8 && groups.all isGroup
  | [] => false

/-- Whether a text is an address of version 6, perhaps with a zone behind a percent sign. -/
def isAddress6 (s : String) : Bool :=
  let (address, zone) := s.toList.span (· ≠ '%')
  let isZone := match zone with
    | [] => true
    | _ :: name => !name.isEmpty && !name.contains '%'
  isZone && 3 ≤ ((String.ofList address).splitOn ":").length
    && match groups? (String.ofList address) with
      | some groups => isGroups groups
      | none => false

end SearchGateway.Url
