import SearchGateway.Text.Composition
import SearchGateway.Text.Direction
import SearchGateway.Text.Joining
import SearchGateway.Text.Script
import SearchGateway.Url.LabelChars
import SearchGateway.Url.Punycode

/-!
# Labels of international names

A label is what stands between the dots of a name.  One with characters beyond ASCII has to be in
composed form, may have only certain characters, some of them only in the company of certain others,
and must not mix directions of writing.  It is sent in letters and digits, behind a mark of four
characters.
-/

set_option autoImplicit false

namespace SearchGateway.Url

/-! ## Hyphens and company -/

/-- Whether hyphens stand only where a label may have them: neither at its ends nor in both its
third and its fourth place. -/
def hasHyphensInside (cs : List Char) : Bool :=
  cs.head? ≠ some '-' && cs.getLast? ≠ some '-' && (cs.drop 2).take 2 ≠ ['-', '-']

/-- Whether a character that would join letters, or keep them from joining, does so: the characters
before it are given last first. -/
def joins (c : Char) (before after : List Char) : Bool :=
  let hasVirama := match before with
    | last :: _ => Text.combiningClass last = 9
    | [] => false
  hasVirama || (c = '\u200c' && Text.joinsNext before && Text.joinsPrevious after)

/-- Whether a character is one of the ten digits that start at a code point. -/
def isDigitFrom (start : Nat) (c : Char) : Bool := start ≤ c.toNat && c.toNat ≤ start + 9

/-- Whether a character may stand in its company: the characters before it, the last of them first,
and those after it. -/
def isInCompany (c : Char) (before after : List Char) : Bool :=
  if c = '\u200c' ∨ c = '\u200d' then joins c before after
  else if c = '\u00b7' then before.head? = some 'l' && after.head? = some 'l'
  else if c = '\u0375' then after.head?.any (Text.inRuns Text.greekRuns)
  else if c = '\u05f3' ∨ c = '\u05f4' then before.head?.any (Text.inRuns Text.hebrewRuns)
  else if c = '\u30fb' then
    (before ++ after).any fun d => d ≠ c && Text.inRuns Text.japaneseRuns d
  else if isDigitFrom 0x660 c then !(before ++ after).any (isDigitFrom 0x6f0)
  else if isDigitFrom 0x6f0 c then !(before ++ after).any (isDigitFrom 0x660)
  else true

/-- Whether all characters are allowed in their company, behind those that are given last first. -/
def areAllowed : List Char → List Char → Bool
  | _, [] => true
  | before, c :: rest => isLabelChar c && isInCompany c before rest && areAllowed (c :: before) rest

/-! ## Directions -/

/-- Whether directions are those of one label.  A label with characters that are written right to
left has to start with one of them and may not have any that are written left to right, and the
other way round; it has to end with a letter or a digit, marks apart, and has one kind of digits. -/
def isOneWay (directions : List Text.Direction) : Bool :=
  if !directions.any (· ∈ [.rightToLeft, .arabicDigit]) then true
  else match directions.head?, (directions.reverse.dropWhile (· = .mark)).head? with
    | some .rightToLeft, some last =>
      !directions.contains .leftToRight && last ≠ .neutral
        && !(directions.contains .digit && directions.contains .arabicDigit)
    | _, _ => false

/-! ## Labels -/

/-- Whether a label follows the rules. -/
def isLabel (cs : List Char) : Bool :=
  match cs with
  | [] => false
  | first :: _ =>
    Text.composed cs = cs && hasHyphensInside cs && !Text.isMark first && areAllowed [] cs
      && isOneWay (cs.map Text.direction)

/-- What labels start with that stand for others. -/
def labelMark : List Char := "xn--".toList

/-- Whether a label of ASCII follows the rules, or stands for one that does. -/
def isAsciiLabel (cs : List Char) : Bool :=
  if labelMark.isPrefixOf cs then
    let code := cs.drop 4
    !code.isEmpty && code.getLast? ≠ some '-' && (Punycode.decode? code).any isLabel
  else isLabel cs

/-- A label as it is sent. -/
def sentLabel? (cs : List Char) : Option (List Char) :=
  let sent :=
    if cs.all Punycode.isBasic then if isAsciiLabel cs then some cs else none
    else if isLabel cs then some (labelMark ++ Punycode.encode cs) else none
  sent.filter (·.length ≤ 63)

/-! ## Names -/

/-- Whether a character ends a label: the dot and its relatives in other scripts. -/
def isDot (c : Char) : Bool := c ∈ ['.', '\u3002', '\uff0e', '\uff61']

/-- A text in its parts between dots. -/
def labels : List Char → List (List Char)
  | [] => [[]]
  | c :: rest =>
    if isDot c then [] :: labels rest
    else match labels rest with
      | first :: more => (c :: first) :: more
      | [] => [[c]]

/-- A name as it is sent; one dot may end it. -/
def sentName? (cs : List Char) : Option (List Char) := do
  let parts := labels cs
  let isRooted := parts.getLast? = some [] && parts ≠ [[]]
  let sent ← (if isRooted then parts.dropLast else parts).mapM sentLabel?
  let name := ['.'].intercalate sent ++ (if isRooted then ['.'] else [])
  if name.length ≤ (if isRooted then 254 else 253) then some name else none

end SearchGateway.Url
