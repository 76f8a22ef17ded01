import SearchGateway.Text.Case
import SearchGateway.Text.Numeral
import SearchGateway.Url.Address
import SearchGateway.Url.Label
import SearchGateway.Url.Percent

/-!
# URLs

Where a request is sent.  A URL is read leniently and written in one way only: the scheme and the
name of the host are in lower case, the name is in ASCII, the usual port of the scheme is left out,
steps up and down are taken out of the path, and characters that do not stand for themselves are
percent-encoded.
-/

set_option autoImplicit false

namespace SearchGateway

/-- A URL in its parts; parts that are absent are empty texts, or nothing where that makes a
difference. -/
structure Url where
  scheme : String
  /-- What comes before the host. -/
  user : String
  host : String
  port : Option Int
  path : String
  query : Option String
  fragment : Option String
deriving Repr, DecidableEq

namespace Url

/-! ## Writing -/

/-- The part of a URL that names the partner. -/
def authority (url : Url) : String :=
  (if url.user.isEmpty then "" else url.user ++ "@")
    ++ (if url.host.contains ':' then "[" ++ url.host ++ "]" else url.host)
    ++ (url.port.map fun n => ":" ++ toString n).getD ""

/-- A URL as it is written. -/
def toString (url : Url) : String :=
  (if url.scheme.isEmpty then "" else url.scheme ++ ":")
    ++ (if url.authority.isEmpty then "" else "//" ++ url.authority)
    ++ url.path ++ (url.query.map ("?" ++ ·)).getD "" ++ (url.fragment.map ("#" ++ ·)).getD ""

/-! ## Hosts and ports -/

/-- The host of a text: an address, or a name. -/
def host? (s : String) : Option String :=
  let cs := s.toList
  if looksLikeAddress4 s then if isAddress4 s then some s else none
  else if cs.head? = some '[' ∧ cs.getLast? = some ']' then
    let address := String.ofList (cs.drop 1).dropLast
    if isAddress6 address then some address else none
  else if cs.all Punycode.isBasic then
    some (String.ofList (encode isHostChar (cs.map Char.toLower)))
  else (sentName? (Text.lower cs)).map String.ofList

/-- The port that a scheme has if no other is named. -/
def usualPort? : String → Option Int
  | "ftp" => some 21
  | "http" | "ws" => some 80
  | "https" | "wss" => some 443
  | _ => none

/-- The port of a text, if it is not the usual one of the scheme. -/
def port? (scheme text : String) : Option (Option Int) :=
  if text.isEmpty then some none
  else (Numeral.integer? text).map fun n => if usualPort? scheme = some n then none else some n

/-- What stands before the host, the host and the port of an authority, as they are written. -/
def splitAuthority (cs : List Char) : List Char × List Char × List Char :=
  let behind := (cs.reverse.takeWhile (· ≠ '@')).reverse
  let user := (cs.take (cs.length - behind.length)).dropLast
  let bracketed := (behind.reverse.dropWhile (· ≠ ']')).reverse
  let host :=
    if behind.head? = some '[' ∧ !bracketed.isEmpty then bracketed else behind.takeWhile (· ≠ ':')
  let port := match behind.drop host.length with
    | ':' :: port => port
    | port => port
  (user, host, port)

/-! ## Paths -/

/-- Takes a step along a path, of which the steps so far are given last first. -/
def step (steps : List String) (name : String) : List String :=
  if name = "." then steps
  else if name = ".." then if steps = [""] then steps else steps.drop 1
  else name :: steps

/-- A path without steps up and down. -/
def direct (path : String) : String :=
  let names := path.splitOn "/"
  if names.contains "." || names.contains ".." then "/".intercalate (names.foldl step []).reverse
  else path

/-! ## Reading -/

/-- The most characters of a URL. -/
def longest : Nat := 65536

/-- The scheme of a URL, and what follows it. -/
def splitScheme (cs : List Char) : List Char × List Char :=
  let isScheme (c : Char) : Bool := c.isAlphanum || c ∈ ['+', '.', '-']
  let scheme := cs.takeWhile isScheme
  match scheme.head?.any (!·.isAlpha), cs.dropWhile isScheme with
  | false, ':' :: rest => (scheme, rest)
  | _, _ => ([], cs)

/-- What follows a mark up to one of several others, if the mark is there, and what follows that. -/
def splitMarked (mark : List Char) (ends : List Char) (cs : List Char) :
    Option (List Char) × List Char :=
  if mark.isPrefixOf cs then
    let (marked, rest) := (cs.drop mark.length).span fun c => c ∉ ends
    (some marked, rest)
  else (none, cs)

/-- The characters of a part as it is written. -/
def encoded (stands : Char → Bool) (cs : List Char) : String := String.ofList (encode stands cs)

/-- Reads a URL. -/
def ofString? (s : String) : Option Url := do
  let cs := s.toList
  if longest < cs.length ∨ cs.any fun c => c.toNat < 0x20 ∨ c.toNat = 0x7f then none
  let (scheme, rest) := splitScheme cs
  let (authority, rest) := splitMarked ['/', '/'] ['/', '?', '#'] rest
  let (path, rest) := rest.span fun c => c ∉ ['?', '#']
  let (query, rest) := splitMarked ['?'] ['#'] rest
  let (fragment, _) := splitMarked ['#'] [] rest
  let (user, host, port) := splitAuthority (authority.getD [])
  let host ← host? (String.ofList host)
  let port ← port? (String.ofList scheme) (String.ofList port)
  let isBare := scheme.isEmpty && user.isEmpty && host.isEmpty && port.isNone
  if isBare && (['/', '/'].isPrefixOf path || [':'].isPrefixOf path) then none
  let path := if isBare then path else (direct (String.ofList path)).toList
  return {
    scheme := String.ofList (scheme.map Char.toLower)
    user := encoded isUserChar user
    host := host
    port := port
    path := encoded isPathChar path
    query := query.map (encoded isQueryChar)
    fragment := fragment.map (encoded isFragmentChar) }

/-- Whether a URL says by itself where it leads. -/
def isAbsolute (url : Url) : Bool := !url.scheme.isEmpty && !url.host.isEmpty

/-- A URL as a request is sent to it.  One that does not say where it leads keeps nothing but the
path, from the top, and the query. -/
def target (url : Url) : Url :=
  if url.isAbsolute then url
  else {
    scheme := "", user := "", host := "", port := none
    path := "/" ++ String.ofList (url.path.toList.dropWhile (· = '/'))
    query := url.query
    fragment := none }

end Url

end SearchGateway
