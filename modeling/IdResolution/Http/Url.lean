import IdResolution.Host.Basic

/-!
# URLs of services

The reading of an absolute `http` or `https` URL as far as a request needs it: the
host and port to connect to, and the target to ask for.  A lenient spelling is
brought to its normal form: backslashes count as slashes, dot segments are removed,
and characters that a target cannot hold are escaped by percent signs.
-/

namespace IdResolution.Http

open Text

/-- An absolute URL as far as a request needs it. -/
structure Url where
  secure : Bool
  host : Host
  port : Nat
  /-- The path with the query, as it is asked for. -/
  target : String
  deriving DecidableEq, Repr

namespace Url

/-- Drop a character from both ends of a text, as often as it passes a test. -/
def stripEnds (drop : Char → Bool) (text : List Char) : List Char :=
  ((text.dropWhile drop).reverse.dropWhile drop).reverse

/-- Escape the bytes of a character. -/
def escape (c : Char) : List Char :=
  (utf8Bytes c).flatMap fun byte => ['%', hexDigit (byte / 16), hexDigit (byte % 16)]

/-- Escape a text except for the visible ASCII characters outside a given set. -/
def escapeSet (set : List Char) (text : List Char) : List Char :=
  text.flatMap fun c =>
    if 0x20 < c.toNat ∧ c.toNat < 0x7f ∧ c ∉ set then [c] else escape c

/-- What is escaped in a path. -/
def escapedInPath : List Char := ['"', '<', '>', '`', '#', '?', '{', '}']

/-- What is escaped in a query. -/
def escapedInQuery : List Char := ['"', '#', '<', '>', '\'']

/-- What is escaped in a fragment. -/
def escapedInFragment : List Char := ['"', '<', '>', '`']

/-- Both slashes part the segments of a path. -/
def isSlash (c : Char) : Bool :=
  c = '/' || c = '\\'

/-- The spellings of a segment that stays at its place. -/
def isDot (segment : List Char) : Bool :=
  segment.map lower ∈ [".", "%2e"].map String.toList

/-- The spellings of a segment that goes up by one. -/
def isDoubleDot (segment : List Char) : Bool :=
  segment.map lower ∈ ["..", ".%2e", "%2e.", "%2e%2e"].map String.toList

/-- Take in the segments of a path in turn; the segments kept stand with the last
first.  A dot segment at the end leaves an empty segment behind. -/
def normalize : List (List Char) → List (List Char) → List (List Char)
  | kept, [] => kept.reverse
  | kept, segment :: rest =>
      if isDoubleDot segment then
        normalize (if rest.isEmpty then [] :: kept.drop 1 else kept.drop 1) rest
      else if isDot segment then
        normalize (if rest.isEmpty then [] :: kept else kept) rest
      else
        normalize (escapeSet escapedInPath segment :: kept) rest

/-- The path that segments make. -/
def joinPath (segments : List (List Char)) : List Char :=
  if segments.isEmpty then ['/'] else segments.flatMap ('/' :: ·)

/-- The target of what follows the authority of a URL: its path and its query,
without its fragment. -/
def targetText (text : List Char) : List Char :=
  let beforeFragment := text.takeWhile (· ≠ '#')
  let path := beforeFragment.takeWhile (· ≠ '?')
  let query := beforeFragment.dropWhile (· ≠ '?')
  let relative := if path.head?.any isSlash then path.drop 1 else path
  joinPath (normalize [] (splitAt isSlash relative)) ++
    (match query with
     | [] => []
     | mark :: rest => mark :: escapeSet escapedInQuery rest)

/-- The fragment at the end of a URL, with its mark. -/
def fragmentText (text : List Char) : List Char :=
  match text.dropWhile (· ≠ '#') with
  | [] => []
  | mark :: rest => mark :: escapeSet escapedInFragment rest

/-- The port that a text writes; none written is the default. -/
def port? (default : Nat) (text : List Char) : Option Nat :=
  if text.isEmpty then
    some default
  else
    match numberIn? 10 text with
    | some port => if port < 65536 then some port else none
    | none => none

/-- The host and the port of an authority, without the user before its last `@`.
The colon before the port stands behind the brackets of an address, if there are
any. -/
def authority? (default : Nat) (text : List Char) : Option (Host × Nat) := do
  let location := (text.reverse.takeWhile (· ≠ '@')).reverse
  let bracketed :=
    if location.head? = some '[' then location.takeWhile (· ≠ ']') else []
  let outside := location.drop bracketed.length
  let host ← Host.parse? (bracketed ++ outside.takeWhile (· ≠ ':'))
  return (host, ← port? default ((outside.dropWhile (· ≠ ':')).drop 1))

/-- The schemes of services. -/
def scheme (secure : Bool) : String :=
  if secure then "https" else "http"

/-- The port of a scheme. -/
def defaultPort (secure : Bool) : Nat :=
  if secure then 443 else 80

/-- The most characters that the text of a URL may have. -/
def maxLength : Nat := 65534

/-- The text of a URL without its fragment. -/
def text (url : Url) : String :=
  scheme url.secure ++ "://" ++ url.host.text ++
    (if url.port = defaultPort url.secure then "" else ":" ++ toString url.port) ++ url.target

/-- Read a text as an absolute `http` or `https` URL. -/
def parse? (text : String) : Option Url := do
  let text := (stripEnds (·.toNat ≤ 0x20) text.toList).filter fun c =>
    c ≠ '\t' ∧ c ≠ '\n' ∧ c ≠ '\r'
  let secure ← match String.ofList ((text.takeWhile (· ≠ ':')).map lower) with
    | "http" => some false
    | "https" => some true
    | _ => none
  let rest ← match text.dropWhile (· ≠ ':') with
    | ':' :: rest => some (rest.dropWhile isSlash)
    | _ => none
  let endsAuthority := fun c => isSlash c || c = '?' || c = '#'
  let (host, port) ← authority? (defaultPort secure) (rest.takeWhile (!endsAuthority ·))
  let behind := rest.dropWhile (!endsAuthority ·)
  let url : Url := { secure, host, port, target := String.ofList (targetText behind) }
  if url.text.length + (fragmentText behind).length ≤ maxLength then some url else none

end Url

end IdResolution.Http
