import Provisioner.Text.Blank

/-!
# Addresses

An address is read from a text by the rules that browsers follow: blanks and control characters around it and
line ends inside it do not count, a backslash is a slash, dot segments are resolved, and characters that may
not stand in an address are percent-encoded. What is encoded already stays as it is. Only addresses of the
web have a host; any other text with a scheme is kept as it is.
-/
namespace Provisioner
open Text

/-- Why a text is no address. -/
inductive UrlError where
  | noScheme
  | noHost
  | invalidHost
  | invalidPort
  deriving DecidableEq, Repr

/-- The wording of a text that is no address. -/
def UrlError.message : UrlError → String
  | noScheme => "relative URL without a base"
  | noHost => "empty host"
  | invalidHost => "invalid international domain name"
  | invalidPort => "invalid port number"

/-- An address. -/
structure Url where
  scheme : List Char
  /-- The host, with a port that is not the usual one. -/
  host : Option (List Char)
  path : List Char
  query : Option (List Char) := none
  fragment : Option (List Char) := none
  deriving DecidableEq, Repr

namespace Url

/-- An address as text. -/
def text (url : Url) : List Char :=
  url.scheme ++ ':' :: (url.host.map fun host => '/' :: '/' :: host).getD [] ++ url.path ++
    (url.query.map ('?' :: ·)).getD [] ++ (url.fragment.map ('#' :: ·)).getD []

/-- What is asked of the host: the path and the query. -/
def target (url : Url) : List Char :=
  url.path ++ (url.query.map ('?' :: ·)).getD []

/-! ## Encoding -/

/-- A hexadecimal digit in upper case. -/
def upperHex (n : Nat) : Char :=
  if n < 10 then Char.ofNat ('0'.toNat + n) else Char.ofNat ('A'.toNat + (n - 10))

/-- The bytes of a character, percent-encoded. -/
def percentEncoded (c : Char) : List Char :=
  (String.utf8EncodeChar c).flatMap fun byte => ['%', upperHex (byte.toNat / 16), upperHex (byte.toNat % 16)]

/-- The text with some characters encoded, and all that are not printable ASCII. -/
def encoded (reserved : List Char) (cs : List Char) : List Char :=
  cs.flatMap fun c =>
    if c.toNat < 0x20 ∨ 0x7E < c.toNat ∨ c ∈ reserved then percentEncoded c else [c]

/-- The characters that are encoded in a path. -/
def reservedInPath : List Char := [' ', '"', '#', '<', '>', '?', '`', '\x7b', '\x7d']

/-- The characters that are encoded in a query. -/
def reservedInQuery : List Char := [' ', '"', '#', '<', '>', '\'']

/-- The characters that are encoded in a fragment. -/
def reservedInFragment : List Char := [' ', '"', '<', '>', '`']

/-! ## Paths -/

/-- The text in lower case. -/
def lower (cs : List Char) : List Char := cs.map Char.toLower

/-- A segment that stands for the place itself. -/
def isSingleDot (segment : List Char) : Bool :=
  [".", "%2e"].any fun dot => dot.toList = lower segment

/-- A segment that stands for the place above. -/
def isDoubleDot (segment : List Char) : Bool :=
  ["..", ".%2e", "%2e.", "%2e%2e"].any fun dots => dots.toList = lower segment

/-- Follows the segments of a path from a place, which is given with its last segment first. -/
def follow (place : List (List Char)) : List (List Char) → List (List Char)
  | [] => place
  | [last] =>
    if isDoubleDot last then [] :: place.tail
    else if isSingleDot last then [] :: place
    else encoded reservedInPath last :: place
  | segment :: rest =>
    if isDoubleDot segment then follow place.tail rest
    else if isSingleDot segment then follow place rest
    else follow (encoded reservedInPath segment :: place) rest

/-- A path with a slash before each segment. -/
def joinSegments (segments : List (List Char)) : List Char :=
  segments.flatMap ('/' :: ·)

/-- The path that a text spells after the host. -/
def resolvePath (cs : List Char) : List Char :=
  let cs := cs.map fun c => if c = '\\' then '/' else c
  let cs := if cs.head? = some '/' then cs.tail else cs
  joinSegments (follow [] (splitOn '/' cs)).reverse

/-! ## Hosts -/

/-- The schemes of the web and their usual ports. -/
def webSchemes : List (List Char × Nat) :=
  [("http".toList, 80), ("https".toList, 443), ("ws".toList, 80), ("wss".toList, 443), ("ftp".toList, 21)]

/-- The text after the last of a character, if there is one, else the whole text. -/
def afterLast (c : Char) (cs : List Char) : List Char :=
  (cs.reverse.takeWhile (· ≠ c)).reverse

/-- A host and what follows it; a host in brackets may have colons. -/
def splitPort (cs : List Char) : List Char × List Char :=
  match cs with
  | '[' :: _ =>
    let host := cs.takeWhile (· ≠ ']')
    (host ++ (cs.drop host.length).take 1, cs.drop (host.length + 1))
  | cs => (cs.takeWhile (· ≠ ':'), cs.dropWhile (· ≠ ':'))

/-- The characters that no host has. -/
def forbiddenInHost : List Char :=
  [' ', '"', '#', '%', '/', ':', '<', '>', '?', '@', '[', '\\', ']', '^', '`', '\x7b', '|', '\x7d']

/-- A host in lower case. -/
def readHost (cs : List Char) : Except UrlError (List Char) :=
  if cs.isEmpty then .error .noHost
  else if cs.head? = some '[' then .ok (lower cs)
  else if cs.any fun c => c.toNat < 0x20 || 0x7E < c.toNat || forbiddenInHost.contains c then .error .invalidHost
  else .ok (lower cs)

/-- A port that is not the usual one, with its colon. -/
def readPort (usual : Nat) : List Char → Except UrlError (List Char)
  | [] => .ok []
  | [':'] => .ok []
  | ':' :: digits =>
    if digits.all isDigit ∧ digitsValue digits ≤ 65535 then
      .ok (if digitsValue digits = usual then [] else ':' :: Nat.toDigits 10 (digitsValue digits))
    else .error .invalidPort
  | _ => .error .invalidPort

/-- The host of an address, without the credentials that may stand before it. -/
def readAuthority (usual : Nat) (cs : List Char) : Except UrlError (List Char) := do
  let (host, port) := splitPort (afterLast '@' cs)
  let host ← readHost host
  let port ← readPort usual port
  return host ++ port

/-! ## Reading -/

/-- A blank or a control character. -/
def isEdge (c : Char) : Bool := c.toNat ≤ 0x20

/-- The text without blanks and control characters at its ends, and without tabs and line ends. -/
def cleaned (cs : List Char) : List Char :=
  (((cs.dropWhile isEdge).reverse.dropWhile isEdge).reverse).filter fun c => c ≠ '\t' ∧ c ≠ '\n' ∧ c ≠ '\r'

/-- A character of a scheme. -/
def isSchemeCharacter (c : Char) : Bool :=
  c.isAlphanum || c == '+' || c == '-' || c == '.'

/-- The scheme of an address, and the text after its colon. -/
def splitScheme (cs : List Char) : Except UrlError (List Char × List Char) :=
  let scheme := cs.takeWhile isSchemeCharacter
  match scheme, cs.drop scheme.length with
  | first :: _, ':' :: rest => if first.isAlpha then .ok (lower scheme, rest) else .error .noScheme
  | _, _ => .error .noScheme

/-- A text before a character, and after it if it is there. -/
def splitAt (c : Char) (cs : List Char) : List Char × Option (List Char) :=
  match cs.dropWhile (· ≠ c) with
  | [] => (cs, none)
  | _ :: rest => (cs.takeWhile (· ≠ c), some rest)

/-- A slash of either kind. -/
def isSlash (c : Char) : Bool := c == '/' || c == '\\'

/-- The address that a text spells. -/
def parse (input : String) : Except UrlError Url := do
  let (scheme, rest) ← splitScheme (cleaned input.toList)
  let (rest, fragment) := splitAt '#' rest
  let (rest, query) := splitAt '?' rest
  let fragment := fragment.map (encoded reservedInFragment)
  let query := query.map (encoded reservedInQuery)
  match webSchemes.lookup scheme with
  | none => return { scheme, host := none, path := encoded [] rest, query, fragment }
  | some usual =>
    let rest := rest.dropWhile isSlash
    let host ← readAuthority usual (rest.takeWhile fun c => !isSlash c)
    return { scheme, host := some host, path := resolvePath (rest.dropWhile fun c => !isSlash c), query, fragment }

/-- The address with parameters added to its query. -/
def addQuery (url : Url) (parameters : List (String × String)) : Url :=
  let added := joined ['&'] (parameters.map fun (key, value) => key.toList ++ '=' :: value.toList)
  match url.query with
  | none => { url with query := some added }
  | some [] => { url with query := some added }
  | some query => { url with query := some (query ++ '&' :: added) }

end Url

end Provisioner
