import Provisioner.Http.Exchange

/-!
# Messages on the wire

A request as the bytes that are sent, and the reply that received bytes amount to. A connection serves one
exchange, so the answer ends where its header says, or with the connection.
-/
namespace Provisioner
namespace Http
open Text

/-- A text as bytes. -/
def bytesOf (text : String) : List UInt8 := text.toUTF8.toList

/-- A request as bytes. -/
def Request.bytes (request : Request) : List UInt8 :=
  let body := bytesOf (request.body.getD "")
  let length := if request.body.isSome then [("content-length", toString body.length)] else []
  let headers :=
    [("host", String.ofList (request.url.host.getD []))] ++ request.headers ++ length ++ [("connection", "close")]
  let lines := s!"{request.method.name} {String.ofList request.url.target} HTTP/1.1" ::
    headers.map fun (name, value) => name ++ ": " ++ value
  bytesOf (String.join (lines.map (· ++ "\r\n")) ++ "\r\n") ++ body

/-- The header of an answer. -/
structure Head where
  status : UInt16
  fields : List (String × String)
  deriving DecidableEq, Repr

/-- The bytes before the first line end, and those after it. -/
def splitLine : List UInt8 → Option (List UInt8 × List UInt8)
  | 13 :: 10 :: rest => some ([], rest)
  | byte :: rest => (splitLine rest).map fun (line, after) => (byte :: line, after)
  | [] => none

/-- A line has fewer bytes after it than there were. -/
theorem length_lt_of_splitLine {bytes line rest : List UInt8} (split : splitLine bytes = some (line, rest)) :
    rest.length < bytes.length := by
  fun_induction splitLine bytes generalizing line rest with
  | case1 => cases split; grind
  | case2 byte bytes _ ih =>
    obtain ⟨⟨l, r⟩, found, same⟩ := Option.map_eq_some_iff.1 split
    cases same
    have := ih found
    grind
  | case3 => cases split

/-- A line as text. -/
def lineText (line : List UInt8) : List Char := line.map fun byte => Char.ofNat byte.toNat

/-- The fields of a header up to the empty line, and the bytes after it. -/
def readFields (bytes : List UInt8) : Option (List (String × String) × List UInt8) :=
  match split : splitLine bytes with
  | none => none
  | some ([], rest) => some ([], rest)
  | some (line, rest) =>
    let name := (lineText line).takeWhile (· ≠ ':')
    let value := trim ((lineText line).drop (name.length + 1))
    have := length_lt_of_splitLine split
    (readFields rest).map fun (fields, after) =>
      ((String.ofList (Url.lower name), String.ofList value) :: fields, after)
termination_by bytes.length

/-- The header that bytes begin with, and the bytes after it. -/
def readHead (bytes : List UInt8) : Option (Head × List UInt8) := do
  let (line, rest) ← splitLine bytes
  match splitOn ' ' (lineText line) with
  | _ :: code :: _ =>
    let (fields, after) ← readFields rest
    if code.length = 3 ∧ code.all isDigit then
      return (⟨UInt16.ofNat (digitsValue code), fields⟩, after)
    else none
  | _ => none

/-- The number that hexadecimal digits spell. -/
def hexNumber? (cs : List Char) : Option Nat :=
  if cs.isEmpty then none else cs.foldlM (fun n c => (hexValue? c).map (n * 16 + ·)) 0

/-- The bytes of a body that comes in chunks, each with its size before it; `none` if it does not end. -/
def unchunked (bytes : List UInt8) : Option (List UInt8) :=
  match split : splitLine bytes with
  | none => none
  | some (line, rest) =>
    have := length_lt_of_splitLine split
    match hexNumber? (trim ((lineText line).takeWhile (· ≠ ';'))) with
    | none => none
    | some 0 => some []
    | some size =>
      if rest.length < size + 2 then none
      else (unchunked (rest.drop (size + 2))).map (rest.take size ++ ·)
termination_by bytes.length
decreasing_by grind

/-- The body of an answer; `none` if the connection ended before it. -/
def readBody (head : Head) (bytes : List UInt8) : Option (List UInt8) :=
  if (head.fields.lookup "transfer-encoding").map (Url.lower ·.toList) = some "chunked".toList then unchunked bytes
  else
    match head.fields.lookup "content-length" with
    | some length =>
      let size := digitsValue length.toList
      if bytes.length < size then none else some (bytes.take size)
    | none => some bytes

/-- A body as text. Where it is not valid, bytes beyond ASCII are replaced. -/
def bodyText (bytes : List UInt8) : String :=
  (String.fromUTF8? ⟨bytes.toArray⟩).getD
    (String.ofList (bytes.map fun byte => if byte < 128 then Char.ofNat byte.toNat else '\uFFFD'))

/-- The reply that the bytes of a whole connection amount to. -/
def Reply.ofBytes (bytes : List UInt8) : Reply :=
  match readHead bytes with
  | none => .dropped
  | some (head, rest) =>
    match readBody head rest with
    | none => .truncated
    | some body => .answered head.status (bodyText body)

end Http

end Provisioner
