import Provisioner.Json.Source
import Provisioner.Text.Blank

/-!
# Tokens of JSON text

A text is scanned character by character. The scanner stands between tokens, in a word, in a number or in a
string; a character moves it on, ends a token, or is a fault, which ends the scan. A number or string that
cannot be read but can be skipped is a token all the same.
-/
namespace Provisioner.Json
open Text

/-- A token, or the fault that ends the text. -/
inductive Token where
  | openBracket
  | closeBracket
  | openBrace
  | closeBrace
  | comma
  | colon
  /-- A scalar other than a string: its value, or what keeps it from being read. -/
  | scalar (value : Except SyntaxError Source)
  /-- A string: its value, or what keeps it from being read. -/
  | string (value : Except SyntaxError String)
  /-- No token begins or goes on here. -/
  | fault (fault : Fault)
  /-- The string that begins here does not end. -/
  | brokenString (fault : Fault)

/-! ## Numbers -/

/-- Where the scanner stands in a number. -/
inductive NumberPlace where
  | minus
  | zero
  | whole
  | point
  | fraction
  | mark
  | sign
  | exponent
  deriving DecidableEq

/-- A number as far as it was scanned; digits stand last first. -/
structure NumberScan where
  negative : Bool
  place : NumberPlace
  whole : List Char := []
  fraction : List Char := []
  /-- The text has a point or an exponent. -/
  broken : Bool := false
  shrinks : Bool := false
  exponent : List Char := []

namespace NumberScan

/-- The largest integer that is kept as one. -/
def greatest : Nat := UInt64.size - 1

/-- Digits taken on as long as the number stays below `2 ^ 64`, and the count of those left over once the
first did not fit. -/
def take : List Char → (taken : Nat) → (left : Nat) → Nat × Nat
  | [], taken, left => (taken, left)
  | c :: cs, taken, left =>
    let next := taken * 10 + digitValue c
    if left = 0 ∧ next ≤ greatest then take cs next left else take cs taken (left + 1)

/-- A decimal as a double, where its magnitude is in range. -/
def double (negative : Bool) (digits : Nat) (power : Int) : Except SyntaxError Source :=
  match Magnitude.ofDecimal digits power with
  | some magnitude => .ok (.number (.double ⟨negative, magnitude⟩))
  | none => .error .numberOutOfRange

/-- The value of a number. Digits of the fraction that no longer fit are dropped. -/
def value (scan : NumberScan) : Except SyntaxError Source :=
  let (digits, dropped) := take scan.whole.reverse 0 0
  let (digits, unread) := take scan.fraction.reverse digits 0
  let power : Int := dropped - (scan.fraction.length - unread : Nat)
  let exponent := digitsValue scan.exponent.reverse
  if ¬ scan.broken ∧ dropped = 0 ∧ (¬ scan.negative ∨ (0 < digits ∧ digits ≤ Nat.pow 2 63)) then
    .ok (.number (.integer (if scan.negative then -digits else digits)))
  else if Nat.pow 2 31 ≤ exponent then
    if digits ≠ 0 ∧ ¬ scan.shrinks then .error .numberOutOfRange else double scan.negative 0 0
  else
    double scan.negative digits (if scan.shrinks then power - exponent else power + exponent)

/-- The number goes on with a character, or `none` where it ends before it. -/
def next? (scan : NumberScan) (c : Char) : Option NumberScan :=
  match scan.place with
  | .minus =>
    if c = '0' then some { scan with place := .zero }
    else if isDigit c then some { scan with place := .whole, whole := [c] } else none
  | .zero =>
    if c = '.' then some { scan with place := .point, broken := true }
    else if c = 'e' ∨ c = 'E' then some { scan with place := .mark, broken := true } else none
  | .whole =>
    if isDigit c then some { scan with whole := c :: scan.whole }
    else if c = '.' then some { scan with place := .point, broken := true }
    else if c = 'e' ∨ c = 'E' then some { scan with place := .mark, broken := true } else none
  | .point => if isDigit c then some { scan with place := .fraction, fraction := [c] } else none
  | .fraction =>
    if isDigit c then some { scan with fraction := c :: scan.fraction }
    else if c = 'e' ∨ c = 'E' then some { scan with place := .mark } else none
  | .mark =>
    if c = '+' then some { scan with place := .sign }
    else if c = '-' then some { scan with place := .sign, shrinks := true }
    else if isDigit c then some { scan with place := .exponent, exponent := [c] } else none
  | .sign => if isDigit c then some { scan with place := .exponent, exponent := [c] } else none
  | .exponent => if isDigit c then some { scan with exponent := c :: scan.exponent } else none

/-- The number may end where it stands. -/
def mayEnd (scan : NumberScan) : Bool :=
  match scan.place with
  | .zero | .whole | .fraction | .exponent => true
  | _ => false

/-- The token of a number that ends before a character. A zero is the only digit before the point. -/
def token (scan : NumberScan) (after : Char) : Token :=
  if scan.mayEnd ∧ ¬ (scan.place = .zero ∧ isDigit after) then .scalar scan.value
  else .fault (.hard .invalidNumber)

/-- The token of a number at the end of the text. -/
def lastToken (scan : NumberScan) : Token :=
  if scan.mayEnd then .scalar scan.value else .fault ⟨.endOfValue, some .invalidNumber⟩

end NumberScan

/-! ## Strings -/

/-- Where the scanner stands in a string. -/
inductive StringPlace where
  | plain
  | backslash
  /-- After `\u`, with the characters since, last first. -/
  | code (seen : List Char)

/-- A string as far as it was scanned: its characters, last first, or the first thing that keeps it from
being read; and half of a surrogate pair that waits for the other half. -/
structure StringScan where
  read : Except SyntaxError (List Char)
  place : StringPlace
  half : Option Nat

/-- What a character makes of a string. -/
inductive StringStep where
  | inside (scan : StringScan)
  | closed
  | fault (fault : Fault)

namespace StringScan

/-- The start of a string. -/
def start : StringScan := ⟨.ok [], .plain, none⟩

/-- A character more, and the scanner stands in plain text again. -/
def push (scan : StringScan) (c : Char) : StringScan :=
  { read := scan.read.map (c :: ·), place := .plain, half := none }

/-- The string cannot be read any more; the first reason counts. -/
def spoil (scan : StringScan) (error : SyntaxError) : StringScan :=
  { scan with read := scan.read.bind fun _ => .error error, half := none }

/-- A half that the text leaves without the other spoils the string. -/
def unpaired (scan : StringScan) : StringScan :=
  if scan.half.isSome then scan.spoil .unfinishedSurrogate else scan

/-- The character of a one-letter escape. -/
def escape? : Char → Option Char
  | '"' => some '"'
  | '\\' => some '\\'
  | '/' => some '/'
  | 'b' => some '\x08'
  | 'f' => some '\x0c'
  | 'n' => some '\n'
  | 'r' => some '\r'
  | 't' => some '\t'
  | _ => none

/-- The number that four hexadecimal digits spell. -/
def code? (digits : List Char) : Option Nat :=
  if digits.length = 4 then digits.foldlM (fun n c => (hexValue? c).map (n * 16 + ·)) 0 else none

/-- The string goes on with the UTF-16 unit of an escape. -/
def unit (scan : StringScan) (n : Nat) : StringScan :=
  let scan := { scan with place := .plain }
  let isSecond : Bool := 0xDC00 ≤ n && n ≤ 0xDFFF
  match scan.half with
  | some first =>
    if isSecond then scan.push (Char.ofNat ((first - 0xD800) * 0x400 + (n - 0xDC00) + 0x10000))
    else scan.spoil .loneSurrogate
  | none =>
    if isSecond then scan.spoil .loneSurrogate
    else if 0xD800 ≤ n ∧ n ≤ 0xDBFF then { scan with half := some n }
    else scan.push (Char.ofNat n)

/-- A fault in a string: the reader may have stopped earlier. -/
def faultAt (scan : StringScan) (error : SyntaxError) : Fault :=
  match scan.read with
  | .ok _ => .hard error
  | .error earlier => ⟨earlier, some error⟩

/-- One character of a string. An escape takes the next four bytes for its digits, whatever they are. -/
def next (scan : StringScan) (c : Char) : StringStep :=
  match scan.place with
  | .plain =>
    if c = '\\' then .inside { scan with place := .backslash }
    else
      let scan := scan.unpaired
      if c = '"' then .closed
      else if c.toNat < 0x20 then .fault (scan.faultAt .controlCharacter)
      else .inside (scan.push c)
  | .backslash =>
    if c = 'u' then .inside { scan with place := .code [] }
    else
      match escape? c with
      | some e => .inside (scan.unpaired.push e)
      | none => .fault (scan.unpaired.faultAt .invalidEscape)
  | .code seen =>
    let seen := c :: seen
    if (String.ofList seen).utf8ByteSize < 4 then .inside { scan with place := .code seen }
    else
      match code? seen.reverse with
      | some n => .inside (scan.unit n)
      | none => .fault (scan.faultAt .invalidEscape)

/-- The value of a string that ends here. -/
def value (scan : StringScan) : Except SyntaxError String :=
  scan.unpaired.read.map fun cs => String.ofList cs.reverse

end StringScan

/-! ## The scanner -/

/-- Where the scanner stands. -/
inductive Place where
  | between
  /-- In a word, with its letters still to come and its value. -/
  | word (rest : List Char) (value : Source)
  | number (scan : NumberScan)
  | string (scan : StringScan)

/-- The tokens that a character ends, and where it leaves the scanner: nowhere after a fault. -/
structure Step where
  tokens : List Token
  place : Option Place

/-- A character that begins a token, or a blank. -/
def begin (c : Char) : Step :=
  match c with
  | ' ' | '\t' | '\n' | '\r' => ⟨[], some .between⟩
  | '[' => ⟨[.openBracket], some .between⟩
  | ']' => ⟨[.closeBracket], some .between⟩
  | '\x7b' => ⟨[.openBrace], some .between⟩
  | '\x7d' => ⟨[.closeBrace], some .between⟩
  | ',' => ⟨[.comma], some .between⟩
  | ':' => ⟨[.colon], some .between⟩
  | '"' => ⟨[], some (.string .start)⟩
  | 'n' => ⟨[], some (.word ['u', 'l', 'l'] .null)⟩
  | 't' => ⟨[], some (.word ['r', 'u', 'e'] (.bool true))⟩
  | 'f' => ⟨[], some (.word ['a', 'l', 's', 'e'] (.bool false))⟩
  | '-' => ⟨[], some (.number { negative := true, place := .minus })⟩
  | c =>
    match NumberScan.next? { negative := false, place := .minus } c with
    | some scan => ⟨[], some (.number scan)⟩
    | none => ⟨[.fault (.hard .expectedValue)], none⟩

/-- One character of the text. The character after a number begins the next token. -/
def step (place : Place) (c : Char) : Step :=
  match place with
  | .between => begin c
  | .word [] _ => ⟨[.fault (.hard .expectedLiteral)], none⟩
  | .word [letter] value =>
    if c = letter then ⟨[.scalar (.ok value)], some .between⟩ else ⟨[.fault (.hard .expectedLiteral)], none⟩
  | .word (letter :: rest) value =>
    if c = letter then ⟨[], some (.word rest value)⟩ else ⟨[.fault (.hard .expectedLiteral)], none⟩
  | .number scan =>
    match scan.next? c with
    | some scan => ⟨[], some (.number scan)⟩
    | none =>
      match scan.token c with
      | .scalar value =>
        let after := begin c
        ⟨.scalar value :: after.tokens, after.place⟩
      | token => ⟨[token], none⟩
  | .string scan =>
    match scan.next c with
    | .inside scan => ⟨[], some (.string scan)⟩
    | .closed => ⟨[.string scan.value], some .between⟩
    | .fault fault => ⟨[.brokenString fault], none⟩

/-- The end of the text. -/
def ending : Place → List Token
  | .between => []
  | .word _ _ => [.fault (.hard .endOfValue)]
  | .number scan => [scan.lastToken]
  | .string scan => [.brokenString (scan.faultAt .endOfString)]

/-- The tokens of a text from a place on. -/
def tokensFrom : Place → List Char → List Token
  | place, [] => ending place
  | place, c :: cs =>
    let step := step place c
    match step.place with
    | some place => step.tokens ++ tokensFrom place cs
    | none => step.tokens

/-- The tokens of a text; a fault can only be the last. -/
def tokens (cs : List Char) : List Token :=
  tokensFrom .between cs

end Provisioner.Json
