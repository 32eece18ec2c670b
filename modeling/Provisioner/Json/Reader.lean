import Provisioner.Json.Token

/-!
# Reading JSON text

The tokens of a text are put together from left to right, with the containers that are still open on a
stack. A fault closes them all: it lies in the innermost, and each of the others ends with the one inside
it. Nesting is limited to 127 levels; a container below is read no further but may be skipped.
-/
namespace Provisioner.Json

/-- How deep containers may nest. -/
def greatestDepth : Nat := 127

/-- The contents of an open container, last first; the fields of an object are followed by the key whose
value comes next. -/
inductive Contents where
  | items (items : List Source)
  | fields (fields : List (String × Source)) (key : String)

/-- An open container. Behind a barrier, nothing of it is read. -/
structure Frame where
  contents : Contents
  barrier : Option SyntaxError

namespace Frame

/-- A value more in a container. -/
def add (frame : Frame) (value : Source) : Frame :=
  if frame.barrier.isSome then frame
  else
    match frame.contents with
    | .items items => { frame with contents := .items (value :: items) }
    | .fields fields key => { frame with contents := .fields ((key, value) :: fields) key }

/-- The container with what it holds so far and the fault that ends it. -/
def close (frame : Frame) (fault : Option Fault) : Source :=
  match frame.contents with
  | .items items => .array items.reverse fault
  | .fields fields _ => .object fields.reverse fault

/-- The container at its closing bracket. -/
def complete (frame : Frame) : Source :=
  frame.close (frame.barrier.map fun error => ⟨error, none⟩)

/-- The container that a fault ends. -/
def cut (frame : Frame) (fault : Fault) : Source :=
  frame.close (some { fault with whenRead := frame.barrier.getD fault.whenRead })

/-- The container around a value that a fault ends. -/
def wrap (frame : Frame) (fault : Fault) (value : Source) : Source :=
  match frame.barrier with
  | some error => frame.close (some { fault with whenRead := error })
  | none => (frame.add value).close none

/-- The next field has a key, or something that keeps the key from being read. -/
def addKey (frame : Frame) (key : Except SyntaxError String) : Frame :=
  match frame.contents, key with
  | .fields fields _, .ok key => { frame with contents := .fields fields key }
  | .fields _ _, .error error => { frame with barrier := frame.barrier.or (some error) }
  | .items _, _ => frame

end Frame

/-- What may come next. -/
inductive Expected where
  /-- A value, at the top or after a colon. -/
  | value
  /-- A value or the closing bracket. -/
  | firstItem
  /-- A value after a comma. -/
  | nextItem
  /-- A key or the closing brace. -/
  | firstKey
  /-- A key after a comma. -/
  | nextKey
  | colon
  /-- A comma or the end of an array. -/
  | afterItem
  /-- A comma or the end of an object. -/
  | afterField

/-- A text as a source, and whether something follows the first value. -/
structure Read where
  root : Source
  trails : Bool

/-- The containers around a value that a fault ends. -/
def unwind (frames : List Frame) (fault : Fault) (value : Source) : Read :=
  ⟨frames.foldl (fun value frame => frame.wrap fault value) value, false⟩

/-- A fault where a value stands or should stand. -/
def faultInValue (frames : List Frame) (fault : Fault) : Read :=
  unwind frames fault (.faulty fault)

/-- A fault between the values of the innermost container. -/
def faultBetween (frames : List Frame) (fault : Fault) : Read :=
  match frames with
  | [] => ⟨.faulty fault, false⟩
  | frame :: frames => unwind frames fault (frame.cut fault)

/-- The end of the text. -/
def atEnd (frames : List Frame) : Expected → Read
  | .value | .nextItem => faultInValue frames (.hard .endOfValue)
  | .firstItem | .afterItem => faultBetween frames (.hard .endOfList)
  | .firstKey | .afterField => faultBetween frames (.hard .endOfObject)
  | .nextKey => faultBetween frames ⟨.endOfValue, some .endOfObject⟩
  | .colon => faultInValue frames (.hard .endOfObject)

/-- An open container at a depth. -/
def Frame.opened (depth : Nat) (contents : Contents) : Frame :=
  ⟨contents, if greatestDepth < depth then some .nestingTooDeep else none⟩

/-- What comes after a value in the innermost container; at the top, nothing. -/
def afterValue : List Frame → Option Expected
  | [] => none
  | frame :: _ =>
    match frame.contents with
    | .items _ => some .afterItem
    | .fields _ _ => some .afterField

/-- What a token does to the reader: the text goes on, or the reader is done. -/
inductive Move where
  | next (frames : List Frame) (expected : Expected)
  | complete (root : Source)
  | fault (read : Read)

/-- A value is complete. -/
def put (frames : List Frame) (value : Source) : Move :=
  match frames with
  | [] => .complete value
  | frame :: frames =>
    let frames := frame.add value :: frames
    match afterValue frames with
    | some expected => .next frames expected
    | none => .complete value

/-- The innermost container is complete. -/
def closeFrame (frames : List Frame) : Move :=
  match frames with
  | [] => .fault (faultInValue [] (.hard .expectedValue))
  | frame :: frames => put frames frame.complete

/-- A token where a value should begin. -/
def beginValue (frames : List Frame) (token : Token) : Move :=
  let unexpected := Move.fault (faultInValue frames (.hard .expectedValue))
  match token with
  | .openBracket => .next (.opened (frames.length + 1) (.items []) :: frames) .firstItem
  | .openBrace => .next (.opened (frames.length + 1) (.fields [] "") :: frames) .firstKey
  | .scalar (.ok value) => put frames value
  | .scalar (.error error) => put frames (.faulty ⟨error, none⟩)
  | .string (.ok value) => put frames (.string value)
  | .string (.error error) => put frames (.faulty ⟨error, none⟩)
  | .fault fault => .fault (faultInValue frames fault)
  | .brokenString fault => .fault (faultInValue frames fault)
  | .closeBracket | .closeBrace | .comma | .colon => unexpected

/-- A token where a key should begin. -/
def beginKey (frames : List Frame) (token : Token) (otherwise : Fault) : Move :=
  match frames, token with
  | frame :: frames, .string key => .next (frame.addKey key :: frames) .colon
  | frames, .brokenString fault => .fault (faultBetween frames fault)
  | frames, _ => .fault (faultBetween frames otherwise)

/-- What a token does. -/
def move (frames : List Frame) (expected : Expected) (token : Token) : Move :=
  match expected, token with
  | .firstItem, .closeBracket => closeFrame frames
  | .nextItem, .closeBracket => .fault (faultBetween frames ⟨.trailingComma, some .expectedValue⟩)
  | .value, token | .firstItem, token | .nextItem, token => beginValue frames token
  | .firstKey, .closeBrace => closeFrame frames
  | .nextKey, .closeBrace => .fault (faultBetween frames ⟨.trailingComma, some .keyNotString⟩)
  | .firstKey, token | .nextKey, token => beginKey frames token (.hard .keyNotString)
  | .colon, .colon => .next frames .value
  | .colon, _ => .fault (faultInValue frames (.hard .expectedColon))
  | .afterItem, .comma => .next frames .nextItem
  | .afterItem, .closeBracket => closeFrame frames
  | .afterItem, _ => .fault (faultBetween frames (.hard .expectedCommaOrBracket))
  | .afterField, .comma => .next frames .nextKey
  | .afterField, .closeBrace => closeFrame frames
  | .afterField, _ => .fault (faultBetween frames (.hard .expectedCommaOrBrace))

/-- The value at the head of a list of tokens. -/
def readTokens (frames : List Frame) (expected : Expected) : List Token → Read
  | [] => atEnd frames expected
  | token :: tokens =>
    match move frames expected token with
    | .next frames expected => readTokens frames expected tokens
    | .complete root => ⟨root, !tokens.isEmpty⟩
    | .fault read => read

/-- The value at the head of a text. -/
def readText (text : String) : Read :=
  readTokens [] .value (tokens text.toList)

/-- A text that holds one document. -/
def ofText (text : String) : Except SyntaxError Json := do
  let read := readText text
  let value ← read.root.toJson
  if read.trails then .error .trailingCharacters else .ok value

end Provisioner.Json
