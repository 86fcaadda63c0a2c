/-
# Leaderboard.Json.Reader — from tokens to values

The reader goes through the tokens once with a stack of the containers that are still open. A
`Place` says what may come next. Containers may be nested `depthLimit` deep.

`read?` reads one value of any kind, `readObject?` one object; text after the value is a fault. The
first fault in the order of the text is the one that is reported.
-/
import Leaderboard.Json.Token

set_option autoImplicit false

namespace Leaderboard.Json

/-- A container that waits for a value: an array with the items so far, last first, or an object
with the members so far and the key of the value. -/
inductive Frame where
  | array (done : List Json)
  | object (done : List (String × Json)) (key : String)

/-- What may come next: a value; the first item of an array or its end; a comma or the end after
an item; the first key of an object or its end; a key; a colon; a comma or the end after a
member. -/
inductive Place where
  | value
  | firstItem
  | afterItem (done : List Json)
  | firstKey
  | key (done : List (String × Json))
  | colon (done : List (String × Json)) (key : String)
  | afterMember (done : List (String × Json))

/-- The reader between two tokens. -/
inductive Progress where
  | reading (place : Place) (stack : List Frame)
  | finished (v : Json)

/-- How deep containers may be nested. -/
def depthLimit : Nat := 127

/-- Hands a finished value to the innermost open container. -/
def deliver (v : Json) : List Frame → Progress
  | [] => .finished v
  | .array done :: stack => .reading (.afterItem (v :: done)) stack
  | .object done key :: stack => .reading (.afterMember (put done key v)) stack

/-- Opens a container inside the frames of the stack. -/
def enter (place : Place) (stack : List Frame) : Except Fault Progress :=
  if stack.length < depthLimit then .ok (.reading place stack) else .error .tooDeep

/-- Reads a token where a value must come. -/
def startValue (stack : List Frame) : Token → Except Fault Progress
  | .openArray => enter .firstItem stack
  | .openObject => enter .firstKey stack
  | .text s => .ok (deliver (.text s) stack)
  | .scalar v => .ok (deliver v stack)
  | .broken _ f => .error f
  | _ => .error .unexpected

/-- Reads a token where a key must come. -/
def startKey (done : List (String × Json)) (stack : List Frame) : Token → Except Fault Progress
  | .text s => .ok (.reading (.colon done s) stack)
  | .broken true f => .error f
  | _ => .error .unexpected

/-- One token. -/
def step (place : Place) (stack : List Frame) (t : Token) : Except Fault Progress :=
  match place, t with
  | .value, t => startValue stack t
  | .firstItem, .closeArray => .ok (deliver (.array []) stack)
  | .firstItem, t => startValue (.array [] :: stack) t
  | .afterItem done, .closeArray => .ok (deliver (.array done.reverse) stack)
  | .afterItem done, .comma => .ok (.reading .value (.array done :: stack))
  | .firstKey, .closeObject => .ok (deliver (.object []) stack)
  | .firstKey, t => startKey [] stack t
  | .key done, t => startKey done stack t
  | .colon done key, .colon => .ok (.reading .value (.object done key :: stack))
  | .afterMember done, .closeObject => .ok (deliver (.object done) stack)
  | .afterMember done, .comma => .ok (.reading (.key done) stack)
  | _, _ => .error .unexpected

/-- Reads one value and nothing after it. -/
def run : Progress → List Token → Except Fault Json
  | .finished v, [] => .ok v
  | .finished _, _ :: _ => .error .trailing
  | .reading _ _, [] => .error .ended
  | .reading place stack, t :: r =>
    match step place stack t with
    | .error f => .error f
    | .ok p => run p r

/-- The value that a run of bytes writes. -/
def read? (bs : List UInt8) : Except Fault Json := run (.reading .value []) (Token.sequence bs)

/-- The members of the object that the tokens write. A value of another kind is found out at its
first token. -/
def objectOfTokens? (ts : List Token) : Except Fault (List (String × Json)) :=
  match ts with
  | .openArray :: _ | .text _ :: _ | .scalar _ :: _ => .error .notObject
  | ts =>
    match run (.reading .value []) ts with
    | .error f => .error f
    | .ok (.object members) => .ok members
    | .ok _ => .error .notObject

/-- The members of the object that a run of bytes writes. -/
def readObject? (bs : List UInt8) : Except Fault (List (String × Json)) :=
  objectOfTokens? (Token.sequence bs)

end Leaderboard.Json
