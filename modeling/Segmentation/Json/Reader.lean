import Segmentation.Json
import Segmentation.Json.Token

/-!
# Reading JSON

A document is built from the tokens of a text. Of several members with one name the last value counts.
-/

namespace Segmentation.Json

/-- Why text is no document. -/
inductive Fault where
  | invalid
  | numberTooLong
  | nestedTooDeep
deriving DecidableEq

mutual

/-- Reads one value of at most `fuel` nested steps. -/
def valueFrom : (fuel : Nat) → List Token → Except Fault (Json × List Token)
  | 0, _ => .error .invalid
  | fuel + 1, tokens =>
    match tokens with
    | .null :: rest => .ok (null, rest)
    | .bool b :: rest => .ok (bool b, rest)
    | .int n :: rest => .ok (int n, rest)
    | .float x :: rest => .ok (float x, rest)
    | .text s :: rest => .ok (text s, rest)
    | .longNumber :: _ => .error .numberTooLong
    | .beginArray :: .endArray :: rest => .ok (array [], rest)
    | .beginArray :: rest => do
      let (items, rest) ← itemsFrom fuel rest
      .ok (array items, rest)
    | .beginObject :: .endObject :: rest => .ok (object [], rest)
    | .beginObject :: rest => do
      let (members, rest) ← membersFrom fuel [] rest
      .ok (object members, rest)
    | _ => .error .invalid

/-- Reads the items of an array, at least one, up to the closing bracket. -/
def itemsFrom : (fuel : Nat) → List Token → Except Fault (List Json × List Token)
  | 0, _ => .error .invalid
  | fuel + 1, tokens => do
    let (item, rest) ← valueFrom fuel tokens
    match rest with
    | .comma :: rest => do
      let (items, rest) ← itemsFrom fuel rest
      .ok (item :: items, rest)
    | .endArray :: rest => .ok ([item], rest)
    | _ => .error .invalid

/-- Reads the members of an object, at least one, up to the closing bracket, and adds them to `before`. -/
def membersFrom : (fuel : Nat) → List (String × Json) → List Token →
    Except Fault (List (String × Json) × List Token)
  | 0, _, _ => .error .invalid
  | fuel + 1, before, tokens =>
    match tokens with
    | .text key :: .colon :: rest => do
      let (j, rest) ← valueFrom fuel rest
      let members := setMember before key j
      match rest with
      | .comma :: rest => membersFrom fuel members rest
      | .endObject :: rest => .ok (members, rest)
      | _ => .error .invalid
    | _ => .error .invalid

end

/-- The tokens lie deeper in each other than the dialect lets them. -/
def isTooDeep (dialect : Dialect) (tokens : List Token) : Bool :=
  dialect.nesting.any (· < Token.nesting 0 tokens)

/-- Reads a document that takes up the whole text. -/
def readList (dialect : Dialect) (cs : List Char) : Except Fault Json :=
  let tokens := Token.scan dialect cs
  if isTooDeep dialect tokens then .error .nestedTooDeep
  else do
    let (j, rest) ← valueFrom (tokens.length + 1) tokens
    if rest.isEmpty then .ok j else .error .invalid

/-- Reads a document that takes up the whole text. -/
def read (dialect : Dialect) (s : String) : Except Fault Json :=
  readList dialect s.toList

end Segmentation.Json
