import Orchestration.Decode.Basic
import Orchestration.Json.Display
import Orchestration.Number.Numeral
import Orchestration.Text.Half

namespace Orchestration.Decode

def text : Json → Decode String
  | .str s => pure s
  | _ => complain .notText

-- A text, or a number in its shown form.
def textOrNumber : Json → Decode String
  | .str s => pure s
  | .int n => pure (Json.shown (.int n))
  | .float x => pure (Json.shown (.float x))
  | _ => complain .notText

def optional (read : Json → Decode α) : Json → Decode (Option α)
  | .null => pure none
  | v => map some (read v)

def unread (s : String) (p : Problem) : Decode α :=
  complain (if Text.hasHalf s then .brokenText else p)

-- Numbers from here on are too large to be taken for integers.
def integerLimit : Nat := 0x8000000000000000

def floatToInteger (x : Binary64) : Except Problem Int :=
  if !x.isFinite then .error .notFinite
  else match x.toInt? with
    | none => .error .fractionalInteger
    | some n => if n.natAbs < integerLimit then .ok n else .error .oversizedInteger

def integer : Json → Decode Int
  | .int n => pure n
  | .bool b => pure (if b then 1 else 0)
  | .float x =>
      match floatToInteger x with
      | .ok n => pure n
      | .error p => complain p
  | .str s =>
      match Numeral.integer s with
      | .ok n => pure n
      | .error .malformed => unread s .unreadableInteger
      | .error .tooLong => unread s .oversizedInteger
  | _ => complain .notInteger

-- The number nearest to an integer. An integer beyond the largest number is none.
def number : Json → Decode Binary64
  | .float x => pure x
  | .int n =>
      let x := Binary64.ofInt n
      if x.isFinite then pure x else complain .notNumber
  | .bool b => pure (Binary64.ofInt (if b then 1 else 0))
  | .str s =>
      match Numeral.number? s with
      | some x => pure x
      | none => unread s .unreadableNumber
  | _ => complain .notNumber

def truthWords : List String := ["1", "t", "true", "y", "yes", "on"]

def falsehoodWords : List String := ["0", "f", "false", "n", "no", "off"]

-- The letters of the words are ASCII, so that case is that of ASCII.
def boolOfText (s : String) : Option Bool :=
  let word := s.map Char.toLower
  if truthWords.contains word then some true
  else if falsehoodWords.contains word then some false
  else none

def boolOfInteger (n : Int) : Decode Bool :=
  if n = 0 then pure false else if n = 1 then pure true else complain .unreadableBool

def bool : Json → Decode Bool
  | .bool b => pure b
  | .int n =>
      if -(integerLimit : Int) ≤ n && n < integerLimit then boolOfInteger n else complain .notBool
  | .float x =>
      match floatToInteger x with
      | .ok n => boolOfInteger n
      | .error _ => complain .notBool
  | .str s =>
      match boolOfText s with
      | some b => pure b
      | none => unread s .unreadableBool
  | _ => complain .notBool

def choice (of : String → Option α) : Json → Decode α
  | .str s =>
      match of s with
      | some a => pure a
      | none => unread s .notChoice
  | _ => complain .notChoice

def list (read : Json → Decode α) : Json → Decode (List α)
  | .arr vs => items read 0 vs
  | _ => complain .notList

def object : Json → Decode Members
  | .obj m => pure m
  | _ => complain .notMap

def mapOf (read : Json → Decode α) : Json → Decode (List (String × α))
  | .obj m => members read m
  | _ => complain .notMap

end Orchestration.Decode
