import Orchestration.Json.Dump
import Orchestration.Json.Reader
import Orchestration.Text.Utf8

namespace Orchestration.Json

-- The units in which a document is written.
inductive Encoding where
  | bytes
  | pairs (bigEndian : Bool)
  | quadruples (bigEndian : Bool)
  deriving DecidableEq, Repr

-- A document begins with a character of ASCII, so the zero bytes among the first four tell the units.
def encoding : List UInt8 → Encoding
  | a :: b :: c :: d :: _ =>
      if a == 0 then if b == 0 then .quadruples true else .pairs true
      else if b == 0 then if c == 0 && d == 0 then .quadruples false else .pairs false
      else .bytes
  | [a, b] => if a == 0 then .pairs true else if b == 0 then .pairs false else .bytes
  | _ => .bytes

-- The marks that may stand in front of a document and tell its units. The longer ones come first.
def orderMarks : List (List UInt8 × Encoding) :=
  [([0, 0, 0xFE, 0xFF], .quadruples true), ([0xFF, 0xFE, 0, 0], .quadruples false), ([0xFE, 0xFF], .pairs true),
    ([0xFF, 0xFE], .pairs false), ([0xEF, 0xBB, 0xBF], .bytes)]

-- The units of a body, and its bytes behind the mark if there is one.
def unmarked (body : List UInt8) : Encoding × List UInt8 :=
  match orderMarks.find? fun (mark, _) => mark.isPrefixOf body with
  | some (mark, units) => (units, body.drop mark.length)
  | none => (encoding body, body)

-- The units of two bytes, if the bytes are even in number.
def pairUnits? (bigEndian : Bool) : List UInt8 → Option (List Nat)
  | [] => some []
  | a :: b :: rest => do
      let units ← pairUnits? bigEndian rest
      let (high, low) := if bigEndian then (a, b) else (b, a)
      some ((high.toNat * 256 + low.toNat) :: units)
  | _ => none

-- The code points that are written in units of four bytes, each unit one of its own.
def quadruplePoints? (bigEndian : Bool) : List UInt8 → Option (List Text.Point)
  | [] => some []
  | a :: b :: c :: d :: rest => do
      let n := if bigEndian then ((a.toNat * 256 + b.toNat) * 256 + c.toNat) * 256 + d.toNat
        else ((d.toNat * 256 + c.toNat) * 256 + b.toNat) * 256 + a.toNat
      if 0x10FFFF < n then none
      else
        let more ← quadruplePoints? bigEndian rest
        some (.ofNat n :: more)
  | _ => none

-- The text that a body is, as it is spelled.
def bodyText? (body : List UInt8) : Option String :=
  match unmarked body with
  | (.bytes, bytes) => (Text.decode? bytes).map fun ps => String.ofList (Text.spell ps)
  | (.pairs bigEndian, bytes) =>
      (pairUnits? bigEndian bytes).map fun units => String.ofList (join (units.flatMap unitPieces))
  | (.quadruples bigEndian, bytes) =>
      (quadruplePoints? bigEndian bytes).map fun ps => String.ofList (Text.spell ps)

def parseBody (body : List UInt8) : Except ReadFault Json :=
  match bodyText? body with
  | some text => parse text
  | none => .error .undecodable

inductive SendFault where
  | notFinite
  | broken
  deriving DecidableEq, Repr

def SendFault.message : SendFault → String
  | .notFinite => "Out of range float values are not JSON compliant"
  | .broken => "A text has no bytes"

def sendFault? (v : Json) : Option SendFault :=
  if !v.isFinite then some .notFinite else if v.hasHalf then some .broken else none

end Orchestration.Json
