import Orchestration.Json.Value
import Orchestration.Number.Numeral
import Orchestration.Text.Half

namespace Orchestration.Json

inductive ReadFault where
  | malformed
  -- An integer of more digits than are accepted.
  | longInteger (digits : Nat)
  | tooDeep
  | undecodable
  deriving DecidableEq, Repr

def deepestRead : Nat := 990

def ReadFault.message : ReadFault → String
  | .malformed => "The text is not readable"
  | .longInteger digits =>
      "Exceeds the limit (" ++ toString Numeral.longestInteger ++
        " digits) for integer string conversion: value has " ++ toString digits ++
        " digits; use sys.set_int_max_str_digits() to increase the limit"
  | .tooDeep => "The text is nested too deep"
  | .undecodable => "The bytes are no text"

-- A part of a string: a character as it stands there, or half of a surrogate pair that was escaped.
inductive Piece where
  | whole (c : Char)
  | half (unit : Nat)
  deriving DecidableEq

def isBreak (c : Char) : Bool := c == ' ' || c == '\t' || c == '\n' || c == '\r'

def skipBreaks (cs : List Char) : List Char := cs.dropWhile isBreak

def hexDigit? (c : Char) : Option Nat :=
  if c.isDigit then some (c.toNat - 48)
  else if 'a' ≤ c && c ≤ 'f' then some (c.toNat - 87)
  else if 'A' ≤ c && c ≤ 'F' then some (c.toNat - 55)
  else none

def hex4? (a b c d : Char) : Option Nat := do
  return ((← hexDigit? a) * 16 + (← hexDigit? b)) * 256 + (← hexDigit? c) * 16 + (← hexDigit? d)

def escaped? : Char → Option Char
  | '\x22' => some '\x22'
  | '\x5c' => some '\x5c'
  | '/' => some '/'
  | 'b' => some '\x08'
  | 'f' => some '\x0c'
  | 'n' => some '\n'
  | 'r' => some '\r'
  | 't' => some '\t'
  | _ => none

-- What a unit of sixteen bits stands for.
def unitPieces (unit : Nat) : List Piece :=
  if Text.isHalf unit then [.half unit] else (Text.Point.char (Char.ofNat unit)).spelled.map .whole

-- The string behind an opening quote, and the text behind its closing one.
def pieces? : List Char → Option (List Piece × List Char)
  | [] => none
  | '\x22' :: rest => some ([], rest)
  | '\x5c' :: 'u' :: a :: b :: c :: d :: rest => do
      let unit ← hex4? a b c d
      let (ps, rest) ← pieces? rest
      some (unitPieces unit ++ ps, rest)
  | '\x5c' :: c :: rest => do
      let e ← escaped? c
      let (ps, rest) ← pieces? rest
      some (.whole e :: ps, rest)
  | c :: rest =>
      if c.toNat < 0x20 then none
      else do
        let (ps, rest) ← pieces? rest
        some (.whole c :: ps, rest)

-- Joins the halves of surrogate pairs. A half without its other half is kept as it is.
def join : List Piece → List Char
  | [] => []
  | .whole c :: rest => c :: join rest
  | .half a :: .half b :: rest =>
      if a < 0xDC00 && 0xDC00 ≤ b then
        Char.ofNat (0x10000 + (a - 0xD800) * 0x400 + (b - 0xDC00)) :: join rest
      else (Text.Point.half a).spelled ++ join (.half b :: rest)
  | .half a :: rest => (Text.Point.half a).spelled ++ join rest

def string? (cs : List Char) : Option (String × List Char) :=
  (pieces? cs).map fun (ps, rest) => (String.ofList (join ps), rest)

-- The digits behind a point, if there is a point with digits behind it.
def fraction? : List Char → Option (List Char × List Char)
  | '.' :: rest =>
      if (rest.takeWhile Char.isDigit).isEmpty then none
      else some (rest.takeWhile Char.isDigit, rest.dropWhile Char.isDigit)
  | _ => none

def power? : List Char → Option (Int × List Char)
  | c :: rest =>
      let (negative, digits) := match rest with
        | '-' :: more => (true, more)
        | '+' :: more => (false, more)
        | _ => (false, rest)
      let written := digits.takeWhile Char.isDigit
      if (c == 'e' || c == 'E') && !written.isEmpty then
        let n : Int := Numeral.ofDigits written
        some (if negative then -n else n, digits.dropWhile Char.isDigit)
      else none
  | [] => none

-- The digits in front of a point. Nothing follows a zero there.
def whole : List Char → List Char
  | '0' :: _ => ['0']
  | cs => cs.takeWhile Char.isDigit

def unsigned (negative : Bool) (cs : List Char) : Except ReadFault (Json × List Char) :=
  let whole := whole cs
  let cs := cs.drop whole.length
  if whole.isEmpty then .error .malformed
  else
    let (digits, cs, pointed) := match fraction? cs with
      | some (fraction, rest) => (fraction, rest, true)
      | none => ([], cs, false)
    match power? cs with
    | some (e, rest) =>
        .ok (.float (Binary64.ofDecimal negative (Numeral.ofDigits (whole ++ digits)) (e - digits.length)), rest)
    | none =>
        if pointed then
          .ok (.float (Binary64.ofDecimal negative (Numeral.ofDigits (whole ++ digits)) (-(digits.length : Int))), cs)
        else if Numeral.longestInteger < whole.length then .error (.longInteger whole.length)
        else
          let n : Int := Numeral.ofDigits whole
          .ok (.int (if negative then -n else n), cs)

def number : List Char → Except ReadFault (Json × List Char)
  | '-' :: rest => unsigned true rest
  | cs => unsigned false cs

-- A word that stands for a value.
def word? (cs : List Char) : Option (Json × List Char) :=
  let words : List (String × Json) :=
    [("null", .null), ("true", .bool true), ("false", .bool false), ("NaN", .float (.nan true)),
      ("Infinity", .float (.infinite false)), ("-Infinity", .float (.infinite true))]
  words.findSome? fun (w, v) =>
    if w.toList.isPrefixOf cs then some (v, cs.drop w.length) else none

-- The fuel is the number of values and separators that may still be read, the levels are those that may still be
-- opened. An object that repeats a key keeps the last value, at the place of the first.
mutual
def value : Nat → Nat → List Char → Except ReadFault (Json × List Char)
  | 0, _, _ => .error .malformed
  | fuel + 1, levels, cs =>
      match cs with
      | '\x22' :: rest =>
          match string? rest with
          | some (s, rest) => .ok (.str s, rest)
          | none => .error .malformed
      | '[' :: rest =>
          match levels with
          | 0 => .error .tooDeep
          | levels + 1 =>
              match skipBreaks rest with
              | ']' :: rest => .ok (.arr [], rest)
              | rest => do
                  let (items, rest) ← items fuel levels rest
                  .ok (.arr items, rest)
      | '\x7b' :: rest =>
          match levels with
          | 0 => .error .tooDeep
          | levels + 1 =>
              match skipBreaks rest with
              | '\x7d' :: rest => .ok (.obj [], rest)
              | rest => do
                  let (members, rest) ← members fuel levels rest []
                  .ok (.obj members, rest)
      | cs =>
          match word? cs with
          | some read => .ok read
          | none => number cs

-- The items from the first one to the closing bracket.
def items : Nat → Nat → List Char → Except ReadFault (List Json × List Char)
  | 0, _, _ => .error .malformed
  | fuel + 1, levels, cs => do
      let (v, rest) ← value fuel levels cs
      match skipBreaks rest with
      | ']' :: rest => .ok ([v], rest)
      | ',' :: rest => do
          let (vs, rest) ← items fuel levels (skipBreaks rest)
          .ok (v :: vs, rest)
      | _ => .error .malformed

-- The members from a key to the closing brace, behind those already read.
def members : Nat → Nat → List Char → Members → Except ReadFault (Members × List Char)
  | 0, _, _, _ => .error .malformed
  | fuel + 1, levels, cs, read =>
      match cs with
      | '\x22' :: rest =>
          match string? rest with
          | none => .error .malformed
          | some (key, rest) =>
              match skipBreaks rest with
              | ':' :: rest => do
                  let (v, rest) ← value fuel levels (skipBreaks rest)
                  let read := read.insert key v
                  match skipBreaks rest with
                  | '\x7d' :: rest => .ok (read, rest)
                  | ',' :: rest => members fuel levels (skipBreaks rest) read
                  | _ => .error .malformed
              | _ => .error .malformed
      | _ => .error .malformed
end

-- Each character of a text is met twice at most: in front of an item, and as a value.
def parse (text : String) : Except ReadFault Json := do
  let cs := skipBreaks text.toList
  let (v, rest) ← value (2 * cs.length + 1) deepestRead cs
  if (skipBreaks rest).isEmpty then .ok v else .error .malformed

end Orchestration.Json
