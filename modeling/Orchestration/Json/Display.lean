import Orchestration.Json.Printer
import Orchestration.Text.Printable

namespace Orchestration.Json

-- How values are shown to people. A text stands for itself; inside of another value it is quoted, with the quote
-- that does not occur in it if one of the two does not.
def shownFloat : Binary64 → List Char
  | .finite negative place => NumberLayout.shown.writeFinite negative place
  | .nan _ => "nan".toList
  | .infinite negative => if negative then "-inf".toList else "inf".toList

def shownQuote (s : List Char) : Char :=
  if s.contains '\x27' && !s.contains '\x22' then '\x22' else '\x27'

def shownChar (q : Char) (c : Char) : List Char :=
  if c == q || c == '\x5c' then ['\x5c', c]
  else if c == '\n' then ['\x5c', 'n']
  else if c == '\r' then ['\x5c', 'r']
  else if c == '\t' then ['\x5c', 't']
  else if Text.isPrintable c then [c]
  else if c.toNat < 0x100 then '\x5c' :: 'x' :: hex 2 c.toNat
  else if c.toNat < 0x10000 then unitEscape c.toNat
  else '\x5c' :: 'U' :: hex 8 c.toNat

def shownPoint (q : Char) : Text.Point → List Char
  | .char c => shownChar q c
  | .half unit => unitEscape unit

def shownText (s : String) : List Char :=
  let q := shownQuote s.toList
  q :: (Text.points s.toList).flatMap (shownPoint q) ++ [q]

mutual
-- The form inside a list or an object.
def shownInside : Json → List Char
  | .null => "None".toList
  | .bool true => "True".toList
  | .bool false => "False".toList
  | .int n => writeInt n
  | .float x => shownFloat x
  | .str s => shownText s
  | .arr [] => ['[', ']']
  | .arr (v :: rest) => '[' :: shownInside v ++ shownItems rest ++ [']']
  | .obj [] => ['\x7b', '\x7d']
  | .obj ((k, v) :: rest) =>
      '\x7b' :: shownText k ++ [':', ' '] ++ shownInside v ++ shownMembers rest ++ ['\x7d']

def shownItems : List Json → List Char
  | [] => []
  | v :: rest => ',' :: ' ' :: shownInside v ++ shownItems rest

def shownMembers : List (String × Json) → List Char
  | [] => []
  | (k, v) :: rest =>
      ',' :: ' ' :: shownText k ++ [':', ' '] ++ shownInside v ++ shownMembers rest
end

def shown : Json → String
  | .str s => s
  | v => String.ofList (shownInside v)

example : shown (.arr [.str "it\x27s", .float (Binary64.ofInt 5), .null]) =
    "[\"it's\", 5.0, None]" := by decide +kernel

end Orchestration.Json
