import Orchestration.Json.Value
import Orchestration.Text.Half

namespace Orchestration.Json

structure Style where
  ascii : Bool
  -- Numbers that are not finite are written as words; without this they are null.
  words : Bool
  numbers : NumberLayout
  -- The blanks of one level, or `none` for everything on one line.
  indent : Option Nat

-- Reports: escaped, two blanks a level.
def Style.report : Style := ⟨true, true, .shown, some 2⟩

def Style.record : Style := ⟨false, false, .record, some 2⟩

def Style.line : Style := ⟨false, true, .shown, none⟩

-- Hexadecimal digits in lower case, at least `width` of them.
def hex (width n : Nat) : List Char :=
  let written := Nat.toDigits 16 n
  List.replicate (width - written.length) '0' ++ written

def unitEscape (n : Nat) : List Char := '\x5c' :: 'u' :: hex 4 n

def escapeChar (ascii : Bool) (c : Char) : List Char :=
  if c == '\x22' then ['\x5c', '\x22']
  else if c == '\x5c' then ['\x5c', '\x5c']
  else if c == '\n' then ['\x5c', 'n']
  else if c == '\r' then ['\x5c', 'r']
  else if c == '\t' then ['\x5c', 't']
  else if c == '\x08' then ['\x5c', 'b']
  else if c == '\x0c' then ['\x5c', 'f']
  else if c.toNat < 0x20 then unitEscape c.toNat
  else if ascii && 0x7F ≤ c.toNat then
    if c.toNat < 0x10000 then unitEscape c.toNat
    else unitEscape (0xD800 + (c.toNat - 0x10000) / 0x400) ++
      unitEscape (0xDC00 + (c.toNat - 0x10000) % 0x400)
  else [c]

def escapePoint : Text.Point → List Char
  | .char c => escapeChar true c
  | .half unit => unitEscape unit

-- Unless all is escaped, a text is written as it is spelled.
def escaped (ascii : Bool) (s : String) : List Char :=
  if ascii then (Text.points s.toList).flatMap escapePoint else s.toList.flatMap (escapeChar false)

def quote (ascii : Bool) (s : String) : List Char := '\x22' :: escaped ascii s ++ ['\x22']

def writeInt (n : Int) : List Char :=
  if n < 0 then '-' :: Nat.toDigits 10 n.natAbs else Nat.toDigits 10 n.natAbs

def writeFloat (style : Style) : Binary64 → List Char
  | .finite negative place => style.numbers.writeFinite negative place
  | .nan _ => if style.words then "NaN".toList else "null".toList
  | .infinite negative =>
      if !style.words then "null".toList
      else if negative then "-Infinity".toList else "Infinity".toList

namespace Style

-- What stands in front of an item at a level.
def newLine (style : Style) (level : Nat) : List Char :=
  match style.indent with
  | some n => '\n' :: List.replicate (n * level) ' '
  | none => []

end Style

mutual
def write (style : Style) (level : Nat) : Json → List Char
  | .null => "null".toList
  | .bool true => "true".toList
  | .bool false => "false".toList
  | .int n => writeInt n
  | .float x => writeFloat style x
  | .str s => quote style.ascii s
  | .arr [] => ['[', ']']
  | .arr (v :: rest) =>
      '[' :: style.newLine (level + 1) ++ write style (level + 1) v ++
        writeItems style (level + 1) rest ++ style.newLine level ++ [']']
  | .obj [] => ['\x7b', '\x7d']
  | .obj ((k, v) :: rest) =>
      '\x7b' :: style.newLine (level + 1) ++ quote style.ascii k ++ [':', ' '] ++
        write style (level + 1) v ++ writeMembers style (level + 1) rest ++
        style.newLine level ++ ['\x7d']

def writeItems (style : Style) (level : Nat) : List Json → List Char
  | [] => []
  | v :: rest => ',' :: style.newLine level ++ write style level v ++ writeItems style level rest

def writeMembers (style : Style) (level : Nat) : List (String × Json) → List Char
  | [] => []
  | (k, v) :: rest =>
      ',' :: style.newLine level ++ quote style.ascii k ++ [':', ' '] ++ write style level v ++
        writeMembers style level rest
end

def render (style : Style) (v : Json) : String := String.ofList (write style 0 v)

example : render .line (.arr [.int (-1), .str "é\n", .obj []]) =
    String.ofList ['[', '-', '1', ',', '\x22', 'é', '\x5c', 'n', '\x22', ',', '\x7b', '\x7d', ']'] := by
  decide +kernel

end Orchestration.Json
