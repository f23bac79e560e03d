import Orchestration.Text.Pieces
import Orchestration.Web.Percent

namespace Orchestration.Web

-- A plus sign is a blank.
def fieldText (cs : List Char) : String :=
  String.ofList (Text.spellChars (plain (cs.map fun c => if c == '+' then ' ' else c)))

def readField (cs : List Char) : String × String :=
  let name := cs.takeWhile (· != '=')
  (fieldText name, fieldText ((cs.drop name.length).drop 1))

def readQuery (cs : List Char) : List (String × String) :=
  ((Text.pieces (· == '&') cs).filter (!·.isEmpty)).map readField

def writeFieldChar (c : Char) : List Char :=
  if c == ' ' then ['+'] else if isUnreserved c then [c] else escape c

def writeFieldText (s : String) : List Char := (Text.chars s.toList).flatMap writeFieldChar

def writeField (field : String × String) : List Char := writeFieldText field.1 ++ '=' :: writeFieldText field.2

def writeQuery (fields : List (String × String)) : List Char :=
  List.intercalate ['&'] (fields.map writeField)

example : readQuery "a=1&b=x+y%26&&c&a=2".toList = [("a", "1"), ("b", "x y&"), ("c", ""), ("a", "2")] := by
  decide +kernel
example : writeQuery [("a b", "ü&"), ("c", "")] = "a+b=%C3%BC%26&c=".toList := by decide +kernel

end Orchestration.Web
