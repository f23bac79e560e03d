import Orchestration.Text.Mark
import Orchestration.Text.Pieces
import Orchestration.Text.Script
import Orchestration.Web.Name.Allowed
import Orchestration.Web.Name.Composed
import Orchestration.Web.Name.Joining
import Orchestration.Web.Name.Punycode

namespace Orchestration.Web

-- A label holds nothing but what names may hold, is composed, keeps the rules of hyphens and directions, and does
-- not begin with a mark. One that is not ASCII is written in Punycode.
def isAscii (c : Char) : Bool := c.toNat < 0x80

def isArabicDigit (c : Char) : Bool := 0x660 ≤ c.toNat && c.toNat ≤ 0x669

def isExtendedArabicDigit (c : Char) : Bool := 0x6F0 ≤ c.toNat && c.toNat ≤ 0x6F9

def isJapanese (c : Char) : Bool :=
  c != '・' && (Text.Script.hiragana.holds c || Text.Script.katakana.holds c || Text.Script.han.holds c)

-- Whether a sign that names do not hold anywhere may stand at a place. What stands before it is
-- given backwards.
def mayStand (before : List Char) (c : Char) (after : List Char) : Bool :=
  if c == '\u200c' || c == '\u200d' then mayJoin c before after
  else if c == '·' then before.head? == some 'l' && after.head? == some 'l'
  else if c == '͵' then after.head?.any Text.Script.greek.holds
  else if c == '׳' || c == '״' then before.head?.any Text.Script.hebrew.holds
  else if c == '・' then before.any isJapanese || after.any isJapanese
  else if isArabicDigit c then !(before.any isExtendedArabicDigit || after.any isExtendedArabicDigit)
  else if isExtendedArabicDigit c then !(before.any isArabicDigit || after.any isArabicDigit)
  else false

-- Whether the rest of a label holds only what it may. What stands before it is given backwards.
def isHeldBehind (before : List Char) : List Char → Bool
  | [] => true
  | c :: rest => (isAllowed c || mayStand before c rest) && isHeldBehind (c :: before) rest

def keepsHyphens (label : List Char) : Bool :=
  label.head? != some '-' && label.getLast? != some '-' && (label.drop 2).take 2 != ['-', '-']

def isLabel (label : List Char) : Bool :=
  match label with
  | [] => false
  | c :: _ =>
      !Text.isMark c && keepsHyphens label && isHeldBehind [] label && keepsDirection label &&
        composed label == label

-- The longest label and the longest name in ASCII.
def longestLabel : Nat := 63

def longestName : Nat := 253

-- What marks a label in Punycode.
def encodedMark : List Char := ['x', 'n', '-', '-']

-- Whether a label of ASCII is one, or stands for one.
def isWrittenLabel (label : List Char) : Bool :=
  if encodedMark.isPrefixOf label then
    let text := label.drop encodedMark.length
    text.getLast?.any (· != '-') && (Punycode.decode? text).any isLabel
  else isLabel label

def asciiLabel? (label : List Char) : Option (List Char) :=
  let written :=
    if label.all isAscii then if isWrittenLabel label then some label else none
    else if isLabel label then some (encodedMark ++ Punycode.encode label)
    else none
  written.filter (·.length ≤ longestLabel)

-- The dots between labels: the full stop and three that are used with ideographs.
def isDot (c : Char) : Bool := c == '.' || c == '。' || c == '．' || c == '｡'

-- The name in ASCII. It may end in a dot.
def asciiName? (name : List Char) : Option (List Char) :=
  if longestName + 1 < name.length then none
  else
    let labels := Text.pieces isDot name
    let (labels, longest) :=
      if labels.getLast? == some [] then (labels.dropLast, longestName + 1) else (labels, longestName)
    match labels with
    | [] => none
    | _ => do
        let written ← labels.mapM asciiLabel?
        let ending := if longest = longestName then [] else ['.']
        let name := List.intercalate ['.'] written ++ ending
        if name.length ≤ longest then some name else none

example : isLabel "bücher".toList ∧ !isLabel "a--b-".toList ∧ !isLabel "😀".toList ∧ !isLabel "a·b".toList := by
  decide +kernel

end Orchestration.Web
