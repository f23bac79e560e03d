import Orchestration.Text.Lowercase
import Orchestration.Web.Name.Label
import Orchestration.Web.Percent

namespace Orchestration.Web

-- The parts of a row of four numbers that may be under way after one more character. An even part
-- waits for the first digit of a number, an odd one is a number or what stands behind it.
def dottedStep (parts : List Nat) (c : Char) : List Nat :=
  (List.range 8).filter fun k =>
    if k % 2 = 1 then c.isDigit && (parts.contains k || parts.contains (k - 1))
    else k != 0 && parts.contains (k - 1)

def isDotted (cs : List Char) : Bool := (cs.foldl dottedStep [0]).contains 7

def isOctet (cs : List Char) : Bool :=
  !cs.isEmpty && cs.length ≤ 3 && cs.all Char.isDigit && (cs == ['0'] || cs.head? != some '0') &&
    cs.foldl (fun n c => 10 * n + (c.toNat - 48)) 0 ≤ 255

def isVersion4 (cs : List Char) : Bool :=
  let octets := Text.pieces (· == '.') cs
  octets.length == 4 && octets.all isOctet

def isGroup (cs : List Char) : Bool :=
  !cs.isEmpty && cs.length ≤ 4 && cs.all fun c => (hexValue? c).isSome

-- How many groups of sixteen bits stand between colons. The last may be an address of version 4,
-- which counts twice.
def groupCount? (cs : List Char) : Option Nat :=
  let groups := Text.pieces (· == ':') cs
  match groups.getLast? with
  | some last =>
      if groups.dropLast.all isGroup then
        if isGroup last then some groups.length
        else if isVersion4 last then some (groups.length + 1)
        else none
      else none
  | none => none

-- What stands before and behind the first double colon.
def cutAtGap? (before : List Char) : List Char → Option (List Char × List Char)
  | ':' :: ':' :: rest => some (before.reverse, rest)
  | c :: rest => cutAtGap? (c :: before) rest
  | [] => none

-- A side of the gap. It may be empty, and only the right one may end in an address of version 4.
def sideCount? (right : Bool) (cs : List Char) : Option Nat :=
  if cs.isEmpty then some 0
  else if right || (Text.pieces (· == ':') cs).all isGroup then groupCount? cs
  else none

-- Whether a text is an address of version 6: eight groups between colons, or fewer with one gap
-- for zeros; perhaps with a zone behind a percent sign.
def isVersion6 (cs : List Char) : Bool :=
  let address := cs.takeWhile (· != '%')
  let zone := cs.drop address.length
  let groups := match cutAtGap? [] address with
    | none => (groupCount? address).any (· == 8)
    | some (left, right) =>
        match sideCount? false left, sideCount? true right with
        | some m, some n => m + n ≤ 7
        | _, _ => false
  groups && !cs.contains '/' && zone != ['%'] && !(zone.drop 1).contains '%'

-- What may stand in a name of ASCII besides the unreserved characters.
def hostMarks : List Char :=
  ['!', '$', '&', '\x27', '(', ')', '*', '+', ',', ';', '=', '\x22', '\x60', '\x7b', '\x7d', '%', '|', '\x5c']

def isHostSafe (c : Char) : Bool := isUnreserved c || hostMarks.contains c

def host? (cs : List Char) : Option (List Char) :=
  if isDotted cs then if isVersion4 cs then some cs else none
  else if cs.head? == some '[' && cs.getLast? == some ']' then
    let inner := (cs.drop 1).dropLast
    if isVersion6 inner then some inner else none
  else if cs.all isAscii then some (quote isHostSafe (Text.lower cs))
  else asciiName? (Text.lower cs)

example : isDotted "1.2.3.4".toList ∧ isDotted "1234567".toList ∧ !isDotted "12345".toList ∧
    !isDotted "1..2.3.4".toList := by
  decide +kernel
example : isVersion6 "::1".toList ∧ isVersion6 "1:2:3:4:5:6:1.2.3.4".toList ∧ isVersion6 "fe80::1%eth0".toList ∧
    !isVersion6 ":::".toList ∧ !isVersion6 "1:2:3:4:5:6:7:8:9".toList := by
  decide +kernel

end Orchestration.Web
