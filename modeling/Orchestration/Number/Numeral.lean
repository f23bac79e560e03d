import Orchestration.Number.Decimal
import Orchestration.Text.Blank

namespace Orchestration.Numeral

-- Numbers that come as text. An integer may have a sign, zeros in front, a point with zeros behind it, and single
-- underscores between its digits. A fraction may have an exponent, and blanks around it or underscores in it, but
-- not both.
def ofDigits (cs : List Char) : Nat :=
  cs.foldl (fun n c => 10 * n + (c.toNat - 48)) 0

def underscored (cs : List Char) : Bool :=
  cs.head? == some '_' || cs.getLast? == some '_' ||
    (cs.zip cs.tail).any fun (a, b) => a == '_' && b == '_'

def withoutUnderscores (cs : List Char) : Option (List Char) :=
  if underscored cs then none else some (cs.filter (· != '_'))

-- After a zero: the text from the first other digit or a minus sign, or the last character
-- before a point or the end. Underscores among the zeros go with them.
def dropZeros (previous : Char) : List Char → Option (List Char)
  | [] => some [previous]
  | c :: rest =>
      if c == '0' || c == '_' then dropZeros c rest
      else if c.isDigit || c == '-' then some (c :: rest)
      else if c == '.' then some (previous :: c :: rest)
      else none

-- A point is allowed when zeros, at least one, are all that follows it.
def dropZeroFraction (cs : List Char) : Option (List Char) :=
  match cs.dropWhile (· != '.') with
  | [] => some cs
  | _ :: fraction =>
      if fraction.isEmpty || fraction.any (· != '0') then none else some (cs.takeWhile (· != '.'))

def signed : List Char → Bool × List Char
  | '-' :: rest => (true, rest)
  | '+' :: rest => (false, rest)
  | cs => (false, cs)

-- What counts of the text behind a sign, which begins with a digit.
def integerText (cs : List Char) : Option (List Char) := do
  let cs ← match cs with
    | '0' :: rest => dropZeros '0' rest
    | c :: _ => if c.isDigit then some cs else none
    | [] => none
  withoutUnderscores (← dropZeroFraction cs)

inductive IntegerFault where
  | malformed
  | tooLong
  deriving DecidableEq, Repr

def longestInteger : Nat := 4300

-- The value of digits without a zero in front, zero itself excepted. Too many of them are a
-- fault whatever follows.
def magnitude (cs : List Char) : Except IntegerFault Nat :=
  let digits := cs.takeWhile Char.isDigit
  if cs == ['0'] then .ok 0
  else if digits.isEmpty || cs.head? == some '0' then .error .malformed
  else if longestInteger < digits.length then .error .tooLong
  else if digits.length < cs.length then .error .malformed
  else .ok (ofDigits digits)

def integer (s : String) : Except IntegerFault Int :=
  let (negative, body) := signed (Text.trimBy Text.isSpace s.toList)
  match integerText body with
  | none => .error .malformed
  | some ('-' :: digits) =>
      if negative then .error .malformed else (magnitude digits).map fun n => -(n : Int)
  | some digits => (magnitude digits).map fun n => if negative then -(n : Int) else n

def exponent? : List Char → Option Int
  | '-' :: digits => if digits.isEmpty || digits.any (!·.isDigit) then none else some (-(ofDigits digits : Int))
  | '+' :: digits => if digits.isEmpty || digits.any (!·.isDigit) then none else some (ofDigits digits)
  | digits => if digits.isEmpty || digits.any (!·.isDigit) then none else some (ofDigits digits)

def unsignedNumber? (negative : Bool) (cs : List Char) : Option Binary64 :=
  let word := cs.map Char.toLower
  if word == ['n', 'a', 'n'] then some (.nan false)
  else if word == ['i', 'n', 'f'] || word == ['i', 'n', 'f', 'i', 'n', 'i', 't', 'y'] then
    some (.infinite negative)
  else
    let whole := cs.takeWhile Char.isDigit
    let rest := cs.dropWhile Char.isDigit
    let (fraction, rest) := match rest with
      | '.' :: more => (more.takeWhile Char.isDigit, more.dropWhile Char.isDigit)
      | _ => ([], rest)
    if whole.isEmpty && fraction.isEmpty then none
    else do
      let e ← match rest with
        | [] => some 0
        | c :: power => if c == 'e' || c == 'E' then exponent? power else none
      some (Binary64.ofDecimal negative (ofDigits (whole ++ fraction)) (e - fraction.length))

def signedNumber? (cs : List Char) : Option Binary64 :=
  let (negative, cs) := signed cs
  unsignedNumber? negative cs

def number? (s : String) : Option Binary64 :=
  match signedNumber? (Text.trimBy Text.isSpace s.toList) with
  | some x => some x
  | none => (withoutUnderscores s.toList).bind signedNumber?

example : (integer " +007.00 ").toOption = some 7 ∧ (integer "1_000").toOption = some 1000 ∧
    (integer "-007").toOption = some (-7) ∧ (integer "0_-5").toOption = some (-5) := by
  decide +kernel
example : (integer "+-7").toOption = none ∧ (integer "7.").toOption = none ∧
    (integer "1__0").toOption = none ∧ (integer "-_5").toOption = none := by decide +kernel
example : number? "5." = some (Binary64.ofInt 5) ∧ number? "." = none ∧
    number? "-INF" = some (.infinite true) := by decide +kernel
example : number? " 10 " = some (Binary64.ofInt 10) ∧ number? "1_0" = some (Binary64.ofInt 10) ∧
    number? " 1_0" = none := by decide +kernel

end Orchestration.Numeral
