namespace Orchestration.Web.Punycode

-- The characters of ASCII come first. Each other one is inserted among those that are there already, the lowest
-- first, and written as its distance from the one before. The letters are the digits from zero to 25 of a distance,
-- the digits those from 26 to 35.
def digit (n : Nat) : Char := if n < 26 then Char.ofNat (97 + n) else Char.ofNat (22 + n)

def value? (c : Char) : Option Nat :=
  if 'a' ≤ c && c ≤ 'z' then some (c.toNat - 97)
  else if 'A' ≤ c && c ≤ 'Z' then some (c.toNat - 65)
  else if c.isDigit then some (c.toNat - 22)
  else none

-- The digits below this one end a numeral at a place. Places are counted in steps of 36.
def threshold (bias place : Nat) : Nat := max 1 (min 26 (place - bias))

theorem threshold_pos (bias place : Nat) : 0 < threshold bias place := by unfold threshold; omega

-- The numeral of a number from a place on, the lowest digit first.
def numeral (bias place n : Nat) : List Char :=
  let t := threshold bias place
  if n < t then [digit n]
  else digit (t + (n - t) % (36 - t)) :: numeral bias (place + 36) ((n - t) / (36 - t))
termination_by n
decreasing_by
  have pos := threshold_pos bias place
  have less := Nat.div_le_self (n - threshold bias place) (36 - threshold bias place)
  omega

-- The bias for a distance that has been scaled down.
def settle (distance bias : Nat) : Nat :=
  if 455 < distance then settle (distance / 35) (bias + 36)
  else bias + 36 * distance / (distance + 38)
termination_by distance
decreasing_by exact Nat.div_lt_self (by omega) (by omega)

def adapt (distance length : Nat) (first : Bool) : Nat :=
  let scaled := distance / (if first then 700 else 2)
  settle (scaled + scaled / length) 0

-- Where the next insertion is counted from, with the number of characters that are there.
structure State where
  char : Nat
  place : Nat
  length : Nat
  bias : Nat
  first : Bool
  deriving DecidableEq, Repr

def State.start (length : Nat) : State := ⟨0x80, 0, length, 72, true⟩

-- Behind the insertion of a character at a place, which had some distance.
def State.behind (s : State) (char place distance : Nat) : State :=
  ⟨char, place + 1, s.length + 1, adapt distance (s.length + 1) s.first, false⟩

-- The characters beyond ASCII with the places where they go in, from left to right. What stands
-- before is given, and a character goes in behind all that are not higher.
def insertions (before : List Nat) : List Char → List (Nat × Nat)
  | [] => []
  | c :: rest =>
      let n := c.toNat
      let more := insertions (n :: before) rest
      if n < 0x80 then more else (n, (before.filter (· ≤ n)).length) :: more

def encodeFrom (s : State) : List (Nat × Nat) → List Char
  | [] => []
  | (char, place) :: rest =>
      let distance := (char - s.char) * (s.length + 1) + place - s.place
      numeral s.bias 36 distance ++ encodeFrom (s.behind char place distance) rest

def encode (name : List Char) : List Char :=
  let basic := name.filter (·.toNat < 0x80)
  let ordered := (insertions [] name).mergeSort fun a b => a.1 ≤ b.1
  (if basic.isEmpty then [] else basic ++ ['-']) ++ encodeFrom (State.start basic.length) ordered

-- The part of a numeral that has been read: the next place, its weight, and the sum.
structure Partial where
  place : Nat
  weight : Nat
  sum : Nat
  deriving DecidableEq, Repr

def Partial.none : Partial := ⟨36, 1, 0⟩

-- The name with one more character behind a distance.
def insert? (s : State) (name : List Char) (distance : Nat) : Option (State × List Char) :=
  let total := s.place + distance
  let char := s.char + total / (s.length + 1)
  let place := total % (s.length + 1)
  if 0x10FFFF < char then Option.none
  else some (s.behind char place distance, name.insertIdx place (Char.ofNat char))

def decodeFrom? (s : State) (name : List Char) (read : Partial) : List Char → Option (List Char)
  | [] => if read == Partial.none then some name else Option.none
  | c :: rest => do
      let d ← value? c
      let t := threshold s.bias read.place
      let sum := read.sum + d * read.weight
      if d < t then
        let (s, name) ← insert? s name sum
        decodeFrom? s name Partial.none rest
      else decodeFrom? s name ⟨read.place + 36, read.weight * (36 - t), sum⟩ rest

-- The name that is written so, if there is one. The last hyphen ends the characters of ASCII.
def decode? (text : List Char) : Option (List Char) :=
  let numerals := (text.reverse.takeWhile (· != '-')).reverse
  let basic := (text.take (text.length - numerals.length)).dropLast
  decodeFrom? (State.start basic.length) basic Partial.none numerals

example : insertions [] "bücher".toList = [(0xFC, 1)] ∧ insertions [] "日本".toList = [(0x65E5, 0), (0x672C, 1)] := by
  decide +kernel

end Orchestration.Web.Punycode
