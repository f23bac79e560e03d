import Orchestration.Instant.Calendar

namespace Orchestration

-- A point in time in microseconds, absolute or local; the two kinds are not compared. The text is a date, one
-- character of any kind, and a time of day with or without an offset. It is read byte by byte, with a zero byte
-- behind its end.
structure Instant where
  absolute : Bool
  micros : Int
  deriving DecidableEq, Repr

namespace Instant

abbrev Bytes := List UInt8

def isDigit (b : UInt8) : Bool := 48 ≤ b && b ≤ 57

def head (bs : Bytes) : UInt8 := bs.headD 0

def dash : UInt8 := 45
def plus : UInt8 := 43
def colon : UInt8 := 58
def point : UInt8 := 46
def comma : UInt8 := 44
def week : UInt8 := 87

def digits? (count : Nat) (bs : Bytes) : Option (Nat × Bytes) :=
  let written := bs.take count
  if written.length = count && written.all isDigit then
    some (written.foldl (fun n b => 10 * n + (b.toNat - 48)) 0, bs.drop count)
  else none

-- The length of the date, after which one character divides it from the time.
def dateLength? (bs : Bytes) : Option Nat :=
  let byte (i : Nat) : UInt8 := bs.getD i 0
  if bs.length = 7 then some 7
  else if byte 4 == dash then
    if byte 5 == week then
      if 8 < bs.length && byte 8 == dash then
        -- A dash may belong to the date or divide it from the time. With two digits behind
        -- it these are hours.
        if bs.length = 9 then none
        else if 10 < bs.length && isDigit (byte 10) then some 8
        else some 10
      else some 8
    else some 10
  else if byte 4 == week then
    -- Digits of a time come in pairs, so an odd one out is the day of the week.
    let stop := 7 + ((bs.drop 7).takeWhile isDigit).length
    if stop < 9 then some stop
    else if stop % 2 = 0 then some 7
    else some 8
  else some 8

def day? (bs : Bytes) (length : Nat) : Option Nat := do
  let (year, rest) ← digits? 4 bs
  let dashed := head rest == dash
  let rest := if dashed then rest.tail else rest
  if head rest == week then
    let (number, rest) ← digits? 2 rest.tail
    if bs.length - rest.length < length then
      if dashed && head rest != dash then none
      else
        let (dayOfWeek, _) ← digits? 1 (if dashed then rest.tail else rest)
        Calendar.dayOfWeekDate? year number dayOfWeek
    else Calendar.dayOfWeekDate? year number 1
  else
    let (month, rest) ← digits? 2 rest
    if dashed && head rest != dash then none
    else
      let (day, rest) ← digits? 2 (if dashed then rest.tail else rest)
      let date : Calendar.Date := ⟨year, month, day⟩
      if bs.length - rest.length = length && date.isValid then some date.toDay else none

structure Clock where
  fields : List Nat
  micros : Nat
  ends : Bool

namespace Clock

def hour (c : Clock) : Nat := c.fields.getD 0 0
def minute (c : Clock) : Nat := c.fields.getD 1 0
def second (c : Clock) : Nat := c.fields.getD 2 0

def isValid (c : Clock) : Bool := c.hour < 24 && c.minute < 60 && c.second < 60

def seconds (c : Clock) : Nat := c.hour * 3600 + c.minute * 60 + c.second

def toMicros (c : Clock) : Int := (c.seconds * 1000000 + c.micros : Nat)

-- The clock as an offset. One of less than a second is none.
def toOffset (c : Clock) (negative : Bool) : Int :=
  if c.seconds = 0 then 0 else if negative then -c.toMicros else c.toMicros

-- Up to six digits of a fraction; further digits are skipped.
def fraction? (fields : List Nat) (bs : Bytes) (left : Int) : Option Clock := do
  let count := min 6 left.toNat
  let (n, rest) ← digits? count bs
  some ⟨fields, n * Nat.pow 10 (6 - count), head (rest.dropWhile isDigit) == 0⟩

-- Reads the fields that are still missing. `left` is the number of bytes before the end of
-- the clock, and `colons` tells whether colons stand between the fields: the first field
-- decides that.
def read? (missing : Nat) (colons : Bool) (fields : List Nat) (bs : Bytes) (left : Int) : Option Clock :=
  match missing with
  | 0 => fraction? fields bs left
  | missing + 1 =>
      match digits? 2 bs with
      | none => none
      | some (n, rest) =>
          let c := head rest
          let colons := if fields.isEmpty then c == colon else colons
          let fields := fields ++ [n]
          if left - 3 ≤ 0 then some ⟨fields, 0, c == 0⟩
          else if colons && c == colon then read? missing colons fields rest.tail (left - 3)
          else if c == point || c == comma then fraction? fields rest.tail (left - 3)
          else if !colons then read? missing colons fields rest (left - 2)
          else none

end Clock

def isSign (b : UInt8) : Bool := b == plus || b == dash

def time? (bs : Bytes) : Option (Int × Option Int) := do
  let length := (bs.takeWhile (!isSign ·)).length
  let clock ← Clock.read? 3 true [] bs length
  match bs.drop length with
  | [] => if clock.ends && clock.isValid then some (clock.toMicros, none) else none
  | sign :: rest =>
      let offset ← Clock.read? 3 true [] rest rest.length
      if offset.ends && clock.isValid && offset.toMicros < 86400 * 1000000 then
        some (clock.toMicros, some (offset.toOffset (sign == dash)))
      else none

-- The number of bytes of the character that begins with a byte.
def characterLength (b : UInt8) : Nat :=
  if b < 0x80 then 1 else if b < 0xE0 then 2 else if b < 0xF0 then 3 else 4

-- The letter Z stands for the offset zero, wherever it occurs.
def withOffsets (s : String) : List Char :=
  s.toList.flatMap fun c => if c == 'Z' then "+00:00".toList else [c]

def parse (s : String) : Option Instant := do
  let cs := withOffsets s
  if cs.length < 7 then none
  else
    let bs : Bytes := (String.ofList cs).toUTF8.toList
    let length ← dateLength? bs
    let day ← day? bs length
    let midnight : Int := day * (86400 * 1000000)
    if bs.length ≤ length then some ⟨false, midnight⟩
    else
      let rest := bs.drop length
      let (time, offset) ← time? (rest.drop (characterLength (head rest)))
      match offset with
      | none => some ⟨false, midnight + time⟩
      | some offset => some ⟨true, midnight + time - offset⟩

end Instant
end Orchestration
