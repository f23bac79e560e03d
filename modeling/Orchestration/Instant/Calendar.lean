namespace Orchestration.Calendar

def isLeap (year : Nat) : Bool := year % 4 == 0 && (year % 100 != 0 || year % 400 == 0)

def daysInMonth (year month : Nat) : Nat :=
  match month with
  | 1 | 3 | 5 | 7 | 8 | 10 | 12 => 31
  | 4 | 6 | 9 | 11 => 30
  | 2 => if isLeap year then 29 else 28
  | _ => 0

def daysBeforeYear (year : Nat) : Nat :=
  let past := year - 1
  past * 365 + past / 4 - past / 100 + past / 400

def daysBeforeMonth (year month : Nat) : Nat :=
  (List.range (month - 1)).foldl (fun days m => days + daysInMonth year (m + 1)) 0

structure Date where
  year : Nat
  month : Nat
  day : Nat
  deriving DecidableEq, Repr

namespace Date

def isValid (d : Date) : Bool :=
  1 ≤ d.year && d.year ≤ 9999 && 1 ≤ d.day && d.day ≤ daysInMonth d.year d.month

-- The number of the day. The first of January of the year 1 is day 1.
def toDay (d : Date) : Nat := daysBeforeYear d.year + daysBeforeMonth d.year d.month + d.day

end Date

-- The last day of the calendar.
def lastDay : Nat := daysBeforeYear 10000

-- The day of the week of a day, Monday being zero.
def weekday (day : Nat) : Nat := (day + 6) % 7

-- The Monday of the first week of a year: the week that holds its first Thursday.
def firstMonday (year : Nat) : Int :=
  let first := daysBeforeYear year + 1
  let monday : Int := first - weekday first
  if weekday first > 3 then monday + 7 else monday

def hasLongYear (year : Nat) : Bool :=
  let first := weekday (daysBeforeYear year + 1)
  first == 3 || (first == 2 && isLeap year)

-- The day that a year, a week and a day of the week name.
def dayOfWeekDate? (year week dayOfWeek : Nat) : Option Nat :=
  if year = 0 || week = 0 || 53 < week || (week = 53 && !hasLongYear year) then none
  else if dayOfWeek = 0 || 7 < dayOfWeek then none
  else
    let day := firstMonday year + (week - 1) * 7 + (dayOfWeek - 1)
    if 1 ≤ day && day ≤ lastDay then some day.toNat else none

example : (⟨1970, 1, 1⟩ : Date).toDay = 719163 ∧ weekday 719163 = 3 := by decide +kernel
example : dayOfWeekDate? 2020 53 7 = some (⟨2021, 1, 3⟩ : Date).toDay := by decide +kernel

end Orchestration.Calendar
