import Orchestration.Number.Binary64

namespace Orchestration

-- The fewest digits that are read back as a number, and of those the nearest: grids of one digit, two digits and so
-- on are tried, on each of which only the two neighbours of the value come into question.
structure Decimal where
  digits : List Char
  power : Int
  deriving DecidableEq, Repr

namespace Decimal

def digitCount (n : Nat) : Nat := (Nat.toDigits 10 n).length

-- The `k` with `10 ^ (k - 1) ≤ num / den < 10 ^ k`, for a positive quotient.
def magnitude (num den : Nat) : Int :=
  let k : Int := (digitCount num : Int) - digitCount den
  let reaches := if 0 ≤ k then den * Nat.pow 10 k.toNat ≤ num else den ≤ num * Nat.pow 10 (-k).toNat
  if reaches then k + 1 else k

-- The neighbours of `num / den` among the multiples of `10 ^ power`, the nearer one first and
-- of two that are equally near the even one.
def neighbours (num den : Nat) (power : Int) : List Nat :=
  let (n, d) :=
    if 0 ≤ power then (num, den * Nat.pow 10 power.toNat) else (num * Nat.pow 10 (-power).toNat, den)
  let below := n / d
  let twice := 2 * (n % d)
  if twice < d || (twice == d && below % 2 == 0) then [below, below + 1] else [below + 1, below]

def ofMultiple (multiple : Nat) (power : Int) : Decimal :=
  let written := Nat.toDigits 10 multiple
  let kept := (written.reverse.dropWhile (· == '0')).reverse
  ⟨kept, power + (written.length - kept.length : Nat)⟩

def onGrid? (place : Fin Binary64.places) (size : Nat) : Option Decimal :=
  let (num, den) := Binary64.quotient place
  let power := magnitude num den - size
  ((neighbours num den power).find? fun m =>
    Binary64.ofDecimal false m power == .finite false place).map fun m => ofMultiple m power

-- Every digit of the magnitude. It is the answer only if no grid has one.
def exact (place : Fin Binary64.places) : Decimal :=
  let e := Binary64.exponent place
  let m := Binary64.significand place
  if 0 ≤ e then ofMultiple (m * Nat.pow 2 e.toNat) 0 else ofMultiple (m * Nat.pow 5 (-e).toNat) e

def shortest (place : Fin Binary64.places) : Decimal :=
  if place.val = 0 then ⟨['0'], 0⟩
  else ((List.range 17).findSome? fun i => onGrid? place (i + 1)).getD (exact place)

end Decimal

-- How a decimal is laid out. A number whose leading digit stands for a power of ten from
-- `least` to `most` is written with a point, another one with an exponent of at least
-- `exponentWidth` digits.
structure NumberLayout where
  least : Int
  most : Int
  exponentWidth : Nat
  deriving DecidableEq, Repr

namespace NumberLayout

-- Numbers in values that are shown or exchanged: `0.0001`, `1e-05`, `1e+16`.
def shown : NumberLayout := ⟨-4, 15, 2⟩

-- Numbers in printed records: `0.00001`, `1e-6`, `1e+16`.
def record : NumberLayout := ⟨-5, 15, 1⟩

def zeros (n : Nat) : List Char := List.replicate n '0'

-- With a point: never without a digit on either side of it.
def positional (d : Decimal) : List Char :=
  let point : Int := d.digits.length + d.power
  if point ≤ 0 then '0' :: '.' :: zeros (-point).toNat ++ d.digits
  else if d.digits.length ≤ point then d.digits ++ zeros d.power.toNat ++ ['.', '0']
  else d.digits.take point.toNat ++ '.' :: d.digits.drop point.toNat

def exponential (width : Nat) (d : Decimal) : List Char :=
  let e : Int := d.digits.length + d.power - 1
  let mantissa := match d.digits with
    | first :: second :: rest => first :: '.' :: second :: rest
    | digits => digits
  let written := Nat.toDigits 10 e.natAbs
  mantissa ++ 'e' :: (if e < 0 then '-' else '+') :: zeros (width - written.length) ++ written

def writeDecimal (layout : NumberLayout) (d : Decimal) : List Char :=
  let e : Int := d.digits.length + d.power - 1
  if layout.least ≤ e && e ≤ layout.most then positional d else exponential layout.exponentWidth d

def writeFinite (layout : NumberLayout) (negative : Bool) (place : Fin Binary64.places) :
    List Char :=
  (if negative then ['-'] else []) ++ layout.writeDecimal (Decimal.shortest place)

example : String.ofList (shown.writeDecimal ⟨['1', '2', '3'], -5⟩) = "0.00123" := by decide +kernel
example : String.ofList (shown.writeDecimal ⟨['1'], 16⟩) = "1e+16" := by decide +kernel
example : String.ofList (shown.writeDecimal ⟨['1'], 15⟩) = "1000000000000000.0" := by decide +kernel
example : String.ofList (shown.writeDecimal ⟨['1', '5'], -6⟩) = "1.5e-05" := by decide +kernel
example : String.ofList (record.writeDecimal ⟨['1', '5'], -6⟩) = "0.000015" := by decide +kernel

end NumberLayout

namespace Decimal

theorem readsBack_of_find {place : Fin Binary64.places} {power : Int} {ms : List Nat} {m : Nat}
    (h : ms.find? (fun m => Binary64.ofDecimal false m power == .finite false place) = some m) :
    Binary64.ofDecimal false m power = .finite false place := by
  simpa using List.find?_some h

-- The least positive number has one digit, and that is the nearer of the two that read back.
example : shortest ⟨1, by decide⟩ = ⟨['5'], -324⟩ := by decide +kernel

end Decimal
end Orchestration
