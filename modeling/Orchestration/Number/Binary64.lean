namespace Orchestration

-- A finite number is a sign and the place of its magnitude among all finite magnitudes in increasing order. So
-- magnitudes are ordered as their places are, and rounding up at the end of a binade is no case of its own. Here is
-- the number of places.
abbrev Binary64.places : Nat := 0x7FF0000000000000

inductive Binary64 where
  -- What is not a number. Those that documents write as a word are one shared value, which is
  -- the same as itself; any other one is the same as nothing.
  | nan (shared : Bool)
  | infinite (negative : Bool)
  | finite (negative : Bool) (place : Fin Binary64.places)
  deriving DecidableEq, Repr

namespace Binary64

-- The leading bit of a full significand of 53 bits, and the number of places of a binade.
abbrev hidden : Nat := 0x10000000000000

def zero : Binary64 := .finite false ⟨0, by decide⟩

instance : Inhabited Binary64 := ⟨zero⟩

-- The magnitude at a place is `significand * 2 ^ exponent`.
def significand (place : Nat) : Nat :=
  if place / hidden = 0 then place else place % hidden + hidden

def exponent (place : Nat) : Int :=
  if place / hidden = 0 then -1074 else (place / hidden : Nat) - 1075

-- The nearest integer to a quotient, a half going to the even neighbour.
def roundQuotient (num den : Nat) : Nat :=
  let quotient := num / den
  let twice := 2 * (num % den)
  if twice < den then quotient
  else if den < twice then quotient + 1
  else quotient + quotient % 2

-- The quotient `num / den` divided by `2 ^ e`, as a pair.
def scaled (num den : Nat) (e : Int) : Nat × Nat :=
  if 0 ≤ e then (num, den * Nat.pow 2 e.toNat) else (num * Nat.pow 2 (-e).toNat, den)

-- The exponent of the last bit kept for `num / den`: 53 bits, or fewer below the
-- smallest normal magnitude.
def lastBit (num den : Nat) : Int :=
  let guess : Int := (num.log2 : Int) - den.log2
  let (n, d) := scaled num den guess
  max (-1074) ((if n < d then guess - 1 else guess) - 52)

-- The number nearest to `num / den`, ties to even; past the largest one, infinity.
def ofQuotient (negative : Bool) (num den : Nat) : Binary64 :=
  if num = 0 then .finite negative ⟨0, by decide⟩
  else
    let e := lastBit num den
    let (n, d) := scaled num den e
    let place := (e + 1074).toNat * hidden + roundQuotient n d
    if h : place < places then .finite negative ⟨place, h⟩ else .infinite negative

def ofInt (n : Int) : Binary64 := ofQuotient (n < 0) n.natAbs 1

def ofDecimal (negative : Bool) (digits : Nat) (power : Int) : Binary64 :=
  -- Far outside the range the answer is known without the power of ten.
  let size : Int := (Nat.toDigits 10 digits).length
  if digits = 0 then .finite negative ⟨0, by decide⟩
  else if 400 < size + power then .infinite negative
  else if size + power < -400 then .finite negative ⟨0, by decide⟩
  else if 0 ≤ power then ofQuotient negative (digits * Nat.pow 10 power.toNat) 1
  else ofQuotient negative digits (Nat.pow 10 (-power).toNat)

-- The place with its sign; `none` for what is not a number.
def rank : Binary64 → Option Int
  | .nan _ => none
  | .infinite negative => some (if negative then -(places : Int) else places)
  | .finite negative place => some (if negative then -(place.val : Int) else place.val)

-- Comparison as numbers: zeros are equal whatever their signs, and no comparison
-- with what is not a number holds.
def lt (x y : Binary64) : Bool :=
  match x.rank, y.rank with
  | some a, some b => a < b
  | _, _ => false

def same (x y : Binary64) : Bool :=
  match x, y with
  | .nan a, .nan b => a && b
  | _, _ =>
      match x.rank, y.rank with
      | some a, some b => a == b
      | _, _ => false

def isFinite : Binary64 → Bool
  | .finite .. => true
  | _ => false

-- The value of a finite number as numerator and denominator, without its sign.
def quotient (place : Nat) : Nat × Nat :=
  let e := exponent place
  if 0 ≤ e then (significand place * Nat.pow 2 e.toNat, 1)
  else (significand place, Nat.pow 2 (-e).toNat)

def toInt? : Binary64 → Option Int
  | .finite negative place =>
      let (n, d) := quotient place
      if n % d = 0 then some (if negative then -((n / d : Nat) : Int) else (n / d : Nat)) else none
  | _ => none

def scaleBy (k : Nat) : Binary64 → Binary64
  | .finite negative place =>
      let (n, d) := quotient place
      ofQuotient negative (n * k) d
  | x => x

-- The nearest multiple of a tenth, a half going to the even tenth, read back as a number.
def roundToTenth : Binary64 → Binary64
  | .finite negative place =>
      let (n, d) := quotient place
      ofQuotient negative (roundQuotient (10 * n) d) 10
  | x => x

-- 2/3 as a percentage is the nearest tenth of the nearest number.
example : (roundToTenth (scaleBy 100 (ofQuotient false 2 3))) = ofDecimal false 667 (-1) := by
  decide +kernel

example : ofDecimal false 1 400 = .infinite false ∧ ofDecimal true 1 (-400) = .finite true 0 := by
  decide +kernel

end Binary64
end Orchestration
