import Orchestration.Json.Printer
import Orchestration.Json.Reader
import Orchestration.Proofs.DecimalValues

namespace Orchestration.Json

def Digits (cs : List Char) : Prop := ∀ c ∈ cs, c.isDigit = true

theorem digit_ne {c d : Char} (digit : c.isDigit = true) (other : d.isDigit = false) : c ≠ d := by
  rintro rfl
  rw [digit] at other
  cases other

theorem digits_zeros (n : Nat) : Digits (List.replicate n '0') := by
  intro c mem
  rw [List.eq_of_mem_replicate mem]
  rfl

theorem Digits.append (first : Digits cs) (second : Digits more) : Digits (cs ++ more) := by
  intro c mem
  exact (List.mem_append.mp mem).elim (first c) (second c)

-- Where a run of digits ends.
def Stopped (rest : List Char) : Prop := ∀ c ∈ rest.head?, c.isDigit = false

-- Where a number ends, whatever it looks like.
def Ended (rest : List Char) : Prop :=
  ∀ c ∈ rest.head?, c.isDigit = false ∧ c ≠ '.' ∧ c ≠ 'e' ∧ c ≠ 'E'

theorem Ended.stopped (ended : Ended rest) : Stopped rest := fun c mem => (ended c mem).1

theorem stopped_cons (other : c.isDigit = false) (rest : List Char) : Stopped (c :: rest) := by
  intro d same
  cases same
  exact other

theorem takeWhile_digits (digits : Digits ds) (stopped : Stopped rest) :
    (ds ++ rest).takeWhile Char.isDigit = ds := by
  rw [List.takeWhile_append_of_pos digits]
  cases rest with
  | nil => simp
  | cons c more => simp [stopped c rfl]

theorem dropWhile_digits (digits : Digits ds) (stopped : Stopped rest) :
    (ds ++ rest).dropWhile Char.isDigit = rest := by
  rw [List.dropWhile_append_of_pos digits]
  cases rest with
  | nil => rfl
  | cons c more => simp [stopped c rfl]

theorem whole_digits (digits : Digits ds) (front : ds.head? = some '0' → ds = ['0']) (given : ds ≠ [])
    (stopped : Stopped rest) : whole (ds ++ rest) = ds := by
  by_cases zero : ds.head? = some '0'
  · rw [front zero]
    rfl
  · cases ds with
    | nil => exact absurd rfl given
    | cons c more =>
      have other : c ≠ '0' := fun same => zero (congrArg some same)
      rw [List.cons_append, whole]
      · exact takeWhile_digits digits stopped
      · rintro rest' same
        cases same
        exact other rfl

theorem fraction?_point (given : fs ≠ []) (digits : Digits fs) (stopped : Stopped rest) :
    fraction? ('.' :: (fs ++ rest)) = some (fs, rest) := by
  have nonempty : fs.isEmpty = false := by simpa using given
  simp only [fraction?, takeWhile_digits digits stopped, dropWhile_digits digits stopped, nonempty,
    Bool.false_eq_true, if_false]

theorem fraction?_none (other : ∀ c ∈ rest.head?, c ≠ '.') : fraction? rest = none := by
  cases rest with
  | nil => rfl
  | cons c more =>
    rw [fraction?]
    rintro rest' same
    cases same
    exact other '.' rfl rfl

theorem power?_none (other : ∀ c ∈ rest.head?, c ≠ 'e' ∧ c ≠ 'E') : power? rest = none := by
  cases rest with
  | nil => rfl
  | cons c more =>
    obtain ⟨small, large⟩ := other c rfl
    simp [power?, small, large]

-- An exponent as the layouts write it.
def exponentText (width : Nat) (e : Int) : List Char :=
  'e' :: (if e < 0 then '-' else '+') ::
    (List.replicate (width - (Nat.toDigits 10 e.natAbs).length) '0' ++ Nat.toDigits 10 e.natAbs)

theorem power?_written (width : Nat) (e : Int) (stopped : Stopped rest) :
    power? (exponentText width e ++ rest) = some (e, rest) := by
  let written := List.replicate (width - (Nat.toDigits 10 e.natAbs).length) '0' ++ Nat.toDigits 10 e.natAbs
  have digits : Digits written :=
    (digits_zeros _).append fun c mem => Nat.isDigit_of_mem_toDigits (by decide) (by decide) mem
  have value : Numeral.ofDigits written = e.natAbs := by
    rw [Numeral.ofDigits_zeros_append, Numeral.ofDigits_toDigits]
  have given : written.isEmpty = false := by
    rw [List.isEmpty_eq_false_iff]
    exact List.append_ne_nil_of_right_ne_nil _ Nat.toDigits_ne_nil
  show power? ('e' :: (if e < 0 then '-' else '+') :: (written ++ rest)) = some (e, rest)
  by_cases below : e < 0
  · have signed : -|e| = e := by rw [abs_of_neg below, neg_neg]
    simp [power?, below, takeWhile_digits digits stopped, dropWhile_digits digits stopped, given, value, signed]
  · have signed : (e.natAbs : Int) = e := by omega
    simp [power?, below, takeWhile_digits digits stopped, dropWhile_digits digits stopped, given, value, signed]

-- A point with digits behind it, or nothing.
def pointText : List Char → List Char
  | [] => []
  | fs => '.' :: fs

section Unsigned

variable {w f rest : List Char} (negative : Bool) (digits : Digits w)
  (front : w.head? = some '0' → w = ['0']) (given : w ≠ [])

include digits front given

theorem unsigned_point (fraction : Digits f) (some : f ≠ []) (ended : Ended rest) :
    unsigned negative (w ++ '.' :: (f ++ rest)) =
      .ok (.float (Binary64.ofDecimal negative (Numeral.ofDigits (w ++ f)) (-(f.length : Int))), rest) := by
  have nonempty : w.isEmpty = false := by simpa using given
  have first : whole (w ++ '.' :: (f ++ rest)) = w :=
    whole_digits digits front given (stopped_cons rfl _)
  have last : power? rest = none := power?_none fun c mem => (ended c mem).2.2
  simp only [unsigned, first, nonempty, List.drop_left, fraction?_point some fraction ended.stopped, last,
    Bool.false_eq_true, if_false, if_true]

theorem unsigned_power (fraction : Digits f) (width : Nat) (e : Int) (stopped : Stopped rest) :
    unsigned negative (w ++ (pointText f ++ (exponentText width e ++ rest))) =
      .ok (.float (Binary64.ofDecimal negative (Numeral.ofDigits (w ++ f)) (e - f.length)), rest) := by
  have nonempty : w.isEmpty = false := by simpa using given
  have power := power?_written width e stopped
  have behind : Stopped (exponentText width e ++ rest) := stopped_cons rfl _
  cases f with
  | nil =>
    have first : whole (w ++ (exponentText width e ++ rest)) = w := whole_digits digits front given behind
    have pointless : fraction? (exponentText width e ++ rest) = none := by
      refine fraction?_none fun c mem => ?_
      cases mem
      decide
    simp only [unsigned, pointText, List.nil_append, first, nonempty, List.drop_left, pointless, power,
      Bool.false_eq_true, if_false]
  | cons point more =>
    have first : whole (w ++ '.' :: (point :: more ++ (exponentText width e ++ rest))) = w :=
      whole_digits digits front given (stopped_cons rfl _)
    have fractional := fraction?_point (List.cons_ne_nil point more) fraction behind
    simp only [unsigned, pointText, List.cons_append] at first fractional ⊢
    simp only [first, nonempty, List.drop_left, fractional, power, Bool.false_eq_true, if_false]

theorem unsigned_int (ended : Ended rest) (short : w.length ≤ Numeral.longestInteger) :
    unsigned negative (w ++ rest) =
      .ok (.int (if negative then -(Numeral.ofDigits w : Int) else Numeral.ofDigits w), rest) := by
  have nonempty : w.isEmpty = false := by simpa using given
  have first : whole (w ++ rest) = w := whole_digits digits front given ended.stopped
  have pointless : fraction? rest = none := fraction?_none fun c mem => (ended c mem).2.1
  have last : power? rest = none := power?_none fun c mem => (ended c mem).2.2
  have fits : ¬ Numeral.longestInteger < w.length := Nat.not_lt.mpr short
  simp only [unsigned, first, nonempty, List.drop_left, pointless, last, fits, Bool.false_eq_true, if_false]

end Unsigned

theorem number_unsigned (other : cs.head? ≠ some '-') : number cs = unsigned false cs := by
  rw [number]
  rintro rest rfl
  exact other rfl

section Pointed

variable {ds rest : List Char} (negative : Bool) (digits : Digits ds) (given : ds ≠ [])

include digits given

theorem unsigned_pointAhead (z : Nat) (ended : Ended rest) :
    unsigned negative ('0' :: '.' :: (List.replicate z '0' ++ ds ++ rest)) =
      .ok (.float (Binary64.ofDecimal negative (Numeral.ofDigits ds) (-((z + ds.length : Nat) : Int))), rest) := by
  have read := unsigned_point (w := ['0']) (f := List.replicate z '0' ++ ds) negative (digits_zeros 1)
    (fun _ => rfl) (by decide) ((digits_zeros z).append digits) (List.append_ne_nil_of_right_ne_nil _ given) ended
  have value : Numeral.ofDigits (['0'] ++ (List.replicate z '0' ++ ds)) = Numeral.ofDigits ds := by
    rw [← List.replicate_one, Numeral.ofDigits_zeros_append, Numeral.ofDigits_zeros_append]
  rw [value, List.length_append, List.length_replicate] at read
  exact read

-- The zero behind the point is worth nothing.
theorem unsigned_pointBehind (z : Nat) (front : ds.head? = some '0' → ds ++ List.replicate z '0' = ['0'])
    (ended : Ended rest) : unsigned negative (ds ++ List.replicate z '0' ++ '.' :: '0' :: rest) =
      .ok (.float (Binary64.ofDecimal negative (Numeral.ofDigits ds) z), rest) := by
  have one : (ds ++ List.replicate z '0').head? = some '0' → ds ++ List.replicate z '0' = ['0'] := by
    intro zero
    rw [List.head?_append_of_ne_nil _ given] at zero
    exact front zero
  have read := unsigned_point (f := ['0']) negative (digits.append (digits_zeros z)) one
    (List.append_ne_nil_of_left_ne_nil given _) (digits_zeros 1) (by decide) ended
  have value : Numeral.ofDigits (ds ++ List.replicate z '0' ++ ['0']) = Numeral.ofDigits ds * 10 ^ (z + 1) := by
    rw [List.append_assoc, ← List.replicate_succ', Numeral.ofDigits_append_zeros]
  have power : -(['0'].length : Int) + (z + 1 : Nat) = z := by
    simp only [List.length_singleton]
    omega
  rw [value, Binary64.ofDecimal_shifted, power] at read
  exact read

omit given in
theorem unsigned_pointBetween {k : Nat} (front : ds.head? ≠ some '0') (ahead : 0 < k) (behind : k < ds.length)
    (ended : Ended rest) : unsigned negative (ds.take k ++ '.' :: (ds.drop k ++ rest)) =
      .ok (.float (Binary64.ofDecimal negative (Numeral.ofDigits ds) (-((ds.length - k : Nat) : Int))), rest) := by
  have leading : ds.take k ≠ [] := by
    rw [← List.length_pos_iff, List.length_take]
    omega
  have trailing : ds.drop k ≠ [] := by
    rw [← List.length_pos_iff, List.length_drop]
    omega
  have one : (ds.take k).head? = some '0' → ds.take k = ['0'] := by
    intro zero
    rw [List.head?_take, if_neg ahead.ne'] at zero
    exact absurd zero front
  have read := unsigned_point negative (fun c mem => digits c (List.mem_of_mem_take mem)) one leading
    (fun c mem => digits c (List.mem_of_mem_drop mem)) trailing ended
  rw [List.take_append_drop, List.length_drop] at read
  exact read

end Pointed

section Written

variable {d : Decimal} {rest : List Char} (negative : Bool) (digital : d.Digital)

include digital

-- The point lies in front of the digits, behind them or between them.
theorem unsigned_positional (ended : Ended rest) : unsigned negative (NumberLayout.positional d ++ rest) =
    .ok (.float (Binary64.ofDecimal negative (Numeral.ofDigits d.digits) d.power), rest) := by
  obtain ⟨given, digits, front⟩ := digital
  have counted := List.length_pos_of_ne_nil given
  unfold NumberLayout.positional NumberLayout.zeros
  dsimp only
  split
  · have read := unsigned_pointAhead negative digits given (-(d.digits.length + d.power)).toNat ended
    have power : -(((-(d.digits.length + d.power)).toNat + d.digits.length : Nat) : Int) = d.power := by omega
    rw [power] at read
    exact read
  · split
    · have single : d.digits.head? = some '0' → d.digits ++ List.replicate d.power.toNat '0' = ['0'] := by
        intro zero
        rw [front zero]
        rfl
      have read := unsigned_pointBehind negative digits given d.power.toNat single ended
      have power : (d.power.toNat : Int) = d.power := by omega
      rw [power] at read
      simpa using read
    · have nonzero : d.digits.head? ≠ some '0' := by
        intro zero
        have single := front zero
        have length := congrArg (fun d : Decimal => d.digits.length) single
        have power := congrArg Decimal.power single
        simp only [List.length_singleton] at length power
        omega
      have read := unsigned_pointBetween negative digits (k := (d.digits.length + d.power).toNat) nonzero
        (by omega) (by omega) ended
      have power : -((d.digits.length - (d.digits.length + d.power).toNat : Nat) : Int) = d.power := by omega
      rw [power] at read
      simpa using read

theorem unsigned_exponential (width : Nat) (ended : Ended rest) :
    unsigned negative (NumberLayout.exponential width d ++ rest) =
      .ok (.float (Binary64.ofDecimal negative (Numeral.ofDigits d.digits) d.power), rest) := by
  obtain ⟨given, digits, _⟩ := digital
  cases shape : d.digits with
  | nil => exact absurd shape given
  | cons first more =>
    rw [shape] at digits
    have read := unsigned_power (w := [first]) (f := more) negative
      (fun c mem => digits c (List.mem_of_mem_head? (List.mem_singleton.mp mem ▸ rfl)))
      (fun zero => congrArg (fun c => [c]) (Option.some.inj zero)) (by simp)
      (fun c mem => digits c (List.mem_cons_of_mem _ mem)) width (d.digits.length + d.power - 1) ended.stopped
    have mantissa : NumberLayout.exponential width d =
        [first] ++ (pointText more ++ exponentText width (d.digits.length + d.power - 1)) := by
      unfold NumberLayout.exponential exponentText
      rw [shape]
      cases more <;> simp [pointText, NumberLayout.zeros]
    have power : ((d.digits.length : Int) + d.power - 1) - more.length = d.power := by
      rw [shape, List.length_cons]
      push_cast
      omega
    rw [power] at read
    rw [mantissa, List.append_assoc, List.append_assoc]
    exact read

theorem unsigned_written (layout : NumberLayout) (ended : Ended rest) :
    unsigned negative (layout.writeDecimal d ++ rest) =
      .ok (.float (Binary64.ofDecimal negative (Numeral.ofDigits d.digits) d.power), rest) := by
  unfold NumberLayout.writeDecimal
  dsimp only
  split
  · exact unsigned_positional negative digital ended
  · exact unsigned_exponential negative digital layout.exponentWidth ended

omit negative in
theorem writeDecimal_front (layout : NumberLayout) :
    ∃ c more, layout.writeDecimal d = c :: more ∧ c.isDigit = true := by
  obtain ⟨given, digits, _⟩ := digital
  cases shape : d.digits with
  | nil => exact absurd shape given
  | cons first more =>
    have leading : first.isDigit = true := digits first (by rw [shape]; exact List.mem_cons_self)
    unfold NumberLayout.writeDecimal
    dsimp only
    split
    · unfold NumberLayout.positional
      dsimp only
      split
      · exact ⟨'0', _, rfl, rfl⟩
      · split
        · exact ⟨first, _, by rw [shape]; rfl, leading⟩
        · obtain ⟨n, point⟩ : ∃ n : Nat, (d.digits.length + d.power).toNat = n + 1 :=
            ⟨(d.digits.length + d.power).toNat - 1, by omega⟩
          exact ⟨first, _, by rw [point, shape, List.take_succ_cons]; rfl, leading⟩
    · unfold NumberLayout.exponential
      rw [shape]
      cases more with
      | nil => exact ⟨first, _, rfl, leading⟩
      | cons second more => exact ⟨first, _, rfl, leading⟩

end Written

-- How every number begins.
def Numeric (cs : List Char) : Prop :=
  ∃ c more, c.isDigit = true ∧ (cs = c :: more ∨ cs = '-' :: c :: more)

theorem number_signed (negative : Bool) (digit : c.isDigit = true) (more : List Char) :
    number ((if negative then ['-'] else []) ++ c :: more) = unsigned negative (c :: more) := by
  cases negative with
  | true => rfl
  | false => exact number_unsigned fun same => digit_ne digit rfl (Option.some.inj same)

theorem number_finite (layout : NumberLayout) (negative : Bool) (place : Fin Binary64.places)
    (ended : Ended rest) : number (layout.writeFinite negative place ++ rest) =
      .ok (.float (.finite negative place), rest) := by
  obtain ⟨digital, denotes⟩ := Decimal.shortest_reads place
  obtain ⟨c, more, front, digit⟩ := writeDecimal_front digital layout
  have read := unsigned_written negative digital layout ended
  rw [denotes] at read
  rw [NumberLayout.writeFinite, List.append_assoc]
  rw [front] at read ⊢
  rw [List.cons_append, number_signed negative digit]
  exact read

theorem numeric_finite (layout : NumberLayout) (negative : Bool) (place : Fin Binary64.places)
    (rest : List Char) : Numeric (layout.writeFinite negative place ++ rest) := by
  obtain ⟨digital, _⟩ := Decimal.shortest_reads place
  obtain ⟨c, more, front, digit⟩ := writeDecimal_front digital layout
  rw [NumberLayout.writeFinite, front]
  cases negative with
  | true => exact ⟨c, _, digit, Or.inr rfl⟩
  | false => exact ⟨c, _, digit, Or.inl rfl⟩

theorem toDigits_cons (n : Nat) : ∃ c more, Nat.toDigits 10 n = c :: more ∧ c.isDigit = true := by
  obtain ⟨c, more, written⟩ := List.exists_cons_of_ne_nil (Nat.toDigits_ne_nil (n := n) (b := 10))
  refine ⟨c, more, written, Nat.isDigit_of_mem_toDigits (b := 10) (n := n) (by decide) (by decide) ?_⟩
  rw [written]
  exact List.mem_cons_self

theorem writeInt_eq (n : Int) :
    writeInt n = (if decide (n < 0) then ['-'] else []) ++ Nat.toDigits 10 n.natAbs := by
  unfold writeInt
  by_cases below : n < 0
  · simp [below]
  · simp [below]

theorem number_int {n : Int} (short : (Nat.toDigits 10 n.natAbs).length ≤ Numeral.longestInteger)
    (ended : Ended rest) : number (writeInt n ++ rest) = .ok (.int n, rest) := by
  obtain ⟨c, more, written, digit⟩ := toDigits_cons n.natAbs
  have front : (Nat.toDigits 10 n.natAbs).head? = some '0' → Nat.toDigits 10 n.natAbs = ['0'] := by
    intro zero
    rcases Nat.eq_zero_or_pos n.natAbs with none | given
    · rw [none, Nat.toDigits_zero]
    · exact absurd zero (toDigits_front given)
  have read := unsigned_int (decide (n < 0))
    (fun c mem => Nat.isDigit_of_mem_toDigits (by decide) (by decide) mem) front Nat.toDigits_ne_nil ended short
  rw [Numeral.ofDigits_toDigits] at read
  have value : (if decide (n < 0) = true then -(n.natAbs : Int) else n.natAbs) = n := by
    split
    · rename_i below
      have below := of_decide_eq_true below
      omega
    · rename_i above
      have above := of_decide_eq_false (Bool.eq_false_of_not_eq_true above)
      omega
  rw [value] at read
  rw [writeInt_eq, List.append_assoc]
  rw [written] at read ⊢
  rw [List.cons_append, number_signed _ digit]
  exact read

theorem numeric_int (n : Int) (rest : List Char) : Numeric (writeInt n ++ rest) := by
  obtain ⟨c, more, written, digit⟩ := toDigits_cons n.natAbs
  rw [writeInt_eq, written]
  cases decide (n < 0) with
  | true => exact ⟨c, _, digit, Or.inr rfl⟩
  | false => exact ⟨c, _, digit, Or.inl rfl⟩

-- What opens neither a string nor a list nor an object.
def Unopened (cs : List Char) : Prop := ∀ c ∈ cs.head?, c ≠ '\x22' ∧ c ≠ '[' ∧ c ≠ '\x7b'

theorem value_unopened (unopened : Unopened cs) (fuel levels : Nat) :
    value (fuel + 1) levels cs = (word? cs).elim (number cs) .ok := by
  have quote : ∀ rest, cs = '\x22' :: rest → False := by
    rintro rest rfl
    exact (unopened _ rfl).1 rfl
  have bracket : ∀ rest, cs = '[' :: rest → False := by
    rintro rest rfl
    exact (unopened _ rfl).2.1 rfl
  have brace : ∀ rest, cs = '\x7b' :: rest → False := by
    rintro rest rfl
    exact (unopened _ rfl).2.2 rfl
  cases word : word? cs with
  | some read => simp only [value, word, Option.elim_some]
  | none => simp only [value, word, Option.elim_none]

-- A number is not taken for anything else.
theorem value_numeric (numeric : Numeric cs) (fuel levels : Nat) : value (fuel + 1) levels cs = number cs := by
  obtain ⟨c, more, digit, rfl | rfl⟩ := numeric
  · have wordless : word? (c :: more) = none := by
      have other : ∀ {d : Char}, d.isDigit = false → d ≠ c := fun none => (digit_ne digit none).symm
      simp [word?, other (d := 'n') rfl, other (d := 't') rfl, other (d := 'f') rfl, other (d := 'N') rfl,
        other (d := 'I') rfl, other (d := '-') rfl]
    have unopened : Unopened (c :: more) := by
      intro d same
      cases same
      exact ⟨digit_ne digit rfl, digit_ne digit rfl, digit_ne digit rfl⟩
    simpa only [wordless, Option.elim_none] using value_unopened unopened fuel levels
  · have wordless : word? ('-' :: c :: more) = none := by
      have other : 'I' ≠ c := (digit_ne digit rfl).symm
      simp [word?, other]
    have unopened : Unopened ('-' :: c :: more) := by
      intro d same
      cases same
      decide
    simpa only [wordless, Option.elim_none] using value_unopened unopened fuel levels

end Orchestration.Json
