import Orchestration.Proofs.DocumentText
import Orchestration.Text.Utf8

namespace Orchestration

namespace Text

theorem toNat_byte {n : Nat} (small : n < 256) : (UInt8.ofNat n).toNat = n := by
  rw [UInt8.toNat_ofNat']
  exact Nat.mod_eq_of_lt small

section Bytes

variable {n : Nat} (rest : List UInt8)

theorem decodeFrom?_begun {b : Begun} (small : n < 256) (begun : begun? true n = some b) :
    decodeFrom? none (UInt8.ofNat n :: rest) = decodeFrom? (some b) rest := by
  have high : ¬ n < 0x80 := by
    intro low
    rw [begun?, if_pos (by omega)] at begun
    cases begun
  rw [decodeFrom?, toNat_byte small, if_neg high, begun]

theorem decodeFrom?_following {missing value low high : Nat} (small : n < 256) (least : low ≤ n) (most : n ≤ high) :
    decodeFrom? (some ⟨missing + 2, value, low, high⟩) (UInt8.ofNat n :: rest) =
      decodeFrom? (some ⟨missing + 1, value * 64 + (n - 0x80), 0x80, 0xBF⟩) rest := by
  simp [decodeFrom?, toNat_byte small, least, most]

theorem decodeFrom?_last {value low high : Nat} (small : n < 256) (least : low ≤ n) (most : n ≤ high) :
    decodeFrom? (some ⟨1, value, low, high⟩) (UInt8.ofNat n :: rest) =
      (decodeFrom? none rest).map (Point.ofNat (value * 64 + (n - 0x80)) :: ·) := by
  simp [decodeFrom?, toNat_byte small, least, most]

theorem decodeFrom?_one (low : n < 0x80) :
    decodeFrom? none (UInt8.ofNat n :: rest) = (decodeFrom? none rest).map (.char (Char.ofNat n) :: ·) := by
  rw [decodeFrom?, toNat_byte (by omega), if_pos low]

theorem decodeFrom?_two (least : 0x80 ≤ n) (most : n < 0x800) :
    decodeFrom? none (UInt8.ofNat (0xC0 + n / 0x40) :: UInt8.ofNat (0x80 + n % 0x40) :: rest) =
      (decodeFrom? none rest).map (Point.ofNat n :: ·) := by
  have begun : begun? true (0xC0 + n / 0x40) = some ⟨1, n / 0x40, 0x80, 0xBF⟩ := by
    rw [begun?, if_neg (by omega), if_pos (by omega), Nat.add_sub_cancel_left]
  have value : n / 0x40 * 64 + (0x80 + n % 0x40 - 0x80) = n := by omega
  rw [decodeFrom?_begun _ (by omega) begun, decodeFrom?_last _ (by omega) (by omega) (by omega), value]

-- The second byte of three is bounded from below behind a first byte without a value, and that of four from
-- both sides.
theorem decodeFrom?_three (least : 0x800 ≤ n) (most : n < 0x10000) :
    decodeFrom? none (UInt8.ofNat (0xE0 + n / 0x1000) :: UInt8.ofNat (0x80 + n / 0x40 % 0x40) ::
      UInt8.ofNat (0x80 + n % 0x40) :: rest) = (decodeFrom? none rest).map (Point.ofNat n :: ·) := by
  have begun : begun? true (0xE0 + n / 0x1000) =
      some ⟨2, n / 0x1000, if n / 0x1000 = 0 then 0xA0 else 0x80, 0xBF⟩ := by
    rw [begun?, if_neg (by omega), if_neg (by omega), if_pos (by omega), Nat.add_sub_cancel_left]
    simp
  have value : (n / 0x1000 * 64 + (0x80 + n / 0x40 % 0x40 - 0x80)) * 64 + (0x80 + n % 0x40 - 0x80) = n := by omega
  rw [decodeFrom?_begun _ (by omega) begun, decodeFrom?_following _ (by omega) (by split <;> omega) (by omega),
    decodeFrom?_last _ (by omega) (by omega) (by omega), value]

theorem decodeFrom?_four (least : 0x10000 ≤ n) (most : n < 0x110000) :
    decodeFrom? none (UInt8.ofNat (0xF0 + n / 0x40000) :: UInt8.ofNat (0x80 + n / 0x1000 % 0x40) ::
      UInt8.ofNat (0x80 + n / 0x40 % 0x40) :: UInt8.ofNat (0x80 + n % 0x40) :: rest) =
      (decodeFrom? none rest).map (Point.ofNat n :: ·) := by
  have begun : begun? true (0xF0 + n / 0x40000) = some ⟨3, n / 0x40000, if n / 0x40000 = 0 then 0x90 else 0x80,
      if 0xF0 + n / 0x40000 = 0xF4 then 0x8F else 0xBF⟩ := by
    rw [begun?, if_neg (by omega), if_neg (by omega), if_neg (by omega), if_pos (by omega), Nat.add_sub_cancel_left]
    simp
  have value : ((n / 0x40000 * 64 + (0x80 + n / 0x1000 % 0x40 - 0x80)) * 64 + (0x80 + n / 0x40 % 0x40 - 0x80)) * 64 +
      (0x80 + n % 0x40 - 0x80) = n := by omega
  rw [decodeFrom?_begun _ (by omega) begun,
    decodeFrom?_following _ (by omega) (by split <;> omega) (by split <;> omega),
    decodeFrom?_following _ (by omega) (by omega) (by omega), decodeFrom?_last _ (by omega) (by omega) (by omega), value]

end Bytes

theorem ofNat_toNat (c : Char) : Point.ofNat c.toNat = .char c := by
  have valid : c.toNat < 0xD800 ∨ 0xDFFF < c.toNat ∧ c.toNat < 0x110000 := c.valid
  have other : isHalf c.toNat = false := by
    simp only [isHalf, Bool.and_eq_false_iff, decide_eq_false_iff_not]
    omega
  rw [Point.ofNat, other, Char.ofNat_toNat]
  rfl

-- A character is as many bytes long as its number needs.
theorem decodeFrom?_utf8 (c : Char) (rest : List UInt8) :
    decodeFrom? none (utf8 c ++ rest) = (decodeFrom? none rest).map (.char c :: ·) := by
  have valid : c.toNat < 0xD800 ∨ 0xDFFF < c.toNat ∧ c.toNat < 0x110000 := c.valid
  have same : c.val.toNat = c.toNat := rfl
  rw [utf8, String.utf8EncodeChar, same]
  split
  · rw [List.singleton_append, decodeFrom?_one _ (by omega), Char.ofNat_toNat]
  split
  · have bytes := decodeFrom?_two rest (n := c.toNat) (by omega) (by omega)
    rw [show 0xC0 + c.toNat / 0x40 = c.toNat / 0x40 % 32 + 192 by omega, Nat.add_comm 0x80, ofNat_toNat] at bytes
    exact bytes
  split
  · have bytes := decodeFrom?_three rest (n := c.toNat) (by omega) (by omega)
    rw [show 0xE0 + c.toNat / 0x1000 = c.toNat / 0x1000 % 16 + 224 by omega, Nat.add_comm 0x80, Nat.add_comm 0x80,
      ofNat_toNat] at bytes
    exact bytes
  · have bytes := decodeFrom?_four rest (n := c.toNat) (by omega) (by omega)
    rw [show 0xF0 + c.toNat / 0x40000 = c.toNat / 0x40000 % 8 + 240 by omega, Nat.add_comm 0x80, Nat.add_comm 0x80,
      Nat.add_comm 0x80, ofNat_toNat] at bytes
    exact bytes

theorem decodeFrom?_point {p : Point} (whole : ∀ unit, p = .half unit → isHalf unit = true) (rest : List UInt8) :
    decodeFrom? none (p.bytes ++ rest) = (decodeFrom? none rest).map (p :: ·) := by
  cases p with
  | char c => exact decodeFrom?_utf8 c rest
  | half unit =>
    have half := whole unit rfl
    have bounds := half
    simp only [isHalf, Bool.and_eq_true, decide_eq_true_eq] at bounds
    have bytes := decodeFrom?_three rest (n := unit) (by omega) (by omega)
    rw [Point.ofNat, if_pos half] at bytes
    exact bytes

-- Every row of code points is read back from its bytes, halves and all.
theorem decode?_bytes (cs : List Char) : decode? (bytes cs) = some (points cs) := by
  have whole := whole_points cs
  unfold decode? bytes
  generalize points cs = ps at whole ⊢
  induction ps with
  | nil => rfl
  | cons p rest ih =>
    rw [List.flatMap_cons, decodeFrom?_point fun unit same => whole unit (same ▸ List.mem_cons_self),
      ih fun unit mem => whole unit (List.mem_cons_of_mem _ mem)]
    rfl

-- Characters that spell a text.
def Spelled (cs : List Char) : Prop := spell (points cs) = cs

theorem Spelled.append (first : Spelled cs) (second : Spelled more) : Spelled (cs ++ more) := by
  have parts := points_spell_append (whole_points cs) more
  rw [first] at parts
  rw [Spelled, parts, spell, List.flatMap_append]
  exact congrArg₂ (· ++ ·) first second

-- Where the mark does not occur, all is spelled as it is.
def Unmarked (cs : List Char) : Prop := ∀ c ∈ cs, c ≠ mark

theorem unmarked_nil : Unmarked [] := fun _ mem => nomatch mem

theorem Unmarked.append (first : Unmarked cs) (second : Unmarked more) : Unmarked (cs ++ more) :=
  List.forall_mem_append.mpr ⟨first, second⟩

theorem Unmarked.cons (first : c ≠ mark) (rest : Unmarked cs) : Unmarked (c :: cs) := List.forall_mem_cons.mpr ⟨first, rest⟩

theorem Unmarked.spelled (unmarked : Unmarked cs) : Spelled cs := by
  rw [Spelled, points_of_unmarked unmarked]
  exact spellChars_of_unmarked unmarked

theorem Spelled.cons (first : c ≠ mark) (rest : Spelled cs) : Spelled (c :: cs) :=
  Spelled.append (Unmarked.cons first unmarked_nil).spelled rest

theorem spelled_flatMap {f : α → List Char} {xs : List α} (each : ∀ x ∈ xs, Spelled (f x)) : Spelled (xs.flatMap f) := by
  induction xs with
  | nil => rfl
  | cons x rest ih =>
    obtain ⟨first, others⟩ := List.forall_mem_cons.mp each
    exact first.append (ih others)

theorem unmarked_ascii {cs : List Char} (ascii : cs.all (·.toNat < 0x80) = true) : Unmarked cs := by
  rintro c mem rfl
  exact absurd (List.all_eq_true.mp ascii _ mem) (by decide)

end Text

namespace Json
open Text

theorem Digits.unmarked (digits : Digits cs) : Unmarked cs := fun c mem => digit_ne (digits c mem) rfl

theorem digits_toDigits (n : Nat) : Digits (Nat.toDigits 10 n) :=
  fun _ mem => Nat.isDigit_of_mem_toDigits (by decide) (by decide) mem

theorem writeInt_unmarked (n : Int) : Unmarked (writeInt n) := by
  rw [writeInt_eq]
  refine Unmarked.append ?_ (digits_toDigits _).unmarked
  split
  · exact .cons (by decide) unmarked_nil
  · exact unmarked_nil

theorem positional_unmarked {d : Decimal} (digits : Digits d.digits) : Unmarked (NumberLayout.positional d) := by
  have zeros : ∀ n, Unmarked (NumberLayout.zeros n) := fun n => (digits_zeros n).unmarked
  unfold NumberLayout.positional
  dsimp only
  split
  · exact .cons (by decide) (.cons (by decide) ((zeros _).append digits.unmarked))
  split
  · exact (digits.unmarked.append (zeros _)).append (.cons (by decide) (.cons (by decide) unmarked_nil))
  · exact Unmarked.append (fun c mem => digits.unmarked c (List.mem_of_mem_take mem))
      (.cons (by decide) fun c mem => digits.unmarked c (List.mem_of_mem_drop mem))

theorem exponential_unmarked {d : Decimal} (digits : Digits d.digits) (width : Nat) :
    Unmarked (NumberLayout.exponential width d) := by
  unfold NumberLayout.exponential
  dsimp only
  refine Unmarked.append (Unmarked.append ?_ (.cons (by decide) (.cons ?_ (digits_zeros _).unmarked)))
    (digits_toDigits _).unmarked
  · split
    · rename_i first second rest shape
      rw [shape] at digits
      obtain ⟨one, two, more⟩ := (List.forall_mem_cons.mp digits.unmarked).imp_right List.forall_mem_cons.mp
      exact .cons one (.cons (by decide) (.cons two more))
    · exact digits.unmarked
  · split <;> decide

theorem writeFloat_unmarked (style : Style) (x : Binary64) : Unmarked (writeFloat style x) := by
  cases x with
  | finite negative place =>
    obtain ⟨digital, _⟩ := Decimal.shortest_reads place
    refine Unmarked.append ?_ ?_
    · split
      · exact .cons (by decide) unmarked_nil
      · exact unmarked_nil
    · unfold NumberLayout.writeDecimal
      dsimp only
      split
      · exact positional_unmarked digital.digits
      · exact exponential_unmarked digital.digits _
  | nan _ =>
    rw [writeFloat]
    split <;> exact unmarked_ascii (by decide)
  | infinite negative =>
    rw [writeFloat]
    split
    · exact unmarked_ascii (by decide)
    · split <;> exact unmarked_ascii (by decide)

theorem unitEscape_unmarked {n : Nat} (small : n < 0x10000) : Unmarked (unitEscape n) := by
  have digit : ∀ d < 16, Nat.digitChar d ≠ mark := by decide
  rw [unitEscape, hex_four small]
  exact .cons (by decide) (.cons (by decide) (.cons (digit _ (by omega)) (.cons (digit _ (by omega))
    (.cons (digit _ (by omega)) (.cons (digit _ (by omega)) unmarked_nil)))))

theorem escapeChar_unmarked (ascii : Bool) {c : Char} (plain : c ≠ mark) : Unmarked (escapeChar ascii c) := by
  have valid : c.toNat < 0xD800 ∨ 0xDFFF < c.toNat ∧ c.toNat < 0x110000 := c.valid
  unfold escapeChar
  iterate 7
    split
    · exact unmarked_ascii (by decide)
  split
  · exact unitEscape_unmarked (by omega)
  split
  · split
    · exact unitEscape_unmarked (by omega)
    · exact (unitEscape_unmarked (by omega)).append (unitEscape_unmarked (by omega))
  · exact .cons plain unmarked_nil

theorem escapePoint_unmarked {p : Point} (whole : ∀ unit, p = .half unit → isHalf unit = true) :
    Unmarked (escapePoint p) := by
  cases p with
  | char c =>
    by_cases same : c = mark
    · rw [same]
      exact unmarked_ascii (by decide)
    · exact escapeChar_unmarked true same
  | half unit =>
    have half := whole unit rfl
    simp only [isHalf, Bool.and_eq_true, decide_eq_true_eq] at half
    exact unitEscape_unmarked (by omega)

-- Beyond ASCII nothing is escaped, so that a mark and what stands behind it stay together.
theorem escapeChar_high {c : Char} (high : 0x80 ≤ c.toNat) : escapeChar false c = [c] := by
  have other : ∀ d : Char, d.toNat < 0x80 → (c == d) = false := by
    intro d low
    refine beq_false_of_ne ?_
    rintro rfl
    omega
  simp [escapeChar, other, show ¬ c.toNat < 0x20 by omega]

theorem spelled_verbatim {p : Point} (whole : ∀ unit, p = .half unit → isHalf unit = true) :
    Spelled (p.spelled.flatMap (escapeChar false)) := by
  cases p with
  | char c =>
    by_cases same : c = mark
    · rw [same, Spelled]
      decide +kernel
    · rw [spelled_char same, List.flatMap_singleton]
      exact (escapeChar_unmarked false same).spelled
  | half unit =>
    have half := whole unit rfl
    have high : 0x80 ≤ (standIn unit).toNat := by
      rw [toNat_standIn half]
      omega
    have kept : (Point.half unit).spelled.flatMap (escapeChar false) = (Point.half unit).spelled := by
      simp [Point.spelled, escapeChar_high high, escapeChar_high (c := mark) (by decide)]
    have read := points_spelled (.half unit) whole []
    rw [List.append_nil] at read
    rw [kept, Spelled, read]
    rfl

theorem quote_spelled (ascii : Bool) {s : String} (returns : Text.returns s = true) : Spelled (quote ascii s) := by
  rw [Text.returns, Bool.and_eq_true, beq_iff_eq] at returns
  have whole := whole_points s.toList
  have each : ∀ p ∈ points s.toList, ∀ unit, p = .half unit → isHalf unit = true := by
    rintro _ mem unit rfl
    exact whole unit mem
  refine (Spelled.cons (by decide) ?_).append (unmarked_ascii (by decide)).spelled
  unfold escaped
  cases ascii with
  | true => exact spelled_flatMap fun p mem => (escapePoint_unmarked (each p mem)).spelled
  | false =>
    rw [if_neg Bool.false_ne_true, ← returns.1, spell, List.flatMap_assoc]
    exact spelled_flatMap fun p mem => spelled_verbatim (each p mem)

theorem Blank.spelled (blank : Blank cs) : Spelled cs := by
  refine Unmarked.spelled fun c mem => ?_
  have space := blank c mem
  simp only [isBreak, Bool.or_eq_true, beq_iff_eq] at space
  rcases space with ((rfl | rfl) | rfl) | rfl <;> decide

theorem spelled_more (last : Bool) (more : Spelled cs) : Spelled (if last then [] else ',' :: cs) := by
  cases last with
  | true => rfl
  | false => exact .cons (by decide) more

mutual
-- A text of a document is a text, for so are its strings.
theorem Spells.spelled : ∀ {v : Json} {cs : List Char}, Spells v cs → v.legible = true → Spelled cs
  | .null, _, spells, _ => by
    rw [Spells] at spells
    exact spells ▸ (unmarked_ascii (by decide)).spelled
  | .bool b, _, spells, _ => by
    rw [Spells] at spells
    cases b <;> exact spells ▸ (unmarked_ascii (by decide)).spelled
  | .int n, _, spells, _ => by
    rw [Spells] at spells
    exact spells ▸ (writeInt_unmarked n).spelled
  | .float x, _, spells, _ => by
    rw [Spells] at spells
    obtain ⟨style, _, rfl⟩ := spells
    exact (writeFloat_unmarked style x).spelled
  | .str s, _, spells, legible => by
    rw [Spells] at spells
    obtain ⟨ascii, rfl⟩ := spells
    exact quote_spelled ascii legible
  | .arr vs, _, spells, legible => by
    rw [Spells] at spells
    obtain ⟨inner, items, rfl⟩ := spells
    exact .cons (by decide) ((SpellsItems.spelled items legible).append (unmarked_ascii (by decide)).spelled)
  | .obj m, _, spells, legible => by
    rw [Spells] at spells
    obtain ⟨inner, members, rfl⟩ := spells
    rw [Json.legible, Bool.and_eq_true] at legible
    exact .cons (by decide) ((SpellsMembers.spelled members legible.2).append (unmarked_ascii (by decide)).spelled)

theorem SpellsItems.spelled : ∀ {vs : List Json} {cs : List Char}, SpellsItems vs cs → itemsLegible vs = true → Spelled cs
  | [], _, spells, _ => by
    rw [SpellsItems] at spells
    exact Blank.spelled spells
  | v :: rest, _, spells, legible => by
    rw [SpellsItems] at spells
    obtain ⟨_, _, _, _, before, first, behind, others, rfl⟩ := spells
    rw [itemsLegible, Bool.and_eq_true] at legible
    exact before.spelled.append ((first.spelled legible.1).append (behind.spelled.append
      (spelled_more _ (SpellsItems.spelled others legible.2))))

theorem SpellsMembers.spelled : ∀ {m : List (String × Json)} {cs : List Char}, SpellsMembers m cs →
    membersLegible m = true → Spelled cs
  | [], _, spells, _ => by
    rw [SpellsMembers] at spells
    exact Blank.spelled spells
  | (key, v) :: rest, _, spells, legible => by
    rw [SpellsMembers] at spells
    obtain ⟨_, ascii, _, _, _, _, _, before, middle, behind, first, after, others, rfl⟩ := spells
    rw [membersLegible, Bool.and_eq_true, Bool.and_eq_true] at legible
    exact before.spelled.append ((quote_spelled ascii legible.1.1).append (middle.spelled.append (.cons (by decide)
      (behind.spelled.append ((first.spelled legible.1.2).append (after.spelled.append
        (spelled_more _ (SpellsMembers.spelled others legible.2))))))))
end

theorem SpelledBy.spelled {v : Json} (spells : v.SpelledBy text) (legible : v.legible = true) : Spelled text.toList := by
  obtain ⟨before, cs, after, blank, document, last, parts⟩ := spells
  rw [parts]
  exact blank.spelled.append ((document.spelled legible).append last.spelled)

end Json
end Orchestration
