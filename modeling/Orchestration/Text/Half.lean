namespace Orchestration.Text

-- A text is a row of code points. A document may escape half of a surrogate pair without the other
-- half: such a half is a code point, but no character.
inductive Point where
  | char (c : Char)
  | half (unit : Nat)
  deriving DecidableEq, Repr

-- Texts are spelled in characters. A half is spelled as a mark and a character that stands in for it,
-- the mark itself is spelled twice, and every other character is spelled as it is. The mark is the last
-- character in front of the halves, and what stands in for a half comes behind it: so texts sort as
-- their spellings do. They are put together and cut as their spellings are, too.
def mark : Char := '\ud7ff'

-- Whether a unit of sixteen bits is half of a pair.
def isHalf (unit : Nat) : Bool := 0xD800 ≤ unit && unit ≤ 0xDFFF

def standIn (unit : Nat) : Char := Char.ofNat (0x800 + unit)

def half? (c : Char) : Option Nat :=
  if isHalf (c.toNat - 0x800) then some (c.toNat - 0x800) else none

-- The code point of a number.
def Point.ofNat (n : Nat) : Point := if isHalf n then .half n else .char (Char.ofNat n)

def Point.spelled : Point → List Char
  | .char c => if c == mark then [mark, mark] else [c]
  | .half unit => [mark, standIn unit]

def spell (ps : List Point) : List Char := ps.flatMap Point.spelled

-- What a character spells behind what was read, and whether it is a mark under way. A mark that neither
-- another mark nor a half follows is taken for itself.
def readPoint (marked : Bool) (c : Char) : List Point × Bool :=
  if !marked then if c == mark then ([], true) else ([.char c], false)
  else if c == mark then ([.char mark], false)
  else match half? c with
    | some unit => ([.half unit], false)
    | none => ([.char mark, .char c], false)

def pointsFrom (marked : Bool) : List Char → List Point
  | [] => if marked then [.char mark] else []
  | c :: rest => (readPoint marked c).1 ++ pointsFrom (readPoint marked c).2 rest

def points (cs : List Char) : List Point := pointsFrom false cs

def Point.isHalf : Point → Bool
  | .char _ => false
  | .half _ => true

def Point.char? : Point → Option Char
  | .char c => some c
  | .half _ => none

def broken (cs : List Char) : Bool := (points cs).any Point.isHalf

def hasHalf (s : String) : Bool := broken s.toList

-- The characters of a text that has no halves.
def chars (cs : List Char) : List Char := (points cs).filterMap Point.char?

-- How characters that are not yet spelled are.
def spellChars (cs : List Char) : List Char := spell (cs.map Point.char)

theorem points_cons {c : Char} (plain : c ≠ mark) (rest : List Char) : points (c :: rest) = .char c :: points rest := by
  simp [points, pointsFrom, readPoint, beq_false_of_ne plain]

theorem points_of_unmarked {cs : List Char} (unmarked : ∀ c ∈ cs, c ≠ mark) : points cs = cs.map Point.char := by
  induction cs with
  | nil => rfl
  | cons c rest ih =>
    obtain ⟨first, others⟩ := List.forall_mem_cons.mp unmarked
    rw [points_cons first, ih others, List.map_cons]

theorem broken_of_unmarked {cs : List Char} (unmarked : ∀ c ∈ cs, c ≠ mark) : broken cs = false := by
  rw [broken, points_of_unmarked unmarked, List.any_map]
  exact List.any_eq_false.mpr fun _ _ => Bool.false_ne_true

theorem chars_of_unmarked {cs : List Char} (unmarked : ∀ c ∈ cs, c ≠ mark) : chars cs = cs := by
  rw [chars, points_of_unmarked unmarked, List.filterMap_map]
  exact List.filterMap_some

theorem spelled_char {c : Char} (plain : c ≠ mark) : (Point.char c).spelled = [c] := by
  rw [Point.spelled, beq_false_of_ne plain]
  rfl

theorem spelled_front (p : Point) : ∃ c more, p.spelled = c :: more := by
  cases p with
  | half unit => exact ⟨mark, [standIn unit], rfl⟩
  | char c =>
    by_cases same : c = mark
    · rw [same]
      exact ⟨mark, [mark], rfl⟩
    · exact ⟨c, [], spelled_char same⟩

theorem spellChars_eq_nil {cs : List Char} : spellChars cs = [] ↔ cs = [] := by
  cases cs with
  | nil => exact ⟨fun _ => rfl, fun _ => rfl⟩
  | cons c rest =>
    obtain ⟨d, more, front⟩ := spelled_front (.char c)
    show (Point.char c).spelled ++ spellChars rest = [] ↔ _
    simp [front]

theorem spellChars_of_unmarked {cs : List Char} (unmarked : ∀ c ∈ cs, c ≠ mark) : spellChars cs = cs := by
  induction cs with
  | nil => rfl
  | cons c rest ih =>
    obtain ⟨first, others⟩ := List.forall_mem_cons.mp unmarked
    show (Point.char c).spelled ++ spellChars rest = c :: rest
    rw [spelled_char first, ih others, List.singleton_append]

theorem half?_mark : half? mark = none := by decide +kernel

theorem toNat_standIn {unit : Nat} (h : isHalf unit = true) : (standIn unit).toNat = 0x800 + unit := by
  simp only [isHalf, Bool.and_eq_true, decide_eq_true_eq] at h
  unfold standIn
  rw [Char.ofNat, dif_pos (Or.inr ⟨by omega, by omega⟩)]
  rfl

theorem half?_standIn {unit : Nat} (h : isHalf unit = true) : half? (standIn unit) = some unit := by
  unfold half?
  rw [toNat_standIn h, Nat.add_sub_cancel_left, if_pos h]

theorem standIn_ne_mark {unit : Nat} (h : isHalf unit = true) : standIn unit ≠ mark := by
  intro same
  have known := half?_standIn h
  rw [same, half?_mark] at known
  cases known

theorem points_spelled (p : Point) (whole : ∀ unit, p = .half unit → isHalf unit = true) (rest : List Char) :
    points (p.spelled ++ rest) = p :: points rest := by
  cases p with
  | half unit =>
    have known := whole unit rfl
    simp [Point.spelled, points, pointsFrom, readPoint, beq_false_of_ne (standIn_ne_mark known), half?_standIn known]
  | char c =>
    by_cases same : c = mark
    · simp [Point.spelled, same, points, pointsFrom, readPoint]
    · rw [spelled_char same]
      exact points_cons same rest

-- The code points of a text: what they call a half is one.
def Whole (ps : List Point) : Prop := ∀ unit, .half unit ∈ ps → isHalf unit = true

theorem points_spell_append {ps : List Point} (whole : Whole ps) (rest : List Char) :
    points (spell ps ++ rest) = ps ++ points rest := by
  induction ps with
  | nil => rfl
  | cons p ps ih =>
    show points (p.spelled ++ spell ps ++ rest) = p :: (ps ++ points rest)
    rw [List.append_assoc, points_spelled p fun unit same => whole unit (same ▸ List.mem_cons_self),
      ih fun unit mem => whole unit (List.mem_cons_of_mem _ mem)]

example : spell [.char '\ud7ff', .half 0xD800, .char '\ue000'] = ['\ud7ff', '\ud7ff', '\ud7ff', '\ue000', '\ue000'] := by
  decide +kernel

end Orchestration.Text
