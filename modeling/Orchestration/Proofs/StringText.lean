import Mathlib.Tactic.Ring
import Orchestration.Json.Printer
import Orchestration.Json.Reader

namespace Orchestration

namespace Text

-- Two halves that make up a pair. Written as escapes they are taken for the character of the pair.
def severed : Point → Point → Bool
  | .half a, .half b => a < 0xDC00 && 0xDC00 ≤ b
  | _, _ => false

-- No pair stands in two parts.
def joined : List Point → Bool
  | p :: q :: rest => !severed p q && joined (q :: rest)
  | _ => true

-- Whether a text comes back from its escapes: it is spelled as texts are, and no pair stands in two parts.
def returns (s : String) : Bool := spell (points s.toList) == s.toList && joined (points s.toList)

theorem half_of_mem_pointsFrom {cs : List Char} {marked : Bool} (mem : Point.half unit ∈ pointsFrom marked cs) :
    isHalf unit = true := by
  induction cs generalizing marked with
  | nil =>
    rw [pointsFrom] at mem
    split at mem <;> simp at mem
  | cons c rest ih =>
    rw [pointsFrom, List.mem_append] at mem
    rcases mem with here | behind
    · unfold readPoint at here
      split at here
      · split at here <;> simp at here
      split at here
      · simp at here
      cases known : half? c with
      | none => simp [known] at here
      | some other =>
        simp only [known, List.mem_singleton, Point.half.injEq] at here
        unfold half? at known
        split at known
        · rename_i half
          rw [here, ← Option.some.inj known]
          exact half
        · cases known
    · exact ih behind

theorem whole_points (cs : List Char) : Whole (points cs) := fun _ => half_of_mem_pointsFrom

end Text

namespace Json

theorem hex_one {n : Nat} (small : n < 16) : hex 1 n = [n.digitChar] := by
  rw [hex, Nat.toDigits_of_lt_base small]
  rfl

theorem hex_step (width n : Nat) : hex (width + 2) n = hex (width + 1) (n / 16) ++ [(n % 16).digitChar] := by
  unfold hex
  dsimp only
  by_cases small : n < 16
  · rw [Nat.toDigits_of_lt_base small, Nat.div_eq_of_lt small, Nat.mod_eq_of_lt small, Nat.toDigits_zero]
    simp only [List.length_singleton, Nat.add_sub_cancel, Nat.reduceSubDiff]
    rw [← List.replicate_succ']
  · have padding : width + 2 - ((Nat.toDigits 16 (n / 16)).length + 1) =
        width + 1 - (Nat.toDigits 16 (n / 16)).length := by omega
    rw [Nat.toDigits_of_base_le (by decide) (by omega), List.length_append, List.length_singleton, padding,
      List.append_assoc]

theorem hex_four {n : Nat} (small : n < 0x10000) : hex 4 n =
    [(n / 4096).digitChar, (n / 256 % 16).digitChar, (n / 16 % 16).digitChar, (n % 16).digitChar] := by
  rw [hex_step, hex_step, hex_step, hex_one (by omega)]
  simp [Nat.div_div_eq_div_mul]

theorem hexDigit?_digitChar : ∀ d < 16, hexDigit? (Nat.digitChar d) = some d := by decide

theorem hex4?_four {n : Nat} (small : n < 0x10000) :
    hex4? (n / 4096).digitChar (n / 256 % 16).digitChar (n / 16 % 16).digitChar (n % 16).digitChar = some n := by
  rw [hex4?, hexDigit?_digitChar _ (by omega), hexDigit?_digitChar _ (by omega), hexDigit?_digitChar _ (by omega),
    hexDigit?_digitChar _ (by omega)]
  refine congrArg some ?_
  show ((n / 4096 * 16 + n / 256 % 16) * 256 + n / 16 % 16 * 16 + n % 16) = n
  omega

-- Pieces in front of what is read.
def following (front : List Piece) (read : Option (List Piece × List Char)) :
    Option (List Piece × List Char) :=
  read.map fun (ps, rest) => (front ++ ps, rest)

theorem following_append (front more : List Piece) (read : Option (List Piece × List Char)) :
    following front (following more read) = following (front ++ more) read := by
  cases read with
  | none => rfl
  | some r => simp [following]

theorem pieces?_unit {n : Nat} (small : n < 0x10000) (rest : List Char) :
    pieces? (unitEscape n ++ rest) = following (unitPieces n) (pieces? rest) := by
  rw [unitEscape, hex_four small]
  simp only [List.cons_append, List.nil_append]
  rw [pieces?, hex4?_four small]
  cases pieces? rest <;> rfl

theorem pieces?_escape (known : escaped? e = some c) (rest : List Char) :
    pieces? ('\x5c' :: e :: rest) = following [.whole c] (pieces? rest) := by
  have other : e ≠ 'u' := by
    rintro rfl
    cases known
  rw [pieces?]
  · rw [known]
    cases pieces? rest <;> rfl
  · rintro a b c d more same
    cases same
    exact absurd rfl other

theorem pieces?_plain (quote : c ≠ '\x22') (slash : c ≠ '\x5c') (high : ¬ c.toNat < 0x20) (rest : List Char) :
    pieces? (c :: rest) = following [.whole c] (pieces? rest) := by
  rw [pieces?]
  · rw [if_neg high]
    cases pieces? rest <;> rfl
  · rintro rfl
    exact quote rfl
  · rintro a b c d more rfl
    exact fun _ => slash rfl
  · rintro a more rfl
    exact fun _ => slash rfl

theorem unitPieces_half (half : Text.isHalf unit = true) : unitPieces unit = [.half unit] :=
  if_pos half

theorem unitPieces_toNat (c : Char) : unitPieces c.toNat = (Text.Point.char c).spelled.map .whole := by
  have valid : c.toNat < 0xD800 ∨ 0xDFFF < c.toNat ∧ c.toNat < 0x110000 := c.valid
  have other : Text.isHalf c.toNat = false := by
    simp only [Text.isHalf, Bool.and_eq_false_iff, decide_eq_false_iff_not]
    omega
  rw [unitPieces, other, Char.ofNat_toNat]
  rfl

-- A code point as the reader sees it behind its escape.
def piecesOf : Text.Point → List Piece
  | .half unit => [.half unit]
  | .char c =>
      if c.toNat < 0x10000 then (Text.Point.char c).spelled.map .whole
      else [.half (0xD800 + (c.toNat - 0x10000) / 0x400), .half (0xDC00 + (c.toNat - 0x10000) % 0x400)]

theorem piecesOf_low (low : c.toNat < 0x7F) : piecesOf (.char c) = [.whole c] := by
  have other : c ≠ Text.mark := by
    rintro rfl
    exact absurd low (by decide)
  rw [piecesOf, if_pos (by omega), Text.spelled_char other]
  rfl

-- One case for each way in which a character is written, with what is read back in each of them.
theorem pieces?_escapeChar (ascii : Bool) (c : Char) {ps : List Piece} (rest : List Char)
    (low : c.toNat < 0x7F → ps = [.whole c]) (plain : ascii = false → ps = [.whole c])
    (wide : ascii = true → ps = piecesOf (.char c)) :
    pieces? (escapeChar ascii c ++ rest) = following ps (pieces? rest) := by
  have short : ∀ {d e : Char}, (c == d) = true → escaped? e = some d → d.toNat < 0x7F →
      pieces? ('\x5c' :: e :: rest) = following ps (pieces? rest) := by
    intro d e same known small
    cases eq_of_beq same
    rw [pieces?_escape known, low small]
  unfold escapeChar
  split
  · rename_i quote
    exact short quote rfl (by decide)
  split
  · rename_i slash
    exact short slash rfl (by decide)
  split
  · rename_i line
    exact short line rfl (by decide)
  split
  · rename_i ret
    exact short ret rfl (by decide)
  split
  · rename_i tab
    exact short tab rfl (by decide)
  split
  · rename_i back
    exact short back rfl (by decide)
  split
  · rename_i feed
    exact short feed rfl (by decide)
  split
  · rename_i control
    rw [pieces?_unit (by omega), unitPieces_toNat, low (by omega), ← piecesOf_low (by omega), piecesOf,
      if_pos (by omega)]
  rename_i quote slash _ _ _ _ _ high
  split
  · rename_i escaped
    rw [Bool.and_eq_true] at escaped
    rw [wide escaped.1, piecesOf]
    split
    · rename_i small
      rw [pieces?_unit small, unitPieces_toNat]
    · have valid : c.toNat < 0xD800 ∨ 0xDFFF < c.toNat ∧ c.toNat < 0x110000 := c.valid
      have first : Text.isHalf (0xD800 + (c.toNat - 0x10000) / 0x400) = true := by
        simp only [Text.isHalf, Bool.and_eq_true, decide_eq_true_eq]
        omega
      have second : Text.isHalf (0xDC00 + (c.toNat - 0x10000) % 0x400) = true := by
        simp only [Text.isHalf, Bool.and_eq_true, decide_eq_true_eq]
        omega
      rw [List.append_assoc, pieces?_unit (by omega), pieces?_unit (by omega), following_append,
        unitPieces_half first, unitPieces_half second]
      rfl
  · rename_i verbatim
    have single : ps = [.whole c] := by
      cases ascii with
      | false => exact plain rfl
      | true =>
        rw [Bool.true_and, decide_eq_true_eq] at verbatim
        exact low (by omega)
    rw [single]
    exact pieces?_plain (by simpa using quote) (by simpa using slash) high rest

theorem pieces?_escapePoint (p : Text.Point) (whole : ∀ unit, p = .half unit → Text.isHalf unit = true)
    (rest : List Char) : pieces? (escapePoint p ++ rest) = following (piecesOf p) (pieces? rest) := by
  cases p with
  | char c => exact pieces?_escapeChar true c rest piecesOf_low (fun verbatim => nomatch verbatim) fun _ => rfl
  | half unit =>
    have half := whole unit rfl
    have small : unit < 0x10000 := by
      simp only [Text.isHalf, Bool.and_eq_true, decide_eq_true_eq] at half
      omega
    rw [escapePoint, pieces?_unit small, unitPieces_half half]
    rfl

theorem pieces?_verbatim (cs rest : List Char) :
    pieces? (cs.flatMap (escapeChar false) ++ '\x22' :: rest) = some (cs.map .whole, rest) := by
  induction cs with
  | nil => rfl
  | cons c cs ih =>
    rw [List.flatMap_cons, List.append_assoc,
      pieces?_escapeChar false c _ (fun _ => rfl) (fun _ => rfl) (fun ascii => nomatch ascii), ih]
    rfl

theorem pieces?_escaped {ps : List Text.Point} (whole : Text.Whole ps)
    (rest : List Char) : pieces? (ps.flatMap escapePoint ++ '\x22' :: rest) = some (ps.flatMap piecesOf, rest) := by
  induction ps with
  | nil => rfl
  | cons p ps ih =>
    rw [List.flatMap_cons, List.append_assoc,
      pieces?_escapePoint p fun unit same => whole unit (same ▸ List.mem_cons_self),
      ih fun unit mem => whole unit (List.mem_cons_of_mem p mem)]
    rfl

theorem join_whole (cs : List Char) (ps : List Piece) : join (cs.map .whole ++ ps) = cs ++ join ps := by
  induction cs with
  | nil => rfl
  | cons c cs ih =>
    rw [List.map_cons, List.cons_append, join, ih]
    rfl

-- A half is kept unless the rest of its pair stands behind it.
theorem join_half {unit : Nat} {ps : List Piece}
    (single : ∀ other more, ps = .half other :: more → ¬ (unit < 0xDC00 ∧ 0xDC00 ≤ other)) :
    join (.half unit :: ps) = (Text.Point.half unit).spelled ++ join ps := by
  cases ps with
  | nil => rfl
  | cons p more =>
    cases p with
    | whole c => rfl
    | half other =>
      have apart : ¬ (decide (unit < 0xDC00) && decide (0xDC00 ≤ other)) = true := by
        simpa using single other more rfl
      rw [join, if_neg apart]

theorem join_pair {c : Char} (beyond : 0x10000 ≤ c.toNat) (ps : List Piece) :
    join (.half (0xD800 + (c.toNat - 0x10000) / 0x400) :: .half (0xDC00 + (c.toNat - 0x10000) % 0x400) :: ps) =
      c :: join ps := by
  have valid : c.toNat < 0xD800 ∨ 0xDFFF < c.toNat ∧ c.toNat < 0x110000 := c.valid
  have paired : (decide (0xD800 + (c.toNat - 0x10000) / 0x400 < 0xDC00) &&
      decide (0xDC00 ≤ 0xDC00 + (c.toNat - 0x10000) % 0x400)) = true := by
    simp only [Bool.and_eq_true, decide_eq_true_eq]
    omega
  have value : 0x10000 + (0xD800 + (c.toNat - 0x10000) / 0x400 - 0xD800) * 0x400 +
      (0xDC00 + (c.toNat - 0x10000) % 0x400 - 0xDC00) = c.toNat := by omega
  rw [join, if_pos paired, value, Char.ofNat_toNat]

theorem half_of_piecesOf {p : Text.Point} (same : piecesOf p ++ more = .half other :: tail)
    (second : 0xDC00 ≤ other) : p = .half other := by
  cases p with
  | half unit =>
    cases same
    rfl
  | char c =>
    rw [piecesOf] at same
    split at same
    · obtain ⟨d, rest, front⟩ := Text.spelled_front (.char c)
      rw [front] at same
      cases same
    · have valid : c.toNat < 0xD800 ∨ 0xDFFF < c.toNat ∧ c.toNat < 0x110000 := c.valid
      have first := congrArg List.head? same
      simp only [List.cons_append, List.head?_cons, Option.some.injEq, Piece.half.injEq] at first
      omega

theorem joined_tail {p : Text.Point} {ps : List Text.Point} (joined : Text.joined (p :: ps) = true) :
    Text.joined ps = true := by
  cases ps with
  | nil => rfl
  | cons q rest =>
    rw [Text.joined, Bool.and_eq_true] at joined
    exact joined.2

theorem join_piecesOf {ps : List Text.Point} (joined : Text.joined ps = true) :
    join (ps.flatMap piecesOf) = Text.spell ps := by
  induction ps with
  | nil => rfl
  | cons p ps ih =>
    have tail := ih (joined_tail joined)
    show join (piecesOf p ++ ps.flatMap piecesOf) = p.spelled ++ Text.spell ps
    cases p with
    | char c =>
      rw [piecesOf]
      split
      · rw [join_whole, tail]
      · rename_i wide
        have other : c ≠ Text.mark := by
          rintro rfl
          exact wide (by decide)
        rw [List.cons_append, List.singleton_append, join_pair (by omega), tail, Text.spelled_char other]
        rfl
    | half unit =>
      rw [piecesOf, List.singleton_append, join_half, tail]
      intro other more same pair
      cases ps with
      | nil => cases same
      | cons q rest =>
        have behind := half_of_piecesOf same pair.2
        simp [Text.joined, Text.severed, behind, pair] at joined

theorem string?_quote (ascii : Bool) {s : String} (returns : Text.returns s = true) (rest : List Char) :
    string? (escaped ascii s ++ '\x22' :: rest) = some (s, rest) := by
  rw [Text.returns, Bool.and_eq_true, beq_iff_eq] at returns
  obtain ⟨spelled, joined⟩ := returns
  unfold escaped
  cases ascii with
  | false =>
    rw [if_neg Bool.false_ne_true, string?, pieces?_verbatim, Option.map_some]
    have read := join_whole s.toList []
    rw [List.append_nil, join, List.append_nil] at read
    simp only [read, String.ofList_toList]
  | true =>
    rw [if_pos rfl, string?, pieces?_escaped (Text.whole_points _), Option.map_some]
    simp only [join_piecesOf joined, spelled, String.ofList_toList]

end Json

end Orchestration
