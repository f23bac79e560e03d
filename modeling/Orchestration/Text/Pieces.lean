namespace Orchestration.Text

-- The pieces between the characters at which a text is cut. There is one more than cuts.
def pieces (cut : Char → Bool) : List Char → List (List Char)
  | [] => [[]]
  | c :: rest =>
      if cut c then [] :: pieces cut rest
      else match pieces cut rest with
        | piece :: more => (c :: piece) :: more
        | [] => [[c]]

theorem pieces_ne_nil (cut : Char → Bool) (cs : List Char) : pieces cut cs ≠ [] := by
  cases cs with
  | nil => simp [pieces]
  | cons c rest =>
    unfold pieces
    split
    · simp
    · split <;> simp

-- A cut at the end of a text leaves nothing behind it.
theorem pieces_concat {cut : Char → Bool} {mark : Char} (cuts : cut mark = true) (cs : List Char) :
    pieces cut (cs ++ [mark]) = pieces cut cs ++ [[]] := by
  induction cs with
  | nil => simp [pieces, cuts]
  | cons c rest ih =>
    simp only [List.cons_append, pieces, ih]
    split
    · rfl
    · cases front : pieces cut rest with
      | nil => exact absurd front (pieces_ne_nil cut rest)
      | cons piece more => rfl

theorem intercalate_pieces (mark : Char) (cs : List Char) :
    List.intercalate [mark] (pieces (· == mark) cs) = cs := by
  induction cs with
  | nil => rfl
  | cons c rest ih =>
    have some := pieces_ne_nil (· == mark) rest
    unfold pieces
    generalize pieces (· == mark) rest = ps at ih some
    cases ps with
    | nil => exact absurd rfl some
    | cons p more =>
      by_cases h : c = mark
      · subst h
        simp only [beq_self_eq_true, if_true]
        rw [← ih]
        rfl
      · simp only [beq_iff_eq, h, if_false]
        rw [← ih]
        cases more <;> rfl

end Orchestration.Text
