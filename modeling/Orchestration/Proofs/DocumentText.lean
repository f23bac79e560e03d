import Orchestration.Json.Dump
import Orchestration.Keyed
import Orchestration.Proofs.ChainDocument
import Orchestration.Proofs.NumberText
import Orchestration.Proofs.StringText

namespace Orchestration.Json

-- A text spells a document if it holds its parts in order, with any blanks between them.
def Blank (cs : List Char) : Prop := ∀ c ∈ cs, isBreak c = true

theorem blank_nil : Blank [] :=
  fun _ mem => nomatch mem

mutual
-- Numbers and strings may be written in any of the ways in which they are printed, but none as null.
def Spells : Json → List Char → Prop
  | .null, cs => cs = "null".toList
  | .bool b, cs => cs = (if b then "true" else "false").toList
  | .int n, cs => cs = writeInt n
  | .float x, cs => ∃ style : Style, style.words = true ∧ cs = writeFloat style x
  | .str s, cs => ∃ ascii, cs = quote ascii s
  | .arr vs, cs => ∃ inner, SpellsItems vs inner ∧ cs = '[' :: (inner ++ [']'])
  | .obj m, cs => ∃ inner, SpellsMembers m inner ∧ cs = '\x7b' :: (inner ++ ['\x7d'])

def SpellsItems : List Json → List Char → Prop
  | [], cs => Blank cs
  | v :: rest, cs => ∃ before text after more, Blank before ∧ Spells v text ∧ Blank after ∧
      SpellsItems rest more ∧ cs = before ++ (text ++ (after ++ if rest.isEmpty then [] else ',' :: more))

def SpellsMembers : List (String × Json) → List Char → Prop
  | [], cs => Blank cs
  | (key, v) :: rest, cs => ∃ before ascii middle behind text after more, Blank before ∧ Blank middle ∧
      Blank behind ∧ Spells v text ∧ Blank after ∧ SpellsMembers rest more ∧
      cs = before ++ (quote ascii key ++ (middle ++ ':' :: (behind ++ (text ++
        (after ++ if rest.isEmpty then [] else ',' :: more)))))
end

mutual
-- What a text can hold: no integer of too many digits, no string that does not come back from its escapes, no
-- key twice, and of what is not a number only the one that documents write.
def legible : Json → Bool
  | .int n => (Nat.toDigits 10 n.natAbs).length ≤ Numeral.longestInteger
  | .float x => x != .nan false
  | .str s => Text.returns s
  | .arr vs => itemsLegible vs
  | .obj m => decide (m.map (·.1)).Nodup && membersLegible m
  | _ => true

def itemsLegible : List Json → Bool
  | [] => true
  | v :: rest => legible v && itemsLegible rest

def membersLegible : List (String × Json) → Bool
  | [] => true
  | (key, v) :: rest => Text.returns key && legible v && membersLegible rest
end

theorem Numeric.front (numeric : Numeric cs) :
    ∃ c more, cs = c :: more ∧ isBreak c = false ∧ c ≠ ']' ∧ c ≠ '\x7d' := by
  obtain ⟨c, more, digit, rfl | rfl⟩ := numeric
  · refine ⟨c, more, rfl, ?_, digit_ne digit rfl, digit_ne digit rfl⟩
    simp [isBreak, digit_ne digit (d := ' ') rfl, digit_ne digit (d := '\t') rfl, digit_ne digit (d := '\n') rfl,
      digit_ne digit (d := '\r') rfl]
  · exact ⟨'-', _, rfl, by decide, by decide, by decide⟩

-- A text begins neither with a blank nor with what ends a list or an object.
theorem Spells.front (spells : Spells v cs) :
    ∃ c more, cs = c :: more ∧ isBreak c = false ∧ c ≠ ']' ∧ c ≠ '\x7d' := by
  cases v with
  | null =>
    rw [Spells] at spells
    exact ⟨'n', _, spells, by decide, by decide, by decide⟩
  | bool b =>
    rw [Spells] at spells
    cases b with
    | true => exact ⟨'t', _, spells, by decide, by decide, by decide⟩
    | false => exact ⟨'f', _, spells, by decide, by decide, by decide⟩
  | int n =>
    rw [Spells] at spells
    have numeric := numeric_int n []
    rw [List.append_nil, ← spells] at numeric
    exact numeric.front
  | float x =>
    rw [Spells] at spells
    obtain ⟨style, words, rfl⟩ := spells
    cases x with
    | nan shared =>
      rw [writeFloat, if_pos words]
      exact ⟨'N', _, rfl, by decide, by decide, by decide⟩
    | infinite negative =>
      rw [writeFloat, words]
      cases negative with
      | true => exact ⟨'-', _, rfl, by decide, by decide, by decide⟩
      | false => exact ⟨'I', _, rfl, by decide, by decide, by decide⟩
    | finite negative place =>
      have numeric := numeric_finite style.numbers negative place []
      rw [List.append_nil] at numeric
      exact numeric.front
  | str s =>
    rw [Spells] at spells
    obtain ⟨ascii, rfl⟩ := spells
    exact ⟨'\x22', _, rfl, by decide, by decide, by decide⟩
  | arr vs =>
    rw [Spells] at spells
    obtain ⟨inner, _, rfl⟩ := spells
    exact ⟨'[', _, rfl, by decide, by decide, by decide⟩
  | obj m =>
    rw [Spells] at spells
    obtain ⟨inner, _, rfl⟩ := spells
    exact ⟨'\x7b', _, rfl, by decide, by decide, by decide⟩

theorem skipBreaks_blank (blank : Blank before) (other : isBreak c = false) (rest : List Char) :
    skipBreaks (before ++ c :: rest) = c :: rest := by
  rw [skipBreaks, List.dropWhile_append_of_pos blank, List.dropWhile_cons_of_neg]
  simp [other]

theorem skipBreaks_spelled (blank : Blank before) (spells : Spells v text) (rest : List Char) :
    skipBreaks (before ++ (text ++ rest)) = text ++ rest := by
  obtain ⟨c, more, rfl, other, _⟩ := spells.front
  exact skipBreaks_blank blank other (more ++ rest)

theorem ended_break (space : isBreak c = true) (rest : List Char) : Ended (c :: rest) := by
  simp only [isBreak, Bool.or_eq_true, beq_iff_eq] at space
  intro d same
  cases same
  rcases space with ((rfl | rfl) | rfl) | rfl <;> decide

-- A number ends where blanks begin, or where what stands behind them does.
theorem ended_blank (blank : Blank after) (ended : Ended rest) : Ended (after ++ rest) := by
  cases after with
  | nil => exact ended
  | cons c more => exact ended_break (blank c List.mem_cons_self) _

theorem value_word (fuel levels : Nat) {v : Json} {w rest : List Char} (known : word? (w ++ rest) = some (v, rest))
    (unopened : Unopened (w ++ rest)) : value (fuel + 1) levels (w ++ rest) = .ok (v, rest) := by
  simpa only [known, Option.elim_some] using value_unopened unopened fuel levels

theorem value_float (fuel levels : Nat) {x : Binary64} {style : Style} (words : style.words = true)
    (shared : x ≠ .nan false) (ended : Ended rest) :
    value (fuel + 1) levels (writeFloat style x ++ rest) = .ok (.float x, rest) := by
  cases x with
  | nan s =>
    cases s with
    | true =>
      rw [writeFloat, if_pos words]
      exact value_word fuel levels (by simp [word?]; rfl) (by simp [Unopened])
    | false => exact absurd rfl shared
  | infinite negative =>
    rw [writeFloat, words]
    cases negative with
    | true => exact value_word fuel levels (by simp [word?]; rfl) (by simp [Unopened])
    | false => exact value_word fuel levels (by simp [word?]; rfl) (by simp [Unopened])
  | finite negative place =>
    rw [writeFloat, value_numeric (numeric_finite _ _ _ _), number_finite _ _ _ ended]

theorem value_string (fuel levels : Nat) {s : String} (ascii : Bool) (returns : Text.returns s = true)
    (rest : List Char) : value (fuel + 1) levels (quote ascii s ++ rest) = .ok (.str s, rest) := by
  have read := string?_quote ascii returns rest
  rw [quote, List.cons_append, List.cons_append, List.append_assoc, List.singleton_append, value, read]

theorem Spells.positive (spells : Spells v cs) : 0 < cs.length := by
  obtain ⟨c, more, rfl, _⟩ := spells.front
  exact Nat.succ_pos _

theorem ended_mark {c : Char} (mark : c = ']' ∨ c = '\x7d' ∨ c = ',') (rest : List Char) : Ended (c :: rest) := by
  intro d same
  cases same
  rcases mark with rfl | rfl | rfl <;> decide

-- Behind an item or a member stands a comma, or what ends the list or the object.
theorem ended_behind {c : Char} (blank : Blank after) (mark : c = ']' ∨ c = '\x7d') (last : Bool)
    (more rest : List Char) : Ended (after ++ ((if last then [] else ',' :: more) ++ c :: rest)) := by
  cases last with
  | true => exact ended_blank blank (ended_mark (mark.imp_right Or.inl) rest)
  | false => exact ended_blank blank (ended_mark (Or.inr (Or.inr rfl)) _)

theorem items_front (spells : SpellsItems (v :: more) cs) (rest : List Char) :
    ∃ c tail, skipBreaks (cs ++ rest) = c :: tail ∧ c ≠ ']' := by
  rw [SpellsItems] at spells
  obtain ⟨before, text, after, _, blank, first, _, _, rfl⟩ := spells
  rw [List.append_assoc, List.append_assoc, skipBreaks_spelled blank first]
  obtain ⟨c, tail, rfl, _, other, _⟩ := first.front
  exact ⟨c, _, rfl, other⟩

theorem members_front (spells : SpellsMembers (kv :: more) cs) (rest : List Char) :
    ∃ tail, skipBreaks (cs ++ rest) = '\x22' :: tail := by
  rw [SpellsMembers] at spells
  obtain ⟨before, ascii, _, _, _, _, _, blank, _, _, _, _, _, rfl⟩ := spells
  rw [List.append_assoc, List.append_assoc, quote, List.cons_append, List.cons_append,
    skipBreaks_blank blank (by decide)]
  exact ⟨_, rfl⟩

mutual
-- Every value, item and member takes a character, so the length of the text is fuel enough.
theorem value_spells : ∀ (v : Json) {cs rest : List Char} {fuel levels : Nat}, Spells v cs → legible v = true →
    faultWithin levels v = none → Ended rest → cs.length ≤ fuel →
    value (fuel + 1) levels (cs ++ rest) = .ok (v, rest)
  | .null, cs, rest, fuel, levels, spells, _, _, _, _ => by
    rw [Spells] at spells
    rw [spells]
    exact value_word fuel levels (by simp [word?]; rfl) (by simp [Unopened])
  | .bool true, cs, rest, fuel, levels, spells, _, _, _, _ => by
    rw [Spells] at spells
    rw [spells]
    exact value_word fuel levels (by simp [word?]; rfl) (by simp [Unopened])
  | .bool false, cs, rest, fuel, levels, spells, _, _, _, _ => by
    rw [Spells] at spells
    rw [spells]
    exact value_word fuel levels (by simp [word?]; rfl) (by simp [Unopened])
  | .int n, cs, rest, fuel, levels, spells, legible, _, ended, _ => by
    rw [Spells] at spells
    rw [Json.legible, decide_eq_true_eq] at legible
    rw [spells, value_numeric (numeric_int n rest), number_int legible ended]
  | .float x, cs, rest, fuel, levels, spells, legible, _, ended, _ => by
    rw [Spells] at spells
    obtain ⟨style, words, rfl⟩ := spells
    rw [Json.legible, bne_iff_ne] at legible
    exact value_float fuel levels words legible ended
  | .str s, cs, rest, fuel, levels, spells, legible, _, _, _ => by
    rw [Spells] at spells
    obtain ⟨ascii, rfl⟩ := spells
    exact value_string fuel levels ascii legible rest
  | .arr [], cs, rest, fuel, levels, spells, _, shallow, _, _ => by
    rw [Spells] at spells
    obtain ⟨inner, items, rfl⟩ := spells
    rw [SpellsItems] at items
    cases levels with
    | zero => simp [faultWithin] at shallow
    | succ levels =>
      simp only [List.cons_append, List.append_assoc, List.nil_append]
      rw [value, skipBreaks_blank items (by decide)]
      rfl
  | .arr (v :: more), cs, rest, fuel, levels, spells, legible, shallow, _, enough => by
    rw [Spells] at spells
    obtain ⟨inner, items, rfl⟩ := spells
    cases levels with
    | zero => simp [faultWithin] at shallow
    | succ levels =>
      rw [faultWithin] at shallow
      rw [Json.legible] at legible
      simp only [List.length_cons, List.length_append, List.length_nil] at enough
      obtain ⟨fuel, rfl⟩ : ∃ n, fuel = n + 1 := ⟨fuel - 1, by omega⟩
      have read : Json.items (fuel + 1) levels (skipBreaks (inner ++ ']' :: rest)) = .ok (v :: more, rest) :=
        items_spells (v :: more) (List.cons_ne_nil v more) items legible shallow (by omega)
      obtain ⟨c, tail, front, other⟩ := items_front items (']' :: rest)
      simp only [List.cons_append, List.append_assoc, List.nil_append]
      rw [front] at read
      rw [value, front]
      split
      · rename_i closed
        cases closed
        exact absurd rfl other
      · rw [read]
        rfl
  | .obj [], cs, rest, fuel, levels, spells, _, shallow, _, _ => by
    rw [Spells] at spells
    obtain ⟨inner, members, rfl⟩ := spells
    rw [SpellsMembers] at members
    cases levels with
    | zero => simp [faultWithin] at shallow
    | succ levels =>
      simp only [List.cons_append, List.append_assoc, List.nil_append]
      rw [value, skipBreaks_blank members (by decide)]
      rfl
  | .obj ((key, v) :: more), cs, rest, fuel, levels, spells, legible, shallow, _, enough => by
    rw [Spells] at spells
    obtain ⟨inner, members, rfl⟩ := spells
    cases levels with
    | zero => simp [faultWithin] at shallow
    | succ levels =>
      rw [faultWithin] at shallow
      rw [Json.legible, Bool.and_eq_true, decide_eq_true_eq] at legible
      simp only [List.length_cons, List.length_append, List.length_nil] at enough
      obtain ⟨fuel, rfl⟩ : ∃ n, fuel = n + 1 := ⟨fuel - 1, by omega⟩
      have read : Json.members (fuel + 1) levels (skipBreaks (inner ++ '\x7d' :: rest)) [] =
          .ok ((key, v) :: more, rest) :=
        members_spells ((key, v) :: more) (List.cons_ne_nil _ more) [] members legible.2 shallow legible.1 (by omega)
      obtain ⟨tail, front⟩ := members_front members ('\x7d' :: rest)
      simp only [List.cons_append, List.append_assoc, List.nil_append]
      rw [front] at read
      rw [value, front]
      split
      · rename_i closed
        cases closed
      · rw [read]
        rfl

theorem items_spells : ∀ (vs : List Json) {cs rest : List Char} {fuel levels : Nat}, vs ≠ [] →
    SpellsItems vs cs → itemsLegible vs = true → itemsFault levels vs = none → cs.length < fuel →
    items (fuel + 1) levels (skipBreaks (cs ++ ']' :: rest)) = .ok (vs, rest)
  | [], _, _, _, _, given, _, _, _, _ => absurd rfl given
  | v :: more, cs, rest, fuel, levels, _, spells, legible, shallow, enough => by
    rw [SpellsItems] at spells
    obtain ⟨before, text, after, tail, blank, first, behind, others, rfl⟩ := spells
    rw [itemsLegible, Bool.and_eq_true] at legible
    rw [itemsFault_none, List.forall_mem_cons, ← itemsFault_none] at shallow
    have taken := first.positive
    simp only [List.length_append] at enough
    obtain ⟨fuel, rfl⟩ : ∃ n, fuel = n + 1 := ⟨fuel - 1, by omega⟩
    have next : more ≠ [] → items (fuel + 1) levels (skipBreaks (tail ++ ']' :: rest)) = .ok (more, rest) := by
      intro given
      rw [List.isEmpty_eq_false_iff.mpr given] at enough
      exact items_spells more given others legible.2 shallow.2 (by simp at enough; omega)
    simp only [List.append_assoc]
    rw [skipBreaks_spelled blank first, items, value_spells v first legible.1 shallow.1
      (ended_behind behind (Or.inl rfl) more.isEmpty tail rest) (by omega)]
    cases more with
    | nil =>
      simp only [List.isEmpty_nil, if_true, List.nil_append, bind, Except.bind]
      rw [skipBreaks_blank behind (by decide)]
      rfl
    | cons w more =>
      simp only [List.isEmpty_cons, Bool.false_eq_true, if_false, List.cons_append, bind, Except.bind]
      rw [skipBreaks_blank behind (by decide)]
      simp only [next (List.cons_ne_nil w more)]

theorem members_spells : ∀ (m : List (String × Json)) {cs rest : List Char} {fuel levels : Nat}, m ≠ [] →
    ∀ read : Members, SpellsMembers m cs → membersLegible m = true → membersFault levels m = none →
    ((read ++ m).map (·.1)).Nodup → cs.length < fuel →
    members (fuel + 1) levels (skipBreaks (cs ++ '\x7d' :: rest)) read = .ok (read ++ m, rest)
  | [], _, _, _, _, given, _, _, _, _, _, _ => absurd rfl given
  | (key, v) :: more, cs, rest, fuel, levels, _, read, spells, legible, shallow, distinct, enough => by
    rw [SpellsMembers] at spells
    obtain ⟨_, ascii, _, _, _, _, tail, blank, colon, space, first, behind, others, rfl⟩ := spells
    rw [membersLegible, Bool.and_eq_true, Bool.and_eq_true] at legible
    rw [membersFault_none, List.forall_mem_cons, ← membersFault_none] at shallow
    have fresh : key ∉ read.map (·.1) := by
      rw [List.map_append, List.nodup_append] at distinct
      exact fun old => distinct.2.2 key old key List.mem_cons_self rfl
    have added : Keyed.insert read key v = read ++ [(key, v)] := Keyed.insert_of_not_mem fresh v
    have taken := first.positive
    simp only [List.length_append, List.length_cons] at enough
    obtain ⟨fuel, rfl⟩ : ∃ n, fuel = n + 1 := ⟨fuel - 1, by omega⟩
    have next : more ≠ [] → members (fuel + 1) levels (skipBreaks (tail ++ '\x7d' :: rest)) (read ++ [(key, v)]) =
        .ok (read ++ [(key, v)] ++ more, rest) := by
      intro given
      rw [List.isEmpty_eq_false_iff.mpr given] at enough
      exact members_spells more given (read ++ [(key, v)]) others legible.2 shallow.2
        (by rwa [List.append_assoc, List.singleton_append]) (by simp at enough; omega)
    simp only [List.append_assoc, quote, List.cons_append, List.nil_append]
    rw [skipBreaks_blank blank (by decide), members, string?_quote ascii legible.1.1]
    simp only
    rw [skipBreaks_blank colon (by decide)]
    simp only
    rw [skipBreaks_spelled space first, value_spells v first legible.1.2 shallow.1.2
      (ended_behind behind (Or.inr rfl) more.isEmpty tail rest) (by omega)]
    cases more with
    | nil =>
      simp only [List.isEmpty_nil, if_true, List.nil_append, bind, Except.bind, added]
      rw [skipBreaks_blank behind (by decide)]
      rfl
    | cons kv more =>
      simp only [List.isEmpty_cons, Bool.false_eq_true, if_false, List.cons_append, bind, Except.bind, added]
      rw [skipBreaks_blank behind (by decide)]
      simp only [next (List.cons_ne_nil kv more), List.append_assoc, List.singleton_append]
end

-- A whole text, with blanks around the document.
def SpelledBy (v : Json) (text : String) : Prop :=
  ∃ before cs after, Blank before ∧ Spells v cs ∧ Blank after ∧ text.toList = before ++ (cs ++ after)

theorem parse_spelled {v : Json} (text : v.SpelledBy t) (legible : v.legible = true)
    (shallow : faultWithin deepestRead v = none) : parse t = .ok v := by
  obtain ⟨before, cs, after, blank, spells, last, same⟩ := text
  have closed : skipBreaks after = [] := List.dropWhile_eq_nil_iff.mpr last
  rw [parse, same]
  simp only [skipBreaks_spelled blank spells]
  have ended : Ended after := List.append_nil after ▸ ended_blank last fun c mem => nomatch mem
  have enough : cs.length ≤ 2 * (cs ++ after).length := by
    rw [List.length_append]
    omega
  rw [value_spells v spells legible shallow ended enough]
  simp only [bind, Except.bind, closed, List.isEmpty_nil, if_true]

theorem newLine_blank (style : Style) (level : Nat) : Blank (style.newLine level) := by
  unfold Style.newLine
  cases style.indent with
  | none => exact fun c mem => nomatch mem
  | some n =>
    intro c mem
    rcases List.mem_cons.mp mem with rfl | space
    · rfl
    · rw [List.eq_of_mem_replicate space]
      rfl

theorem writeFloat_finite (style : Style) {x : Binary64} (finite : x.isFinite = true) :
    writeFloat style x = writeFloat { style with words := true } x := by
  cases x with
  | finite negative place => rfl
  | nan shared => cases finite
  | infinite negative => cases finite

section Printed

variable {style : Style}

mutual
-- A style without words prints the texts of what is finite only.
theorem spells_write : ∀ (v : Json) (level : Nat), (style.words = true ∨ isFinite v = true) →
    Spells v (write style level v)
  | .null, _, _ => by rw [Spells, write]
  | .bool true, _, _ => by rw [Spells, write]; rfl
  | .bool false, _, _ => by rw [Spells, write]; rfl
  | .int n, _, _ => by rw [Spells, write]
  | .float x, _, stated => by
    rw [Spells, write]
    rcases stated with words | finite
    · exact ⟨style, words, rfl⟩
    · exact ⟨_, rfl, writeFloat_finite style finite⟩
  | .str s, _, _ => by
    rw [Spells, write]
    exact ⟨style.ascii, rfl⟩
  | .arr [], _, _ => by
    rw [Spells, write]
    exact ⟨[], blank_nil, rfl⟩
  | .arr (v :: rest), level, stated => by
    rw [Spells, write]
    have listed := items_write (v :: rest) (List.cons_ne_nil v rest) (level + 1) stated (newLine_blank style level)
    refine ⟨_, listed, ?_⟩
    simp [writeItems]
  | .obj [], _, _ => by
    rw [Spells, write]
    exact ⟨[], blank_nil, rfl⟩
  | .obj ((key, v) :: rest), level, stated => by
    rw [Spells, write]
    have listed := members_write ((key, v) :: rest) (List.cons_ne_nil _ rest) (level + 1) stated
      (newLine_blank style level)
    refine ⟨_, listed, ?_⟩
    simp [writeMembers]

theorem items_write : ∀ (vs : List Json), vs ≠ [] → ∀ (level : Nat) {gap : List Char},
    (style.words = true ∨ itemsFinite vs = true) → Blank gap →
    SpellsItems vs ((writeItems style level vs).tail ++ gap)
  | [], given, _, _, _, _ => absurd rfl given
  | v :: rest, _, level, gap, stated, blank => by
    rw [itemsFinite, Bool.and_eq_true, or_and_left] at stated
    have next : rest ≠ [] → SpellsItems rest ((writeItems style level rest).tail ++ gap) :=
      fun given => items_write rest given level stated.2 blank
    rw [SpellsItems, writeItems]
    cases rest with
    | nil =>
      exact ⟨_, _, gap, [], newLine_blank style level, spells_write v level stated.1, blank, blank_nil, by
        simp [writeItems]⟩
    | cons w more =>
      exact ⟨_, _, [], _, newLine_blank style level, spells_write v level stated.1, blank_nil,
        next (List.cons_ne_nil w more), by simp [writeItems]⟩

theorem members_write : ∀ (m : List (String × Json)), m ≠ [] → ∀ (level : Nat) {gap : List Char},
    (style.words = true ∨ membersFinite m = true) → Blank gap →
    SpellsMembers m ((writeMembers style level m).tail ++ gap)
  | [], given, _, _, _, _ => absurd rfl given
  | (key, v) :: rest, _, level, gap, stated, blank => by
    rw [membersFinite, Bool.and_eq_true, or_and_left] at stated
    have next : rest ≠ [] → SpellsMembers rest ((writeMembers style level rest).tail ++ gap) :=
      fun given => members_write rest given level stated.2 blank
    have space : Blank [' '] := by simp [Blank, isBreak]
    rw [SpellsMembers, writeMembers]
    cases rest with
    | nil =>
      exact ⟨_, style.ascii, [], [' '], _, gap, [], newLine_blank style level, blank_nil, space,
        spells_write v level stated.1, blank, blank_nil, by simp [writeMembers]⟩
    | cons kv more =>
      exact ⟨_, style.ascii, [], [' '], _, [], _, newLine_blank style level, blank_nil, space,
        spells_write v level stated.1, blank_nil, next (List.cons_ne_nil kv more), by
        simp [writeMembers]⟩
end

theorem spelledBy_render {v : Json} (stated : style.words = true ∨ v.isFinite = true) :
    v.SpelledBy (render style v) := by
  refine ⟨[], write style 0 v, [], blank_nil, spells_write v 0 stated, blank_nil, ?_⟩
  rw [render, String.toList_ofList, List.nil_append, List.append_nil]

end Printed

end Orchestration.Json
