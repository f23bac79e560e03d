import Orchestration.Record

namespace Orchestration

theorem bind_parts {x : Except ε α} {f : α → Except ε β} (done : x >>= f = .ok b) :
    ∃ a, x = .ok a ∧ f a = .ok b := by
  cases x with
  | ok a => exact ⟨a, rfl, done⟩
  | error e => cases done

theorem bind_fails {x : Except ε α} {f : α → Except ε β} (failed : x >>= f = .error e) :
    x = .error e ∨ ∃ a, x = .ok a ∧ f a = .error e := by
  cases x with
  | ok a => exact .inr ⟨a, rfl, failed⟩
  | error d =>
    cases failed
    exact .inl rfl

theorem mapError_parts {x : Except ε α} {f : ε → δ} (done : x.mapError f = .ok a) : x = .ok a := by
  cases x with
  | ok b =>
    cases done
    rfl
  | error e => cases done

theorem mapped_parts {x : Except ε α} {f : α → β} (done : x.map f = .ok b) : ∃ a, x = .ok a ∧ f a = b := by
  cases x with
  | ok a =>
    cases done
    exact ⟨a, rfl, rfl⟩
  | error e => cases done

theorem mapped_fails {x : Except ε α} {f : α → β} (failed : x.map f = .error e) : x = .error e := by
  cases x with
  | ok a => cases failed
  | error d =>
    cases failed
    rfl

theorem toOption_parts {x : Except ε α} (done : x.toOption = some a) : x = .ok a := by
  cases x with
  | ok b =>
    cases done
    rfl
  | error e => cases done

theorem FieldName.given?_congr {f : FieldName} {m n : Members} (wire : m.find? f.wire = n.find? f.wire)
    (plain : m.find? f.plain = n.find? f.plain) : f.given? m = f.given? n := by
  rw [given?, given?, wire, plain]

end Orchestration

namespace Orchestration.Decode

-- The instance operations in the words of the plain ones. Nothing else about the instance is used.
theorem map_ok {f : α → β} {d : Decode α} (decoded : d s = .ok (a, t)) : (f <$> d) s = .ok (f a, t) :=
  map_eq_ok.mpr ⟨a, decoded, rfl⟩

theorem seq_ok {f : Decode (α → β)} {d : Decode α} (first : f s = .ok (g, u)) (second : d u = .ok (a, t)) :
    (f <*> d) s = .ok (g a, t) :=
  both_eq_ok.mpr ⟨g, u, a, first, second, rfl⟩

theorem map_parts {f : α → β} {d : Decode α} (decoded : (f <$> d) s = .ok (b, t)) :
    ∃ a, d s = .ok (a, t) ∧ f a = b :=
  map_eq_ok.mp decoded

theorem seq_parts {f : Decode (α → β)} {d : Decode α} (decoded : (f <*> d) s = .ok (b, t)) :
    ∃ g u a, f s = .ok (g, u) ∧ d u = .ok (a, t) ∧ g a = b :=
  both_eq_ok.mp decoded

theorem pure_parts {a b : α} (decoded : (Pure.pure a : Decode α) s = .ok (b, t)) : a = b ∧ s = t := by
  cases decoded
  exact ⟨rfl, rfl⟩

theorem load_parts {d : Decode α} (loaded : load title d s = .ok r) : d s = .ok r := by
  unfold load at loaded
  split at loaded
  · rename_i decoded
    cases loaded
    exact decoded
  · cases loaded

theorem load_fails {d : Decode α} (failed : load title d s = .error r) : d s = .error r.refusal := by
  unfold load at failed
  split at failed
  · cases failed
  · rename_i refused
    cases failed
    exact refused

theorem complain_fails {p : Problem} : (complain p : Decode α) s ≠ .ok r := by
  intro decoded
  cases decoded

theorem given_wire {m : Members} {f : FieldName} (found : m.find? f.wire = some v) :
    f.given? m = some (f.wire, v) := by
  simp [FieldName.given?, found]

theorem field_ok {m : Members} {f : FieldName} {absent : Decode α} {read : Json → Decode α}
    (found : m.find? f.wire = some v) (decoded : read v s = .ok r) : field m f absent read s = .ok r := by
  simp only [field, given_wire found, under_eq_ok, decoded]

theorem required_ok {m : Members} {f : FieldName} {read : Json → Decode α}
    (found : m.find? f.wire = some v) (decoded : read v s = .ok r) : required m f read s = .ok r :=
  field_ok found decoded

theorem field_parts {m : Members} {f : FieldName} {absent : Decode α} {read : Json → Decode α}
    (found : m.find? f.wire = some v) (decoded : field m f absent read s = .ok r) : read v s = .ok r := by
  simpa only [field, given_wire found, under_eq_ok] using decoded

theorem field_congr {m n : Members} {f : FieldName} (same : f.given? m = f.given? n) (absent : Decode α)
    (read : Json → Decode α) : field m f absent read = field n f absent read := by
  simp only [field, same]

theorem field_cases {m : Members} {f : FieldName} {absent : Decode α} {read : Json → Decode α}
    (decoded : field m f absent read s = .ok r) : absent s = .ok r ∨ ∃ v, read v s = .ok r := by
  unfold field at decoded
  cases given : f.given? m with
  | none => exact Or.inl (by simpa only [given] using decoded)
  | some found =>
    simp only [given] at decoded
    exact Or.inr ⟨found.2, under_eq_ok.mp decoded⟩

theorem record_parts {read : Members → Decode α} (decoded : record source v read s = .ok r) :
    ∃ m, v = .obj m ∧ read m s = .ok r := by
  cases v with
  | obj m => exact ⟨m, rfl, decoded⟩
  | null | bool _ | int _ | float _ | str _ | arr _ => cases decoded

theorem optional_text (o : Option String) (s : Supply) :
    optional text (.ofText? o) s = .ok (o, s) := by
  cases o <;> rfl

theorem optional_integer (o : Option Int) (s : Supply) :
    optional integer (.ofInt? o) s = .ok (o, s) := by
  cases o <;> rfl

theorem choice_ok {of : String → Option α} (known : of tag = some a) :
    choice of (.str tag) s = .ok (a, s) := by
  simp [choice, known, pure]

theorem items_images {read : Json → Decode β} {write : α → Json} {image : α → β} (xs : List α)
    (start : Nat) (s : Supply) (each : ∀ x ∈ xs, read (write x) s = .ok (image x, s)) :
    items read start (xs.map write) s = .ok (xs.map image, s) := by
  induction xs generalizing start with
  | nil => rfl
  | cons x rest ih =>
    have head := each x List.mem_cons_self
    have tail := ih (start + 1) fun y mem => each y (List.mem_cons_of_mem _ mem)
    simp only [List.map_cons, items]
    exact both_eq_ok.mpr ⟨_, s, _, map_eq_ok.mpr ⟨_, under_eq_ok.mpr head, rfl⟩, tail, rfl⟩

theorem items_cons_parts {read : Json → Decode α} (decoded : items read start (v :: rest) s = .ok (xs, t)) :
    ∃ x u ys, read v s = .ok (x, u) ∧ items read (start + 1) rest u = .ok (ys, t) ∧ xs = x :: ys := by
  obtain ⟨g, u, ys, head, tail, rfl⟩ := both_eq_ok.mp decoded
  obtain ⟨x, first, rfl⟩ := map_eq_ok.mp head
  exact ⟨x, u, ys, under_eq_ok.mp first, tail, rfl⟩

theorem items_each {read : Json → Decode α} {P : α → Prop} {vs : List Json}
    (each : ∀ v ∈ vs, ∀ s x t, read v s = .ok (x, t) → P x) (decoded : items read start vs s = .ok (xs, t)) :
    ∀ x ∈ xs, P x := by
  induction vs generalizing start s xs with
  | nil => cases decoded; simp
  | cons v rest ih =>
    obtain ⟨x, u, ys, head, tail, rfl⟩ := items_cons_parts decoded
    intro y mem
    rcases List.mem_cons.mp mem with rfl | mem
    · exact each v List.mem_cons_self s y u head
    · exact ih (fun w later => each w (List.mem_cons_of_mem _ later)) tail y mem

theorem items_ok {read : Json → Decode α} {vs : List Json} (decoded : items read start vs s = .ok r) :
    ∀ v ∈ vs, ∃ u x, read v u = .ok x := by
  induction vs generalizing start s r with
  | nil => intro v mem; cases mem
  | cons v rest ih =>
    obtain ⟨x, u, ys, head, tail, _⟩ := items_cons_parts decoded
    intro w mem
    rcases List.mem_cons.mp mem with rfl | mem
    · exact ⟨s, _, head⟩
    · exact ih tail w mem

theorem items_length {read : Json → Decode α} {vs : List Json}
    (decoded : items read start vs s = .ok (xs, t)) : xs.length = vs.length := by
  induction vs generalizing start s xs with
  | nil => cases decoded; rfl
  | cons v rest ih =>
    obtain ⟨x, u, ys, head, tail, rfl⟩ := items_cons_parts decoded
    simpa using ih tail

theorem list_parts {read : Json → Decode α} (decoded : list read v s = .ok r) :
    ∃ vs, v = .arr vs ∧ items read 0 vs s = .ok r := by
  cases v with
  | arr vs => exact ⟨vs, rfl, decoded⟩
  | null | bool _ | int _ | float _ | str _ | obj _ => cases decoded

theorem members_images {read : Json → Decode β} {write : α → Json} {image : α → β} (m : Keyed α)
    (s : Supply) (each : ∀ kv ∈ m, read (write kv.2) s = .ok (image kv.2, s)) :
    members read (m.map fun (k, a) => (k, write a)) s = .ok (m.map fun (k, a) => (k, image a), s) := by
  induction m with
  | nil => rfl
  | cons kv rest ih =>
    have head := each kv List.mem_cons_self
    have tail := ih fun y mem => each y (List.mem_cons_of_mem _ mem)
    simp only [List.map_cons, members]
    exact both_eq_ok.mpr ⟨_, s, _, map_eq_ok.mpr ⟨_, under_eq_ok.mpr head, rfl⟩, tail, rfl⟩

-- What comes last and is only passed on may be another thing, if that makes a known difference.
theorem seq_pure_map {d : Decode (α → β)} {f : β → β} {a b : α}
    (same : ∀ make t, d s = .ok (make, t) → make b = f (make a)) :
    (d <*> Pure.pure b) s = ((d <*> Pure.pure a) s).map fun (made, t) => (f made, t) := by
  simp only [Seq.seq, both, Pure.pure, pure]
  cases read : d s with
  | error r => rfl
  | ok result =>
    obtain ⟨make, t⟩ := result
    simp only [Except.map, same make t read]

section Outcome

-- What is read if nothing is refused, and whatever the complaints are otherwise.

theorem toOption_pure (a : α) (s : Supply) : ((Pure.pure a : Decode α) s).toOption = some (a, s) := rfl

theorem toOption_map (f : α → β) (d : Decode α) (s : Supply) :
    ((f <$> d) s).toOption = (d s).toOption.bind fun (a, t) => some (f a, t) := by
  simp only [Functor.map, map]
  cases d s <;> rfl

theorem toOption_seq (f : Decode (α → β)) (d : Decode α) (s : Supply) :
    ((f <*> d) s).toOption = (f s).toOption.bind fun (g, u) => (d u).toOption.bind fun (a, t) => some (g a, t) := by
  simp only [Seq.seq, both]
  cases f s with
  | error r => cases d s <;> rfl
  | ok result =>
    simp only [Except.toOption, Option.bind_some]
    cases d result.2 <;> rfl

theorem toOption_under (place : Place) (d : Decode α) (s : Supply) :
    (under place d s).toOption = (d s).toOption := by
  simp only [under]
  cases d s <;> rfl

theorem toOption_items_one (read : Json → Decode α) (v : Json) (s : Supply) :
    (items read 0 [v] s).toOption = (read v s).toOption.map fun (a, t) => ([a], t) := by
  simp only [items, both, map, under, pure]
  cases read v s <;> rfl

theorem toOption_members_one (read : Json → Decode α) (key : String) (v : Json) (s : Supply) :
    (members read [(key, v)] s).toOption = (read v s).toOption.map fun (a, t) => ([(key, a)], t) := by
  simp only [members, both, map, under, pure]
  cases read v s <;> rfl

theorem toOption_choice (of : String → Option α) (tag : String) (s : Supply) :
    (choice of (.str tag) s).toOption = (of tag).map fun a => (a, s) := by
  simp only [choice]
  cases of tag <;> rfl

theorem toOption_load (title : String) (d : Decode α) (s : Supply) : (load title d s).toOption = (d s).toOption := by
  simp only [load]
  cases d s <;> rfl

end Outcome

end Orchestration.Decode
