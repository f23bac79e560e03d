import Orchestration.Chain.Basic
import Orchestration.Proofs.Decoding

namespace Orchestration.Decode

structure Composed (P : ∀ {α : Type}, Decode α → Prop) : Prop where
  pure (a : α) : P (Pure.pure a : Decode α)
  complain (p : Problem) : P (complain p : Decode α)
  map {f : α → β} {d : Decode α} (part : P d) : P (f <$> d)
  seq {f : Decode (α → β)} {d : Decode α} (first : P f) (second : P d) : P (f <*> d)
  under {place : Place} {d : Decode α} (part : P d) : P (under place d)

-- A rule without an id is the only thing that draws a name.
structure Inherited (P : ∀ {α : Type}, Decode α → Prop) : Prop extends Composed P where
  fresh : P Rule.freshId

namespace Composed

variable {P : ∀ {α : Type}, Decode α → Prop} (parts : Composed P)
include parts

theorem field {m : Members} {f : FieldName} {absent : Decode α} {read : Json → Decode α} (missing : P absent)
    (given : ∀ v, P (read v)) : P (Decode.field m f absent read) := by
  unfold Decode.field
  split
  · exact parts.under (given _)
  · exact missing

theorem required {m : Members} {f : FieldName} {read : Json → Decode α} (given : ∀ v, P (read v)) :
    P (Decode.required m f read) :=
  parts.field (parts.under (parts.complain _)) given

theorem record {read : Members → Decode α} (given : ∀ m, P (read m)) : P (Decode.record source v read) := by
  cases v with
  | obj m => exact given m
  | null | bool _ | int _ | float _ | str _ | arr _ => exact parts.complain _

theorem items {read : Json → Decode α} (given : ∀ v, P (read v)) (start : Nat) (vs : List Json) :
    P (Decode.items read start vs) := by
  induction vs generalizing start with
  | nil => exact parts.pure []
  | cons v rest ih => exact parts.seq (parts.map (parts.under (given v))) (ih (start + 1))

theorem list {read : Json → Decode α} (given : ∀ v, P (read v)) (v : Json) : P (Decode.list read v) := by
  cases v with
  | arr vs => exact parts.items given 0 vs
  | null | bool _ | int _ | float _ | str _ | obj _ => exact parts.complain _

theorem members {read : Json → Decode α} (given : ∀ v, P (read v)) (m : Members) : P (Decode.members read m) := by
  induction m with
  | nil => exact parts.pure []
  | cons kv rest ih =>
    exact parts.seq (parts.map (f := fun a as => (kv.1, a) :: as) (parts.under (given kv.2))) ih

theorem mapOf {read : Json → Decode α} (given : ∀ v, P (read v)) (v : Json) : P (Decode.mapOf read v) := by
  cases v with
  | obj m => exact parts.members given m
  | null | bool _ | int _ | float _ | str _ | arr _ => exact parts.complain _

theorem object (v : Json) : P (Decode.object v) := by
  cases v with
  | obj m => exact parts.pure m
  | null | bool _ | int _ | float _ | str _ | arr _ => exact parts.complain _

theorem optional {read : Json → Decode α} (given : ∀ v, P (read v)) (v : Json) : P (Decode.optional read v) := by
  cases v with
  | null => exact parts.pure none
  | bool _ | int _ | float _ | str _ | arr _ | obj _ => exact parts.map (given _)

theorem text (v : Json) : P (Decode.text v) := by
  cases v with
  | str s => exact parts.pure s
  | null | bool _ | int _ | float _ | arr _ | obj _ => exact parts.complain _

theorem textOrNumber (v : Json) : P (Decode.textOrNumber v) := by
  cases v with
  | str _ | int _ | float _ => exact parts.pure _
  | null | bool _ | arr _ | obj _ => exact parts.complain _

theorem integer (v : Json) : P (Decode.integer v) := by
  unfold Decode.integer
  split
  any_goals split
  all_goals first | exact parts.pure _ | exact parts.complain _

theorem number (v : Json) : P (Decode.number v) := by
  unfold Decode.number
  split
  any_goals dsimp only
  any_goals split
  all_goals first | exact parts.pure _ | exact parts.complain _

theorem boolOfInteger (n : Int) : P (Decode.boolOfInteger n) := by
  unfold Decode.boolOfInteger
  split
  · exact parts.pure _
  · split
    · exact parts.pure _
    · exact parts.complain _

theorem bool (v : Json) : P (Decode.bool v) := by
  unfold Decode.bool
  split
  any_goals split
  all_goals first | exact parts.pure _ | exact parts.complain _ | exact parts.boolOfInteger _

theorem choice (of : String → Option α) (v : Json) : P (Decode.choice of v) := by
  unfold Decode.choice
  split
  any_goals split
  all_goals first | exact parts.pure _ | exact parts.complain _

theorem audience (v : Json) : P (Notification.decodeAudience v) := by
  unfold Notification.decodeAudience
  split
  · exact parts.pure _
  · exact parts.list parts.text _

theorem defaulted {m : Members} {f : FieldName} {a : α} {read : Json → Decode α} (given : ∀ v, P (read v)) :
    P (Decode.field m f (Pure.pure a) read) :=
  parts.field (parts.pure a) given

end Composed

-- What is read does not hang on the names at hand, and none is drawn.
def Still (d : Decode α) : Prop := ∀ s a t, d s = .ok (a, t) → ∀ u, d u = .ok (a, u)

theorem Still.same {d : Decode α} (quiet : Still d) (decoded : d s = .ok (a, t)) : t = s := by
  have again := quiet s a t decoded s
  rw [decoded] at again
  cases again
  rfl

theorem still : Composed Still where
  pure a := by
    intro s b t decoded u
    obtain ⟨rfl, _⟩ := pure_parts decoded
    rfl
  complain p := fun s a t decoded => absurd decoded complain_fails
  map quiet := by
    intro s b t decoded u
    obtain ⟨a, read, rfl⟩ := map_parts decoded
    exact map_ok (quiet s a t read u)
  seq first second := by
    intro s b t decoded u
    obtain ⟨g, v, a, before, after, rfl⟩ := seq_parts decoded
    exact seq_ok (first s g v before u) (second v a t after u)
  under quiet := fun s a t decoded u => under_eq_ok.mpr (quiet s a t (under_eq_ok.mp decoded) u)

namespace Inherited

variable {P : ∀ {α : Type}, Decode α → Prop} (parts : Inherited P)
include parts

theorem rule (source : Source) (v : Json) : P (Rule.decode source v) :=
  parts.record fun _ => parts.seq (parts.seq (parts.seq (parts.seq (parts.map
    (parts.field parts.fresh parts.textOrNumber)) (parts.defaulted parts.textOrNumber))
    (parts.defaulted parts.textOrNumber)) (parts.defaulted (parts.choice _))) (parts.defaulted parts.textOrNumber)

theorem details (k : Kind) (source : Source) (m : Members) : P (k.form.read source m) := by
  cases k
  all_goals refine parts.map ?_
  all_goals repeat' first | apply parts.seq | apply parts.map
  all_goals first
    | exact parts.pure _
    | refine parts.defaulted ?_
  all_goals first
    | exact parts.text
    | exact parts.optional parts.text
    | exact parts.integer
    | exact parts.bool
    | exact parts.choice _
    | exact parts.audience
    | exact parts.list (parts.rule source)

theorem payload (k : Kind) (source : Source) (m : Members) : P (k.form.readMembers source m) :=
  parts.seq (parts.seq (parts.seq (parts.seq (parts.map (parts.defaulted parts.text)) (parts.defaulted parts.integer))
    (parts.defaulted (parts.choice _))) (parts.details k source m)) (parts.pure _)

theorem position (source : Source) (v : Json) : P (Position.decode source v) :=
  parts.record fun _ => parts.seq (parts.map (parts.defaulted parts.number)) (parts.defaulted parts.number)

theorem edge (source : Source) (v : Json) : P (Edge.decode source v) :=
  parts.record fun _ => parts.seq (parts.seq (parts.seq (parts.seq (parts.map (parts.required parts.text))
    (parts.required parts.text)) (parts.required parts.text)) (parts.defaulted (parts.optional parts.text)))
    (parts.defaulted (parts.optional parts.text))

theorem action (source : Source) (v : Json) : P (Action.decode source v) := by
  have place : ∀ v, P (Action.decodePosition source v) := fun _ =>
    parts.record fun _ => parts.defaulted (parts.position source)
  have text : ∀ v, P (Decode.optional Decode.text v) := parts.optional parts.text
  exact parts.record fun _ => parts.seq (parts.seq (parts.seq (parts.seq (parts.seq (parts.seq (parts.map
    (parts.required (parts.choice _))) (parts.defaulted parts.object)) (parts.defaulted text)) (parts.defaulted text))
    (parts.defaulted parts.pure)) (parts.defaulted (parts.optional parts.integer))) (parts.defaulted place)

theorem chain (source : Source) (v : Json) : P (Chain.decode source v) := by
  have text : ∀ v, P (Decode.optional Decode.text v) := parts.optional parts.text
  exact parts.record fun _ => parts.seq (parts.seq (parts.seq (parts.seq (parts.map (parts.defaulted text))
    (parts.defaulted text)) (parts.defaulted parts.text)) (parts.defaulted text))
    (parts.defaulted (parts.mapOf (parts.action source)))

end Inherited

end Orchestration.Decode
