import Orchestration.Fresh
import Orchestration.Json.Value

namespace Orchestration

-- A decoder complains about everything that is wrong, in the order of the fields. Older cases of the wrong shape are
-- no complaint: they stop the decoding where they are met, and what was found so far is dropped.
inductive Place where
  | key (name : String)
  | index (n : Nat)
  deriving DecidableEq, Repr

inductive Problem where
  | missing
  | notText
  -- A text with half of a surrogate pair, where its characters matter.
  | brokenText
  | notInteger
  | unreadableInteger
  | fractionalInteger
  | oversizedInteger
  | notFinite
  | notNumber
  | unreadableNumber
  | notBool
  | unreadableBool
  | notChoice
  | notList
  | notSequence
  | notMap
  | notRecord
  | notAttributes
  | untagged
  | unknownTag
  deriving DecidableEq, Repr

def Problem.code : Problem → String
  | .missing => "missing"
  | .notText => "string_type"
  | .brokenText => "string_unicode"
  | .notInteger => "int_type"
  | .unreadableInteger => "int_parsing"
  | .fractionalInteger => "int_from_float"
  | .oversizedInteger => "int_parsing_size"
  | .notFinite => "finite_number"
  | .notNumber => "float_type"
  | .unreadableNumber => "float_parsing"
  | .notBool => "bool_type"
  | .unreadableBool => "bool_parsing"
  | .notChoice => "enum"
  | .notList => "list_type"
  | .notSequence => "tuple_type"
  | .notMap => "dict_type"
  | .notRecord => "model_type"
  | .notAttributes => "model_attributes_type"
  | .untagged => "union_tag_not_found"
  | .unknownTag => "union_tag_invalid"

structure Complaint where
  problem : Problem
  path : List Place
  deriving DecidableEq, Repr

inductive Refusal where
  | invalid (complaints : List Complaint)
  | malformedCases
  deriving DecidableEq, Repr

-- Both refusals: malformed cases win, complaints add up.
def Refusal.both : Refusal → Refusal → Refusal
  | .invalid a, .invalid b => .invalid (a ++ b)
  | _, _ => .malformedCases

def Refusal.under (place : Place) : Refusal → Refusal
  | .invalid complaints => .invalid (complaints.map fun c => { c with path := place :: c.path })
  | .malformedCases => .malformedCases

-- Where a document comes from. The body of a request is read attribute by attribute, and a
-- value without attributes is reported as such.
inductive Source where
  | document
  | request
  deriving DecidableEq, Repr

def Decode (α : Type) : Type := Supply → Except Refusal (α × Supply)

namespace Decode

def pure (a : α) : Decode α := fun s => .ok (a, s)

def refuse (r : Refusal) : Decode α := fun _ => .error r

def complain (p : Problem) : Decode α := refuse (.invalid [⟨p, []⟩])

-- Decodes two parts of one value. The second one is looked at also when the first is
-- refused, so that its complaints are heard.
def both (f : Decode (α → β)) (d : Decode α) : Decode β := fun s =>
  match f s with
  | .ok (f, s) =>
      match d s with
      | .ok (a, s) => .ok (f a, s)
      | .error r => .error r
  | .error r =>
      match d s with
      | .ok _ => .error r
      | .error r' => .error (r.both r')

def map (f : α → β) (d : Decode α) : Decode β := fun s =>
  match d s with
  | .ok (a, s) => .ok (f a, s)
  | .error r => .error r

-- Only the applicative operations are offered as an instance: a sequence of dependent
-- steps would hide which complaints are collected.
instance : Applicative Decode where
  pure := pure
  map := map
  seq f d := both f (d ())

def under (place : Place) (d : Decode α) : Decode α := fun s =>
  match d s with
  | .ok r => .ok r
  | .error r => .error (r.under place)

-- Decodes the items of a list, each under its place from `start` on.
def items (read : Json → Decode α) (start : Nat) : List Json → Decode (List α)
  | [] => pure []
  | v :: rest => both (map List.cons (under (.index start) (read v))) (items read (start + 1) rest)

def members (read : Json → Decode α) : Members → Decode (List (String × α))
  | [] => pure []
  | (k, v) :: rest =>
      both (map (fun a as => (k, a) :: as) (under (.key k) (read v))) (members read rest)

theorem map_eq_ok {f : α → β} {d : Decode α} {s t : Supply} {b : β} :
    map f d s = .ok (b, t) ↔ ∃ a, d s = .ok (a, t) ∧ f a = b := by
  unfold map
  cases d s with
  | ok r =>
    obtain ⟨a, u⟩ := r
    simp only [Except.ok.injEq, Prod.mk.injEq]
    exact ⟨fun ⟨h, e⟩ => ⟨a, ⟨rfl, e⟩, h⟩, fun ⟨x, ⟨e, e'⟩, h⟩ => ⟨e ▸ h, e'⟩⟩
  | error r => simp

-- Two parts are decoded exactly if each of them is, the names being drawn in order.
theorem both_eq_ok {f : Decode (α → β)} {d : Decode α} {s t : Supply} {b : β} :
    both f d s = .ok (b, t) ↔ ∃ g u a, f s = .ok (g, u) ∧ d u = .ok (a, t) ∧ g a = b := by
  constructor
  · intro decoded
    unfold both at decoded
    split at decoded
    · rename_i g u hf
      split at decoded
      · rename_i a v hd
        cases decoded
        exact ⟨g, u, a, hf, hd, rfl⟩
      · cases decoded
    · split at decoded <;> cases decoded
  · rintro ⟨g, u, a, hf, hd, rfl⟩
    simp only [both, hf, hd]

theorem under_eq_ok {place : Place} {d : Decode α} {s : Supply} {r : α × Supply} :
    under place d s = .ok r ↔ d s = .ok r := by
  unfold under
  cases d s <;> simp

theorem items_map {read : Json → Decode α} {encode : α → Json} (xs : List α) (start : Nat) (s : Supply)
    (h : ∀ x ∈ xs, read (encode x) s = .ok (x, s)) :
    items read start (xs.map encode) s = .ok (xs, s) := by
  induction xs generalizing start with
  | nil => rfl
  | cons x rest ih =>
    have head := h x List.mem_cons_self
    have tail := ih (start + 1) fun y hy => h y (List.mem_cons_of_mem _ hy)
    simp only [List.map_cons, items, both, map, under, head, tail]

end Decode

-- The names of a field: the one it is written with, and the plain one that is read as well.
structure FieldName where
  wire : String
  plain : String
  deriving DecidableEq, Repr

namespace FieldName

def same (name : String) : FieldName := ⟨name, name⟩

def given? (f : FieldName) (m : Members) : Option (String × Json) :=
  match m.find? f.wire with
  | some v => some (f.wire, v)
  | none => (m.find? f.plain).map fun v => (f.plain, v)

-- Whether a key of the object was read for the field. The plain name beside the written one
-- was not.
def takes (f : FieldName) (m : Members) (key : String) : Bool :=
  key == f.wire || (key == f.plain && !m.has f.wire)

end FieldName

namespace Decode

def field (m : Members) (f : FieldName) (absent : Decode α) (read : Json → Decode α) : Decode α :=
  match f.given? m with
  | some (key, v) => under (.key key) (read v)
  | none => absent

def required (m : Members) (f : FieldName) (read : Json → Decode α) : Decode α :=
  field m f (under (.key f.wire) (complain .missing)) read

def record (source : Source) (v : Json) (read : Members → Decode α) : Decode α :=
  match v with
  | .obj m => read m
  | _ => complain (match source with | .document => .notRecord | .request => .notAttributes)

end Decode

-- The members of an object that none of the fields took.
def Members.extras (m : Members) (fields : List FieldName) : Members :=
  m.filter fun (key, _) => !fields.any (·.takes m key)

end Orchestration
