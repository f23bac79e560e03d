import Orchestration.Proofs.ByteText
import Orchestration.Proofs.DocumentText
import Orchestration.Proofs.HandedOut
import Orchestration.Proofs.StoredRecords
import Orchestration.Store.Remote

namespace Orchestration

namespace Json

-- A character of ASCII that is not zero.
def Lead (c : Char) : Prop := c ≠ '\x00' ∧ c.toNat < 128

-- It stands for itself, in one byte that neither a mark nor a unit of more bytes begins with.
theorem Lead.byte (lead : Lead c) : c ≠ Text.mark ∧ ∃ b, Text.utf8 c = [b] ∧ b ≠ 0 ∧ b < 0x80 := by
  have each : ∀ n < 128, Char.ofNat n ≠ '\x00' → Char.ofNat n ≠ Text.mark ∧
      Text.utf8 (Char.ofNat n) = [UInt8.ofNat n] ∧ UInt8.ofNat n ≠ 0 ∧ UInt8.ofNat n < 0x80 := by decide +kernel
  have known := each c.toNat lead.2
  rw [Char.ofNat_toNat] at known
  obtain ⟨other, bytes, given, low⟩ := known lead.1
  exact ⟨other, _, bytes, given, low⟩

theorem lead_break (space : isBreak c = true) : Lead c := by
  simp only [isBreak, Bool.or_eq_true, beq_iff_eq] at space
  rcases space with ((rfl | rfl) | rfl) | rfl <;> exact ⟨by decide, by decide⟩

theorem unmarked_led {x y : UInt8} (first : x ≠ 0 ∧ x < 0x80) (second : y ≠ 0) (more : List UInt8) :
    unmarked (x :: y :: more) = (.bytes, x :: y :: more) := by
  have low : x.toNat < 0x80 := UInt8.lt_iff_toNat_lt.mp first.2
  have high : ∀ b : UInt8, 0x80 ≤ b.toNat → (b == x) = false := by
    intro b above
    refine beq_false_of_ne ?_
    rintro rfl
    omega
  have zero : ((0 : UInt8) == x) = false := beq_false_of_ne first.1.symm
  have unlike : ∀ order ∈ orderMarks, order.1.isPrefixOf (x :: y :: more) = false := by
    simp [orderMarks, List.isPrefixOf, zero, high]
  have units : encoding (x :: y :: more) = .bytes := by
    rcases more with _ | ⟨_, _ | ⟨_, _⟩⟩ <;> simp [encoding, first.1, second]
  unfold unmarked
  split
  · rename_i found
    have lacks := unlike _ (List.mem_of_find?_eq_some found)
    exact absurd (List.find?_some found) (Bool.eq_false_iff.mp lacks)
  · rw [units]

theorem bodyText?_led {text : String} (spelled : Text.Spelled text.toList) (first : Lead a) (second : Lead b)
    (begins : text.toList = a :: b :: rest) : bodyText? (Text.bytes text.toList) = some text := by
  obtain ⟨plain, x, bytes, given, low⟩ := first.byte
  obtain ⟨plain', y, bytes', given', _⟩ := second.byte
  have body : Text.bytes text.toList = x :: y :: Text.bytes rest := by
    rw [begins, Text.bytes, Text.points_cons plain, Text.points_cons plain']
    simp [Text.Point.bytes, Text.bytes, bytes, bytes']
  simp only [bodyText?, body, unmarked_led ⟨given, low⟩ given']
  rw [← body, Text.decode?_bytes, Option.map_some, spelled, String.ofList_toList]

-- What stands behind blanks begins with what can lead, if it does without them.
def Led (cs : List Char) : Prop := ∃ c rest, cs = c :: rest ∧ Lead c

theorem led_blank (blank : Blank before) (led : Led cs) : Led (before ++ cs) := by
  cases before with
  | nil => exact led
  | cons c more => exact ⟨c, more ++ cs, rfl, lead_break (blank c List.mem_cons_self)⟩

theorem parseBody_spelled {m : Members} (spells : (Json.obj m).SpelledBy text)
    (legible : (Json.obj m).legible = true) (shallow : faultWithin deepestRead (.obj m) = none) :
    parseBody (Text.bytes text.toList) = .ok (.obj m) := by
  have read := parse_spelled spells legible shallow
  have spelled := spells.spelled legible
  obtain ⟨before, cs, after, blank, document, _, parts⟩ := spells
  rw [Spells] at document
  obtain ⟨inner, listed, rfl⟩ := document
  have opening : Lead '\x7b' := ⟨by decide, by decide⟩
  have second : Led (inner ++ '\x7d' :: after) := by
    cases m with
    | nil => exact led_blank listed ⟨_, _, rfl, by decide, by decide⟩
    | cons kv more =>
      obtain ⟨gap, ascii, middle, behind, value, last, others, space, _, _, _, _, _, rfl⟩ := listed
      rw [List.append_assoc]
      exact led_blank space ⟨'\x22', _, rfl, by decide, by decide⟩
  have front : ∃ a b rest, text.toList = a :: b :: rest ∧ Lead a ∧ Lead b := by
    obtain ⟨b, rest, next, follows⟩ := second
    rcases before with _ | ⟨a, _ | ⟨d, more⟩⟩
    · exact ⟨_, b, rest, by simpa [parts] using next, opening, follows⟩
    · exact ⟨a, _, _, parts, lead_break (blank a (by simp)), opening⟩
    · exact ⟨a, d, _, parts, lead_break (blank a (by simp)), lead_break (blank d (by simp))⟩
  obtain ⟨a, b, rest, begins, first, follows⟩ := front
  rw [parseBody, bodyText?_led spelled first follows begins]
  exact read

end Json

namespace RemoteStore

variable {base : String} {p : Orchestrator}

def Carries (reply : Orchestration.Reply) (got : Reply) : Prop :=
  ∃ body, got = .answered reply.status body ∧
    ∀ status document, reply = .answer status document → Json.parseBody body = .ok document

theorem carries_spelled (handed : p.graph.dumpFault? = none) (legible : p.encode.legible = true)
    (spells : p.encode.SpelledBy text) : Carries (.answer 200 p.encode) (.answered 200 (Text.bytes text.toList)) := by
  refine ⟨_, rfl, fun status document same => ?_⟩
  cases same
  have shallow := (Flow.orchestrator p).faultWithin_encode handed
  exact Json.parseBody_spelled spells legible (Json.faultWithin_mono shallow (by decide))

theorem read_ok {q : Request} (absolute : q.address.isAbsolute = true) (valid : p.graph.Validated) (same : p.loaded = p)
    (carried : Carries (.answer 200 p.encode) got) (key : String) (s : Supply) :
    readSave base key q got s = .ok p ∧ readLoad base key q got s = .ok (some p) := by
  obtain ⟨body, rfl, parsed⟩ := carried
  have read : readOrchestrator body s = .ok (p, s) := by
    simp only [readOrchestrator, parsed _ _ rfl, Decode.load, Orchestrator.decode_written valid .document s, same]
    rfl
  have answered : received base q (.answered 200 body) = .ok (200, body) := if_pos absolute
  have success : isSuccess 200 = true := rfl
  constructor
  · simp [readSave, Orchestration.Reply.status, answered, success, read, bind, Except.bind, pure, Except.pure]
  · simp [readLoad, Orchestration.Reply.status, answered, success, read, bind, Except.bind, pure, Except.pure]

theorem read_failure {q : Request} (absolute : q.address.isAbsolute = true) (carried : Carries .failure got)
    (key : String) (s : Supply) : readSave base key q got s = .error (.saveRefused key 500) ∧
      readLoad base key q got s = .error (.loadRefused key 500) := by
  obtain ⟨text, rfl, _⟩ := carried
  constructor
  · simp only [readSave, received, absolute]
    rfl
  · simp only [readLoad, received, absolute]
    rfl

end RemoteStore

end Orchestration
