import Orchestration.Json.Value
import Orchestration.Text.Half

namespace Orchestration.Json

-- A record prescribes the shape of most of what it holds. A value whose shape nothing prescribes is
-- handed out value by value, and only so far down. Every value takes a level there, be it a text or
-- an empty list.
def deepestDump : Nat := 255

-- The level below which stored values are not read. The whole document is at level zero.
def deepestStored : Nat := 200

inductive DumpFault where
  | tooDeep
  | brokenKey
  deriving DecidableEq, Repr

def DumpFault.message : DumpFault → String
  | .tooDeep => "Maximum serialization depth exceeded"
  | .brokenKey => "A key is no text"

mutual
-- The first fault of a value of which so many levels are handed out.
def faultWithin : Nat → Json → Option DumpFault
  | 0, _ => some .tooDeep
  | levels + 1, .arr items => itemsFault levels items
  | levels + 1, .obj members => membersFault levels members
  | _ + 1, _ => none

def itemsFault (levels : Nat) : List Json → Option DumpFault
  | [] => none
  | v :: rest =>
      match faultWithin levels v with
      | some fault => some fault
      | none => itemsFault levels rest

def membersFault (levels : Nat) : List (String × Json) → Option DumpFault
  | [] => none
  | (k, v) :: rest =>
      if Text.hasHalf k then some .brokenKey
      else match faultWithin levels v with
        | some fault => some fault
        | none => membersFault levels rest
end

-- Why a value of any shape cannot be handed out.
def looseFault? (v : Json) : Option DumpFault := faultWithin deepestDump v

def looseFaults? (m : Members) : Option DumpFault := membersFault deepestDump m

-- The document of a record, unless it cannot be handed out.
def dumped (fault : Option DumpFault) (v : Json) : Except DumpFault Json :=
  match fault with
  | some fault => .error fault
  | none => .ok v

mutual
def hasHalf : Json → Bool
  | .str s => Text.hasHalf s
  | .arr items => itemsHalf items
  | .obj members => membersHalf members
  | _ => false

def itemsHalf : List Json → Bool
  | [] => false
  | v :: rest => hasHalf v || itemsHalf rest

def membersHalf : List (String × Json) → Bool
  | [] => false
  | (k, v) :: rest => Text.hasHalf k || hasHalf v || membersHalf rest
end

mutual
-- Whether no value lies more than so many levels below a document.
def within : Nat → Json → Bool
  | levels, .arr items => itemsWithin levels items
  | levels, .obj members => membersWithin levels members
  | _, _ => true

def itemsWithin : Nat → List Json → Bool
  | _, [] => true
  | 0, _ :: _ => false
  | levels + 1, v :: rest => within levels v && itemsWithin (levels + 1) rest

def membersWithin : Nat → List (String × Json) → Bool
  | _, [] => true
  | 0, _ :: _ => false
  | levels + 1, (_, v) :: rest => within levels v && membersWithin (levels + 1) rest
end

theorem dumped_eq_ok_iff {fault : Option DumpFault} {v w : Json} :
    dumped fault v = .ok w ↔ fault = none ∧ v = w := by
  cases fault <;> simp [dumped]

-- A list with a number in it takes two levels when it is handed out, and reaches one level down.
example : faultWithin 1 (.arr [.int 1]) = some .tooDeep ∧ faultWithin 1 (.arr []) = none ∧
    within 1 (.arr [.int 1]) = true := by decide +kernel

end Orchestration.Json
