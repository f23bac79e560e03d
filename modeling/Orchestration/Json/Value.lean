import Orchestration.Keyed
import Orchestration.Number.Decimal

namespace Orchestration

-- An object lists its members in the order in which they were written. Integers are exact, and apart from numbers
-- with a fraction or an exponent.
inductive Json where
  | null
  | bool (b : Bool)
  | int (n : Int)
  | float (x : Binary64)
  | str (s : String)
  | arr (items : List Json)
  | obj (members : List (String × Json))
  deriving Inhabited, BEq, Repr

abbrev Members := Keyed Json

namespace Json

-- Whether a value counts as given: null, false, zero and everything empty do not.
def isGiven : Json → Bool
  | .null => false
  | .bool b => b
  | .int n => n != 0
  | .float x => !x.same Binary64.zero
  | .str s => s != ""
  | .arr items => !items.isEmpty
  | .obj members => !members.isEmpty

def members? : Json → Option Members
  | .obj m => some m
  | _ => none

def isNull : Json → Bool
  | .null => true
  | _ => false

def ofText? : Option String → Json
  | some s => .str s
  | none => .null

def ofInt? : Option Int → Json
  | some n => .int n
  | none => .null

mutual
-- The document as storage and replies hold it: a number that is not finite becomes null.
def finiteOnly : Json → Json
  | .float x => if x.isFinite then .float x else .null
  | .arr items => .arr (finiteItems items)
  | .obj members => .obj (finiteMembers members)
  | v => v

def finiteItems : List Json → List Json
  | [] => []
  | v :: rest => finiteOnly v :: finiteItems rest

def finiteMembers : List (String × Json) → List (String × Json)
  | [] => []
  | (k, v) :: rest => (k, finiteOnly v) :: finiteMembers rest
end

mutual
def isFinite : Json → Bool
  | .float x => x.isFinite
  | .arr items => itemsFinite items
  | .obj members => membersFinite members
  | _ => true

def itemsFinite : List Json → Bool
  | [] => true
  | v :: rest => isFinite v && itemsFinite rest

def membersFinite : List (String × Json) → Bool
  | [] => true
  | (_, v) :: rest => isFinite v && membersFinite rest
end

end Json
end Orchestration
