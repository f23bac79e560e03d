import Orchestration.Branch

namespace Orchestration

-- An edit gives a new payload. It names its rule by a loose value, and what is no text names none.
def Conditional.maxRules : Nat := 10

inductive RuleEdit where
  | add (rule : Rule)
  | update (id : Json) (patch : Members)
  | remove (id : Json)
  | move (id index : Json)

inductive RuleFault where
  | tooMany
  | reserved
  | inUse (id : String)
  | unknown (id : String)
  deriving DecidableEq, Repr

def RuleFault.message : RuleFault → String
  | .tooMany => "A conditional supports at most " ++ toString Conditional.maxRules ++ " rules"
  | .reserved => "'" ++ Branch.fallbackHandle ++ "' is reserved for the fallback branch"
  | .inUse id => "Rule id already in use: " ++ id
  | .unknown id => "Rule not found: " ++ id

namespace RuleEdit

inductive Fault where
  | rule (fault : RuleFault)
  | rejected (r : Rejection)
  | notIndex
  deriving Repr

-- Whether a loose value is the id of a rule.
def names (id : Json) (r : Rule) : Bool :=
  match id with
  | .str id => r.id == id
  | _ => false

def place (rules : List Rule) (id : Json) : Except RuleFault Nat :=
  match rules.findIdx? (names id) with
  | some i => .ok i
  | none => .error (.unknown (Json.shown id))

def indexWithin? (length : Nat) : Json → Option Nat
  | .int n => some (max 0 (min n length)).toNat
  | .bool b => some (min b.toNat length)
  | .float x =>
      if (Binary64.ofInt length).lt x then some length
      else if Binary64.zero.lt x then none
      else some 0
  | _ => none

-- Whether a handle may be given to a rule, the rules being those beside it.
def checkFree (rules : List Rule) (handle : String) : Except RuleFault Unit :=
  if handle = Branch.fallbackHandle then .error .reserved
  else if rules.any (·.id == handle) then .error (.inUse handle)
  else .ok ()

def addRule (rules : List Rule) (rule : Rule) : Except RuleFault (List Rule) :=
  if Conditional.maxRules ≤ rules.length then .error .tooMany
  else do
    checkFree rules rule.id
    return rules ++ [rule]

-- A rule with some members replaced, read again as a whole.
def patched (rule : Rule) (patch : Members) : Decode Rule :=
  Rule.decode .document (.obj ((Rule.members rule).update patch))

def updateRule (rules : List Rule) (id : Json) (patch : Members) (s : Supply) :
    Except Fault (List Rule × Supply) := do
  let i ← (place rules id).mapError Fault.rule
  match rules[i]? with
  | none => .error (.rule (.unknown (Json.shown id)))
  | some current =>
      let (updated, s) ← (Decode.load Rule.title (patched current patch) s).mapError Fault.rejected
      if updated.id ≠ current.id then
        (checkFree (rules.eraseIdx i) updated.id).mapError Fault.rule
      return (rules.set i updated, s)

def removeRule (rules : List Rule) (id : Json) : Except RuleFault (List Rule) := do
  return rules.eraseIdx (← place rules id)

-- Moves a rule to an index among the others.
def moveRule (rules : List Rule) (id index : Json) : Except Fault (List Rule) := do
  let i ← (place rules id).mapError Fault.rule
  let others := rules.eraseIdx i
  match rules[i]?, indexWithin? others.length index with
  | some rule, some index => return others.insertIdx index rule
  | none, _ => .error (.rule (.unknown (Json.shown id)))
  | _, none => .error .notIndex

def apply (edit : RuleEdit) (rules : List Rule) (s : Supply) : Except Fault (List Rule × Supply) :=
  match edit with
  | .add rule => ((addRule rules rule).mapError Fault.rule).map (·, s)
  | .update id patch => updateRule rules id patch s
  | .remove id => ((removeRule rules id).mapError Fault.rule).map (·, s)
  | .move id index => (moveRule rules id index).map (·, s)

end RuleEdit

def Payload.editRules (p : Payload Conditional) (edit : RuleEdit) (s : Supply) :
    Except RuleEdit.Fault (Payload Conditional × Supply) := do
  let (rules, s) ← edit.apply p.details.rules s
  return ({ p with details := { p.details with rules := rules } }, s)

end Orchestration
