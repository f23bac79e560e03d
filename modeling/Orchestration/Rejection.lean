import Orchestration.Decode.Basic

namespace Orchestration

structure Rejection where
  title : String
  refusal : Refusal
  deriving DecidableEq, Repr

namespace Rejection

-- The number of complaints, in words, for one line.
def headline (r : Rejection) : String :=
  match r.refusal with
  | .invalid complaints =>
      toString complaints.length ++
        (if complaints.length = 1 then " validation error for " else " validation errors for ") ++ r.title
  | .malformedCases => "malformed cases in " ++ r.title

end Rejection

def Decode.load (title : String) (d : Decode α) (s : Supply) : Except Rejection (α × Supply) :=
  match d s with
  | .ok r => .ok r
  | .error refusal => .error ⟨title, refusal⟩

end Orchestration
