namespace Orchestration

inductive Notice where
  | info (text : String)
  | warning (text : String)
  deriving DecidableEq, Repr

def Notice.line : Notice → String
  | .info text => "INFO: " ++ text
  | .warning text => "WARNING: " ++ text

-- A result with the notices that were given on the way to it, in order.
structure Noted (α : Type) where
  value : α
  notices : List Notice

namespace Noted

def quiet (value : α) : Noted α := ⟨value, []⟩

def map (f : α → β) (n : Noted α) : Noted β := ⟨f n.value, n.notices⟩

def bind (n : Noted α) (f : α → Noted β) : Noted β :=
  let next := f n.value
  ⟨next.value, n.notices ++ next.notices⟩

end Noted
end Orchestration
