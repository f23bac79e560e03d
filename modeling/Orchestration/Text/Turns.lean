namespace Orchestration.Text

-- A set of characters is given by the code points, in increasing order, at which membership turns. A code point is a
-- member if the turns up to it are odd in number.
def turned (turns : List Nat) (n : Nat) : Bool := (turns.takeWhile (· ≤ n)).length % 2 == 1

end Orchestration.Text
