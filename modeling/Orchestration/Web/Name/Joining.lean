import Orchestration.Text.CombiningClass
import Orchestration.Web.Name.Direction

namespace Orchestration.Web

-- What may stand around the two joiners of zero width. The tables are those of Unicode 17, for what a name may hold
-- of Unicode 14.
def joinsNextTurns : List Nat := [
    0x620, 0x621, 0x626, 0x627, 0x628, 0x629, 0x62A, 0x62F, 0x633, 0x640, 0x641, 0x648, 0x649,
    0x64B, 0x66E, 0x670, 0x679, 0x688, 0x69A, 0x6C0, 0x6C1, 0x6C3, 0x6CC, 0x6CD, 0x6CE, 0x6CF,
    0x6D0, 0x6D2, 0x6FA, 0x6FD, 0x6FF, 0x700, 0x712, 0x715, 0x71A, 0x71E, 0x71F, 0x728, 0x729,
    0x72A, 0x72B, 0x72C, 0x72D, 0x72F, 0x74E, 0x759, 0x75C, 0x76B, 0x76D, 0x771, 0x772, 0x773,
    0x775, 0x778, 0x77A, 0x780, 0x7CA, 0x7EB, 0x841, 0x846, 0x848, 0x849, 0x84A, 0x854, 0x855,
    0x856, 0x860, 0x861, 0x862, 0x866, 0x868, 0x869, 0x886, 0x887, 0x889, 0x88E, 0x8A0, 0x8AA,
    0x8AF, 0x8B1, 0x8B3, 0x8B9, 0x8BA, 0x8C9, 0x1820, 0x1879, 0x1887, 0x18A9, 0x18AA, 0x18AB,
    0xA840, 0xA873, 0x10AC0, 0x10AC5, 0x10ACD, 0x10ACE, 0x10AD3, 0x10ADD, 0x10ADE, 0x10AE1, 0x10B80,
    0x10B81, 0x10B82, 0x10B83, 0x10B86, 0x10B89, 0x10B8A, 0x10B8C, 0x10B8D, 0x10B8E, 0x10B90,
    0x10B91, 0x10D00, 0x10D22, 0x10D23, 0x10D24, 0x10F30, 0x10F33, 0x10F34, 0x10F45, 0x10F70,
    0x10F74, 0x10F76, 0x10F82, 0x10FB0, 0x10FB1, 0x10FB2, 0x10FB4, 0x10FB8, 0x10FB9, 0x10FBB,
    0x10FBD, 0x10FBE, 0x10FC0, 0x10FC1, 0x10FC2, 0x10FC4, 0x10FC5, 0x1E922, 0x1E944]

def joinsPreviousTurns : List Nat := [
    0x620, 0x621, 0x622, 0x640, 0x641, 0x64B, 0x66E, 0x670, 0x671, 0x674, 0x679, 0x6D4, 0x6D5,
    0x6D6, 0x6EE, 0x6F0, 0x6FA, 0x6FD, 0x6FF, 0x700, 0x710, 0x711, 0x712, 0x730, 0x74D, 0x780,
    0x7CA, 0x7EB, 0x840, 0x859, 0x860, 0x861, 0x862, 0x866, 0x867, 0x86B, 0x870, 0x883, 0x886,
    0x887, 0x889, 0x88F, 0x8A0, 0x8AD, 0x8AE, 0x8C9, 0x1820, 0x1879, 0x1887, 0x18A9, 0x18AA, 0x18AB,
    0xA840, 0xA872, 0x10AC0, 0x10AC6, 0x10AC7, 0x10AC8, 0x10AC9, 0x10ACB, 0x10ACE, 0x10AD7, 0x10AD8,
    0x10AE2, 0x10AE4, 0x10AE5, 0x10B80, 0x10B92, 0x10D01, 0x10D24, 0x10F30, 0x10F45, 0x10F70,
    0x10F82, 0x10FB0, 0x10FB1, 0x10FB2, 0x10FB7, 0x10FB8, 0x10FC0, 0x10FC1, 0x10FC5, 0x1E922,
    0x1E944]

def joinsNext (c : Char) : Bool := Text.turned joinsNextTurns c.toNat

def joinsPrevious (c : Char) : Bool := Text.turned joinsPreviousTurns c.toNat

def joinedAcross : List Char := ['\u0cbf', '\u0cc6', Char.ofNat 0x11A07, Char.ofNat 0x11A08, Char.ofNat 0x11C3F, Char.ofNat 0x1E94B]

-- Whether letters join across a character: nearly all marks are of this kind.
def isJoinedAcross (c : Char) : Bool :=
  (Direction.of c == .mark && c.toNat != 0x1171E) || joinedAcross.contains c

-- Whether the nearest character that letters do not join across is so.
def meets (kind : Char → Bool) (cs : List Char) : Bool :=
  match cs.dropWhile isJoinedAcross with
  | c :: _ => kind c
  | [] => false

-- Whether the character before a place takes the vowel. What stands before is given backwards.
def behindVirama (before : List Char) : Bool :=
  match before with
  | c :: _ => Text.combiningClass c == Text.virama
  | [] => false

-- Whether a joiner may stand at a place. What stands before it is given backwards.
def mayJoin (joiner : Char) (before after : List Char) : Bool :=
  behindVirama before ||
    (joiner == '\u200c' && meets joinsNext before && meets joinsPrevious after)

example : mayJoin '\u200d' ['\u094d', 'क'] [] ∧ mayJoin '\u200c' ['ب'] ['ب'] ∧
    !mayJoin '\u200c' ['a'] ['b'] ∧ !mayJoin '\u200d' ['ب'] ['ب'] := by
  decide +kernel

end Orchestration.Web
