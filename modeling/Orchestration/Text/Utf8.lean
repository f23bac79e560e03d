import Orchestration.Text.Half

namespace Orchestration.Text

def utf8 (c : Char) : List UInt8 := String.utf8EncodeChar c

-- A half is written as a character with its number would be.
def Point.bytes : Point → List UInt8
  | .char c => utf8 c
  | .half unit =>
      [UInt8.ofNat (0xE0 + unit / 0x1000), UInt8.ofNat (0x80 + unit / 0x40 % 0x40), UInt8.ofNat (0x80 + unit % 0x40)]

def bytes (cs : List Char) : List UInt8 := (points cs).flatMap Point.bytes

structure Begun where
  missing : Nat
  value : Nat
  low : Nat
  high : Nat
  deriving DecidableEq, Repr

-- What a byte begins: a character is one to four bytes long, and the first one tells how many follow.
-- The bounds of the second byte keep out numbers beyond the last character, characters that are written
-- longer than they need be, and halves of pairs, unless these may be written as well.
def begun? (halves : Bool) (byte : Nat) : Option Begun :=
  if byte < 0xC2 then none
  else if byte < 0xE0 then some ⟨1, byte - 0xC0, 0x80, 0xBF⟩
  else if byte < 0xF0 then
    some ⟨2, byte - 0xE0, if byte == 0xE0 then 0xA0 else 0x80, if byte == 0xED && !halves then 0x9F else 0xBF⟩
  else if byte < 0xF5 then
    some ⟨3, byte - 0xF0, if byte == 0xF0 then 0x90 else 0x80, if byte == 0xF4 then 0x8F else 0xBF⟩
  else none

def replacement : Char := '\ufffd'

-- What a byte gives that does not belong to a character before it.
def startWith (byte : Nat) : List Char × Option Begun :=
  if byte < 0x80 then ([Char.ofNat byte], none)
  else match begun? false byte with
    | some b => ([], some b)
    | none => ([replacement], none)

-- What a byte gives behind those of a character that has begun.
def goOn (b : Begun) (byte : Nat) : List Char × Option Begun :=
  if b.low ≤ byte && byte ≤ b.high then
    let value := b.value * 64 + (byte - 0x80)
    if b.missing == 1 then ([Char.ofNat value], none)
    else ([], some ⟨b.missing - 1, value, 0x80, 0xBF⟩)
  else (replacement :: (startWith byte).1, (startWith byte).2)

def decodeFrom : Option Begun → List UInt8 → List Char
  | none, [] => []
  | some _, [] => [replacement]
  | open?, byte :: rest =>
      let (done, left) := match open? with
        | some b => goOn b byte.toNat
        | none => startWith byte.toNat
      done ++ decodeFrom left rest

-- The characters that bytes are. As many bytes as could begin a character and do not are one U+FFFD
-- together, and reading goes on with the byte that does not belong to them.
def decode (bytes : List UInt8) : List Char := decodeFrom none bytes

-- The code points that bytes are, if they are a text. Halves may be written as well.
def decodeFrom? : Option Begun → List UInt8 → Option (List Point)
  | none, [] => some []
  | some _, [] => none
  | none, byte :: rest =>
      if byte.toNat < 0x80 then (decodeFrom? none rest).map (.char (Char.ofNat byte.toNat) :: ·)
      else match begun? true byte.toNat with
        | some b => decodeFrom? (some b) rest
        | none => none
  | some b, byte :: rest =>
      if b.low ≤ byte.toNat && byte.toNat ≤ b.high then
        let value := b.value * 64 + (byte.toNat - 0x80)
        if b.missing == 1 then (decodeFrom? none rest).map (Point.ofNat value :: ·)
        else decodeFrom? (some ⟨b.missing - 1, value, 0x80, 0xBF⟩) rest
      else none

def decode? (bytes : List UInt8) : Option (List Point) := decodeFrom? none bytes

theorem decode_ascii {byte : UInt8} (rest : List UInt8) (h : byte.toNat < 0x80) :
    decode (byte :: rest) = Char.ofNat byte.toNat :: decode rest := by
  simp [decode, decodeFrom, startWith, h]

example : decode [0xE2, 0x82, 0xAC] = ['€'] ∧ decode [0xF0, 0x9F, 0x98, 0x80] = ['😀'] := by
  decide +kernel
example : decode [0xE2, 0x82] = ['\ufffd'] ∧ decode [0xE2, 0x82, 0x28] = ['\ufffd', '('] ∧
    decode [0xED, 0xA0, 0x80] = ['\ufffd', '\ufffd', '\ufffd'] := by
  decide +kernel
example : decode? [0xED, 0xA0, 0x80, 0x28] = some [.half 0xD800, .char '('] ∧ decode? [0xE2, 0x28] = none := by
  decide +kernel

end Orchestration.Text
