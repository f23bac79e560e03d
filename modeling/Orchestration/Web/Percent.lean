import Orchestration.Text.Utf8

namespace Orchestration.Web

-- Escaping keeps what is escaped already. A percent sign without two digits stands for itself.
def hexDigit (n : Nat) : Char := if n < 10 then Char.ofNat (48 + n) else Char.ofNat (55 + n)

def hexValue? (c : Char) : Option Nat :=
  if c.isDigit then some (c.toNat - 48)
  else if 'a' ≤ c && c ≤ 'f' then some (c.toNat - 87)
  else if 'A' ≤ c && c ≤ 'F' then some (c.toNat - 55)
  else none

-- Letters and digits of ASCII and four signs never need to be escaped.
def isUnreserved (c : Char) : Bool :=
  c.isAlphanum || ['-', '.', '_', '~'].contains c

def escape (c : Char) : List Char :=
  (Text.utf8 c).flatMap fun b => ['%', hexDigit (b.toNat / 16), hexDigit (b.toNat % 16)]

def quote (safe : Char → Bool) : List Char → List Char
  | [] => []
  | '%' :: a :: b :: rest =>
      if (hexValue? a).isSome && (hexValue? b).isSome then '%' :: a :: b :: quote safe rest
      else (if safe '%' then ['%'] else escape '%') ++ quote safe (a :: b :: rest)
  | c :: rest => (if safe c then [c] else escape c) ++ quote safe rest

def bytes : List Char → List UInt8
  | [] => []
  | '%' :: a :: b :: rest =>
      match hexValue? a, hexValue? b with
      | some x, some y => UInt8.ofNat (16 * x + y) :: bytes rest
      | _, _ => 37 :: bytes (a :: b :: rest)
  | c :: rest => Text.utf8 c ++ bytes rest

def plain (cs : List Char) : List Char := Text.decode (bytes cs)

example : quote isUnreserved "a b%20é%".toList = "a%20b%20%C3%A9%25".toList := by decide +kernel
example : plain "%E2%82%AC%zz%".toList = "€%zz%".toList := by decide +kernel

end Orchestration.Web
