/-
SigmaRules/Bytes/Base64.lean

Bytes in base 64: three bytes become four characters of six bits each.  What
is left at the end becomes two or three characters, filled up to four with
equals signs.
-/

namespace SigmaRules.Bytes

/-- The 64 characters, in the order of their values. -/
def base64Alphabet : List Char :=
  "ABCDEFGHIJKLMNOPQRSTUVWXYZabcdefghijklmnopqrstuvwxyz0123456789+/".toList

/-- The character of a value below 64. -/
def base64Char (n : Nat) : Char := base64Alphabet.getD n '='

/-- Bytes in base 64. -/
def toBase64 : List UInt8 → List Char
  | [] => []
  | [a] => [base64Char (a.toNat / 4), base64Char (a.toNat % 4 * 16), '=', '=']
  | [a, b] =>
    [base64Char (a.toNat / 4), base64Char (a.toNat % 4 * 16 + b.toNat / 16),
      base64Char (b.toNat % 16 * 4), '=']
  | a :: b :: c :: rest =>
    [base64Char (a.toNat / 4), base64Char (a.toNat % 4 * 16 + b.toNat / 16),
      base64Char (b.toNat % 16 * 4 + c.toNat / 64), base64Char (c.toNat % 64)] ++ toBase64 rest

/-- The value of a character. -/
def base64Value? (c : Char) : Option Nat :=
  if 'A' ≤ c && c ≤ 'Z' then some (c.toNat - 65)
  else if 'a' ≤ c && c ≤ 'z' then some (c.toNat - 71)
  else if '0' ≤ c && c ≤ '9' then some (c.toNat + 4)
  else if c == '+' then some 62
  else if c == '/' then some 63
  else none

/-- A group of four characters being read: how many there are, their value, and
how many equals signs follow them. -/
structure Base64Group where
  count : Nat := 0
  value : Nat := 0
  fill : Nat := 0

/-- The bytes of a complete group. -/
def Base64Group.bytes (g : Base64Group) : List UInt8 :=
  match g.count with
  | 2 => [UInt8.ofNat (g.value / 16)]
  | 3 => [UInt8.ofNat (g.value / 1024), UInt8.ofNat (g.value / 4)]
  | _ => [UInt8.ofNat (g.value / 65536), UInt8.ofNat (g.value / 256), UInt8.ofNat g.value]

/-- The bytes written in base 64, from within a group on.  Other characters are
passed over, and equals signs count only where a group can end. -/
def ofBase64From (g : Base64Group) : List Char → Option (List UInt8)
  | [] => if g.count == 0 then some [] else none
  | c :: rest =>
    if c == '=' then
      let g := { g with fill := g.fill + 1 }
      if 2 ≤ g.count && 4 ≤ g.count + g.fill then some g.bytes else ofBase64From g rest
    else
      match base64Value? c with
      | none => ofBase64From g rest
      | some n =>
        let g := { count := g.count + 1, value := g.value * 64 + n }
        if g.count == 4 then (ofBase64From {} rest).map (g.bytes ++ ·) else ofBase64From g rest

/-- The bytes written in base 64. -/
def ofBase64? (s : List Char) : Option (List UInt8) := ofBase64From {} s

end SigmaRules.Bytes
