/-
SigmaRules/Network/Block.lean

Blocks of addresses: all addresses that agree in their first bits.  A block
is written as one of its addresses and the number of bits, or a mask, after a
slash; without a slash it is that one address.  An address of version six may
carry the name of a zone after a percent sign, which is kept as long as the
address has no bits beyond the block's length.
-/
import SigmaRules.Network.Address

namespace SigmaRules.Network

open Text

/-- The addresses of a family that agree with `base` in the first `length`
bits. -/
structure Block where
  family : Family
  base : Nat
  length : Nat
  zone : Option (List Char) := none
  deriving DecidableEq, Repr

/-- How many addresses there are with the given number of bits left. -/
def freeCount (family : Family) (length : Nat) : Nat := Nat.pow 2 (family.bits - length)

/-- The block around an address. -/
def Block.around (family : Family) (address length : Nat) (zone : Option (List Char)) : Block :=
  let count := freeCount family length
  if address % count == 0 then { family, base := address, length, zone }
  else { family, base := address - address % count, length }

/-- The last address of the block. -/
def Block.last (b : Block) : Nat := b.base + freeCount b.family b.length - 1

/-- A length in decimal digits, of which there are not too many. -/
def lengthNumber? (family : Family) (s : List Char) : Option Nat := do
  let ds ← s.mapM decimalDigit?
  let n := numberOf 10 ds
  if ds.isEmpty || maxDigits < ds.length || family.bits < n then none else some n

/-- The length whose mask is the given address, if there is one: a mask has
ones first and zeros after. -/
def maskLength? (mask : Nat) : Option Nat :=
  (List.range 33).find? fun n => mask == Nat.pow 2 32 - Nat.pow 2 (32 - n)

/-- A length as a mask of version four, or as the complement of one. -/
def lengthMask? (s : List Char) : Option Nat := do
  let mask ← v4? s
  maskLength? mask <|> maskLength? (Nat.pow 2 32 - 1 - mask)

/-- An address and, after a slash, a length; there is at most one slash. -/
def cutLength? (s : List Char) : Option (List Char × Option (List Char)) :=
  match splitAt (· == '/') s with
  | [address] => some (address, none)
  | [address, length] => some (address, some length)
  | _ => none

/-- A block of version four. -/
def Block.v4? (s : List Char) : Option Block := do
  let (address, length) ← cutLength? s
  let n ← Network.v4? address
  let length ← match length with
    | none => some 32
    | some l => lengthNumber? .v4 l <|> lengthMask? l
  return .around .v4 n length none

/-- An address and, after a percent sign, the name of a zone. -/
def cutZone? (s : List Char) : Option (List Char × Option (List Char)) :=
  match cutAt '%' s with
  | (address, none) => some (address, none)
  | (address, some zone) =>
    if zone.isEmpty || zone.contains '%' then none else some (address, some zone)

/-- A block of version six. -/
def Block.v6? (s : List Char) : Option Block := do
  let (address, length) ← cutLength? s
  let (address, zone) ← cutZone? address
  let n ← Network.v6? address
  let length ← match length with
    | none => some 128
    | some l => lengthNumber? .v6 l
  return .around .v6 n length zone

/-- The block that a text writes. -/
def Block.ofText? (s : String) : Option Block :=
  Block.v4? s.toList <|> Block.v6? s.toList

/-- The text of a block. -/
def Block.text (b : Block) : String :=
  let address := match b.family with
    | .v4 => v4Text b.base
    | .v6 => v6Text b.base
  let zone := match b.zone with
    | some z => "%" ++ String.ofList z
    | none => ""
  address ++ zone ++ "/" ++ toString b.length

/-- Is the second block within the first?  Blocks that start at the same
address have to be of the same zone. -/
def Block.contains (b c : Block) : Bool :=
  b.family == c.family && (b.base < c.base || (b.base == c.base && b.zone == c.zone)) &&
    c.last ≤ b.last

end SigmaRules.Network
