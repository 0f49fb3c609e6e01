/-
SigmaRules/Bytes/Inflate.lean

The deflate format, read bit by bit.  A stream is a sequence of blocks, which
are stored, coded by the fixed prefix codes, or coded by prefix codes that the
block itself describes.  A coded block is a sequence of bytes and of
references to bytes that have been written already.

Reading stops at the end of the last block, where the bits run out, or at the
first fault.  Compressed data are read in pieces, and the bytes that a piece
gives are handed on all at once: before the next piece is read, or when there is
no room for more.  A fault loses those that have not been handed on, so it
matters which bits have been taken when it is found (`Progress`).
-/

namespace SigmaRules.Bytes.Inflate

/-- Why reading stops early. -/
inductive Stop
  | truncated
  | corrupt
  deriving DecidableEq, Repr

/-- Bits, of which some have been taken from the front. -/
structure Source where
  rest : List Bool
  taken : Nat := 0

/-- The bytes of which bits have been taken. -/
def Source.bytesTaken (s : Source) : Nat := (s.taken + 7) / 8

/-- A reader takes bits from the front; what it has taken when it stops is taken. -/
abbrev Reader (α : Type) := ExceptT Stop (StateM Source) α

/-- The bits of a byte, lowest first. -/
def bitsOf (b : UInt8) : List Bool := (List.range 8).map fun i => b.toNat.testBit i

/-- Takes one bit. -/
def bit : Reader Bool := .mk fun s =>
  match s.rest with
  | [] => (.error .truncated, s)
  | b :: rest => (.ok b, ⟨rest, s.taken + 1⟩)

/-- Takes a number of so many bits, lowest first. -/
def number : Nat → Reader Nat
  | 0 => return 0
  | n + 1 => do
    let b ← bit
    let high ← number n
    return 2 * high + b.toNat

/-- Takes the bits up to the next byte. -/
def toByte : Reader Unit := modify fun s =>
  let n := 8 * s.bytesTaken - s.taken
  ⟨s.rest.drop n, s.taken + n⟩

/-! ### Prefix codes -/

/-- A canonical prefix code: for each length, the symbols with a code word of
that length, in order. -/
structure Code where
  symbols : List (List Nat)

/-- The code in which the symbols from 0 on have code words of the given
lengths; symbols of length 0 have none. -/
def Code.ofLengths (lengths : List Nat) : Code where
  symbols := (List.range 15).map fun i =>
    (lengths.zipIdx.filter (·.1 == i + 1)).map (·.2)

/-- The code words that are free at the greatest length once all symbols have
theirs; negative if there are too many symbols. -/
def Code.free (c : Code) : Int := c.symbols.foldl (fun left s => 2 * left - s.length) 1

/-- Is the code without gaps?  A code without symbols passes, and so does one of
a single word of one bit where that is allowed. -/
def Code.isFull (single : Bool) (c : Code) : Bool :=
  c.free == 0 || c.symbols.all (·.isEmpty) ||
    (single && 0 < c.free && (c.symbols.drop 1).all (·.isEmpty))

/-- Takes a code word, of which `code` is the part read, `first` the first word
of the length at hand.  It is a fault if there are no longer words. -/
def symbolFrom (code first : Nat) : List (List Nat) → Reader Nat
  | [] => throw .corrupt
  | here :: longer => do
    let b ← bit
    let code := 2 * code + b.toNat
    let first := 2 * first
    match here[code - first]? with
    | some s => return s
    | none =>
      if longer.all (·.isEmpty) then throw .corrupt
      else symbolFrom code (first + here.length) longer

/-- Takes the code word of a symbol. -/
def Code.symbol (c : Code) : Reader Nat := symbolFrom 0 0 c.symbols

/-- The fixed code for bytes, ends and lengths. -/
def fixedLiterals : Code :=
  .ofLengths (List.replicate 144 8 ++ List.replicate 112 9 ++ List.replicate 24 7 ++
    List.replicate 8 8)

/-- The fixed code for distances. -/
def fixedDistances : Code := .ofLengths (List.replicate 32 5)

/-! ### Described codes -/

/-- The order in which the lengths of the code for lengths are given. -/
def lengthOrder : List Nat :=
  [16, 17, 18, 0, 8, 7, 9, 6, 10, 5, 11, 4, 12, 3, 13, 2, 14, 1, 15]

/-- Takes the code word of a symbol in the code for lengths.  Without any symbols,
each bit stands for a length of zero. -/
def lengthSymbol (c : Code) : Reader Nat := do
  if c.symbols.all (·.isEmpty) then
    let _ ← bit
    return 0
  else c.symbol

/-- Takes code word lengths, with repetitions, up to a total; those read so far
are last first. -/
def codeLengths (c : Code) (total : Nat) : Nat → List Nat → Reader (List Nat)
  | 0, _ => throw .corrupt
  | fuel + 1, found =>
    if total ≤ found.length then
      if found.length == total then return found.reverse else throw .corrupt
    else do
      let s ← lengthSymbol c
      match s, found with
      | 16, found =>
        let k ← number 2
        match found with
        | [] => throw .corrupt
        | n :: _ => codeLengths c total fuel (List.replicate (k + 3) n ++ found)
      | 17, _ =>
        let k ← number 3
        codeLengths c total fuel (List.replicate (k + 3) 0 ++ found)
      | 18, _ =>
        let k ← number 7
        codeLengths c total fuel (List.replicate (k + 11) 0 ++ found)
      | n, _ => codeLengths c total fuel (n :: found)

/-- Takes the two codes that a block describes. -/
def describedCodes : Reader (Code × Code) := do
  let literals := (← number 5) + 257
  let distances := (← number 5) + 1
  let given := (← number 4) + 4
  if 286 < literals || 30 < distances then throw .corrupt
  let lengths ← (List.range given).mapM fun _ => number 3
  let lengthOf (s : Nat) := ((lengthOrder.zip lengths).lookup s).getD 0
  let code := Code.ofLengths ((List.range 19).map lengthOf)
  if !code.isFull false then throw .corrupt
  let found ← codeLengths code (literals + distances) (literals + distances + 1) []
  let first := Code.ofLengths (found.take literals)
  let second := Code.ofLengths (found.drop literals)
  if found[256]? == some 0 || !first.isFull true || !second.isFull true then throw .corrupt
  return (first, second)

/-! ### Blocks -/

/-- Least lengths and numbers of extra bits, from symbol 257 on. -/
def lengthBases : List (Nat × Nat) :=
  [(3, 0), (4, 0), (5, 0), (6, 0), (7, 0), (8, 0), (9, 0), (10, 0), (11, 1), (13, 1), (15, 1),
    (17, 1), (19, 2), (23, 2), (27, 2), (31, 2), (35, 3), (43, 3), (51, 3), (59, 3), (67, 4),
    (83, 4), (99, 4), (115, 4), (131, 5), (163, 5), (195, 5), (227, 5), (258, 0)]

/-- Least distances and numbers of extra bits. -/
def distanceBases : List (Nat × Nat) :=
  [(1, 0), (2, 0), (3, 0), (4, 0), (5, 1), (7, 1), (9, 2), (13, 2), (17, 3), (25, 3), (33, 4),
    (49, 4), (65, 5), (97, 5), (129, 6), (193, 6), (257, 7), (385, 7), (513, 8), (769, 8),
    (1025, 9), (1537, 9), (2049, 10), (3073, 10), (4097, 11), (6145, 11), (8193, 12), (12289, 12),
    (16385, 13), (24577, 13)]

/-- Takes a length or a distance: an entry of a table and its extra bits. -/
def based (table : List (Nat × Nat)) (i : Nat) : Reader Nat :=
  match table[i]? with
  | some (base, extra) => return base + (← number extra)
  | none => throw .corrupt

/-- An element of a coded block. -/
inductive Element
  | byte (b : UInt8)
  | copy (length distance : Nat)
  | done

/-- Takes an element of a coded block. -/
def element (literals distances : Code) : Reader Element := do
  let s ← literals.symbol
  if s < 256 then return .byte (UInt8.ofNat s)
  else if s == 256 then return .done
  else
    let length ← based lengthBases (s - 257)
    let distance ← based distanceBases (← distances.symbol)
    return .copy length distance

/-! ### Pieces -/

/-- The length of a piece, of compressed data and of what they give. -/
def pieceSize : Nat := 8192

/-- How far a stream has been read and written. -/
structure Progress where
  source : Source
  out : Array UInt8 := #[]
  /-- How many of the bytes have been handed on. -/
  handedOn : Nat := 0
  /-- How many bits have been taken where the piece ends that is being read. -/
  limit : Nat := 8 * pieceSize

/-- A writer takes bits and writes bytes. -/
abbrev Writer (α : Type) := ExceptT Stop (StateM Progress) α

/-- Takes bits.  If those of the piece do not suffice, the bytes that it has given
are handed on, and the next piece is read. -/
def taking {α : Type} (r : Reader α) : Writer α := .mk fun p =>
  let (a, s) := r.run p.source
  let p := { p with source := s }
  (a,
    if p.limit < s.taken then { p with handedOn := p.out.size, limit := p.limit + 8 * pieceSize }
    else p)

/-- Makes room for a byte.  If there is none, the bytes are handed on, and the next
piece begins at the first byte of which no bits have been taken. -/
def room : Writer Unit := modify fun p =>
  if p.out.size < p.handedOn + pieceSize then p
  else { p with handedOn := p.out.size, limit := 8 * (p.source.bytesTaken + pieceSize) }

/-- Writes a byte, which may depend on those before it. -/
def write (byte : Array UInt8 → UInt8) : Writer Unit := do
  room
  modify fun p => { p with out := p.out.push (byte p.out) }

/-- Writes so many bytes, each a copy of the one at a distance back. -/
def copyBack (distance : Nat) : Nat → Writer Unit
  | 0 => return
  | n + 1 => do
    write fun out => out.getD (out.size - distance) 0
    copyBack distance n

/-! ### Streams -/

/-- Reads a coded block. -/
def codedBlock (literals distances : Code) : Nat → Writer Unit
  | 0 => throw .corrupt
  | fuel + 1 => do
    match ← taking (element literals distances) with
    | .byte b =>
      write fun _ => b
      codedBlock literals distances fuel
    | .copy length distance =>
      -- a distance that is too far is found when there is room for the copy
      room
      if (← get).out.size < distance then throw .corrupt
      copyBack distance length
      codedBlock literals distances fuel
    | .done => return

/-- Reads so many stored bytes. -/
def storedBytes : Nat → Writer Unit
  | 0 => return
  | n + 1 => do
    room
    let b ← taking (number 8)
    write fun _ => UInt8.ofNat b
    storedBytes n

/-- Takes the length of a stored block, which stands there twice. -/
def storedLength : Reader Nat := do
  toByte
  let length ← number 16
  let check ← number 16
  if length + check == 0xFFFF then return length else throw .corrupt

/-- Reads a block after its first three bits. -/
def block (kind : Nat) : Writer Unit := do
  let fuel := (← get).source.rest.length + 1
  match kind with
  | 0 => storedBytes (← taking storedLength)
  | 1 => codedBlock fixedLiterals fixedDistances fuel
  | 2 =>
    let (literals, distances) ← taking describedCodes
    codedBlock literals distances fuel
  | _ => throw .corrupt

/-- Reads blocks up to the last one. -/
def blocks : Nat → Writer Unit
  | 0 => throw .corrupt
  | fuel + 1 => do
    let (last, kind) ← taking do return (← bit, ← number 2)
    block kind
    if last then return else blocks fuel

/-- Reads a stream from the start of some bytes: how it ended, and how far it has
got. -/
def stream (bs : List UInt8) : Except Stop Unit × Progress :=
  let bits := bs.flatMap bitsOf
  (blocks (bits.length + 1)).run { source := { rest := bits } }

end SigmaRules.Bytes.Inflate
