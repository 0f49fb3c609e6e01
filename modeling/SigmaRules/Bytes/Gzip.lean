/-
SigmaRules/Bytes/Gzip.lean

Compressed files: a sequence of members, each of them a header, a deflate
stream, and the check and the length of its content.  Zeros may stand after a
member.  What a file holds is its content as far as it can be read, together
with how reading ended.
-/
import SigmaRules.Bytes.Inflate

namespace SigmaRules.Bytes

/-! ### The check -/

/-- One division step: the lowest bit leaves.  The check is the remainder of the
bytes, read as a polynomial over the field of two elements. -/
def crcStep (r : UInt32) : UInt32 :=
  if r &&& 1 == 1 then (r >>> 1) ^^^ 0xEDB88320 else r >>> 1

/-- The remainder after one more byte. -/
def crcByte (r : UInt32) (b : UInt8) : UInt32 :=
  let r := r ^^^ b.toUInt32
  crcStep (crcStep (crcStep (crcStep (crcStep (crcStep (crcStep (crcStep r)))))))

/-- The check of some bytes. -/
def crc32 (bs : List UInt8) : UInt32 := bs.foldl crcByte 0xFFFFFFFF ^^^ 0xFFFFFFFF

end SigmaRules.Bytes

namespace SigmaRules.Bytes.Gzip

/-- How reading ended. -/
inductive Ending
  /-- The file is complete. -/
  | complete
  /-- Something is there that is no member, or does not fit its check. -/
  | notGzip
  /-- The file ends within a member. -/
  | truncated
  /-- The deflate stream of a member is faulty. -/
  | corrupt
  deriving DecidableEq, Repr

/-- The content that could be read, and how reading ended. -/
structure Content where
  bytes : List UInt8
  ending : Ending

/-- The number that bytes write, lowest first. -/
def littleEndian (bs : List UInt8) : Nat := bs.foldr (fun b n => 256 * n + b.toNat) 0

/-- The first `n` bytes and the rest. -/
def take? (n : Nat) (bs : List UInt8) : Option (List UInt8 × List UInt8) :=
  if bs.length < n then none else some (bs.take n, bs.drop n)

/-- The bytes after a text that ends in a zero. -/
def skipText (bs : List UInt8) : List UInt8 := (bs.dropWhile (· != 0)).drop 1

/-- The bytes after the rest of a header, whose first two bytes have been
read. -/
def skipHeader (bs : List UInt8) : Except Ending (List UInt8) :=
  match take? 8 bs with
  | none => .error .truncated
  | some (fixed, bs) =>
    let flags := (fixed.getD 1 0).toNat
    if fixed.head? != some 8 then .error .notGzip
    else do
      let bs ← if flags.testBit 2 then
          match take? 2 bs with
          | none => .error .truncated
          | some (n, bs) =>
            match take? (littleEndian n) bs with
            | none => .error .truncated
            | some (_, bs) => pure bs
        else pure bs
      let bs := if flags.testBit 3 then skipText bs else bs
      let bs := if flags.testBit 4 then skipText bs else bs
      if flags.testBit 1 then
        match take? 2 bs with
        | none => .error .truncated
        | some (_, bs) => pure bs
      else pure bs

/-- The content of a file, in at most so many members. -/
def members : Nat → List UInt8 → Content
  | 0, _ => ⟨[], .notGzip⟩
  | fuel + 1, bs =>
    match bs with
    | [] => ⟨[], .complete⟩
    | 0x1F :: 0x8B :: rest =>
      match skipHeader rest with
      | .error ending => ⟨[], ending⟩
      | .ok body =>
        let (ended, progress) := Inflate.stream body
        let out := progress.out.toList
        match ended with
        | .error .truncated => ⟨out, .truncated⟩
        | .error .corrupt => ⟨out.take progress.handedOn, .corrupt⟩
        | .ok () =>
          match take? 8 (body.drop progress.source.bytesTaken) with
          | none => ⟨out, .truncated⟩
          | some (trailer, rest) =>
            if littleEndian (trailer.take 4) != (crc32 out).toNat ||
                littleEndian (trailer.drop 4) != out.length % Nat.pow 2 32 then ⟨out, .notGzip⟩
            else
              let more := members fuel (rest.dropWhile (· == 0))
              ⟨out ++ more.bytes, more.ending⟩
    | _ => ⟨[], .notGzip⟩

/-- The content of a compressed file. -/
def read (bs : List UInt8) : Content := members (bs.length + 1) bs

end SigmaRules.Bytes.Gzip
