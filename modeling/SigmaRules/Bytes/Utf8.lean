/-
SigmaRules/Bytes/Utf8.lean

Text as bytes.  `encode` writes each character as one to four bytes and
`decode` reads them back, or says where the first fault is and of what kind.
`decodeLoosely` goes on after a fault and leaves a gap for it.
-/

namespace SigmaRules.Bytes

/-- The bytes of a character. -/
def encodeChar (c : Char) : List UInt8 :=
  let n := c.toNat
  if n < 0x80 then [UInt8.ofNat n]
  else if n < 0x800 then [UInt8.ofNat (0xC0 + n / 64), UInt8.ofNat (0x80 + n % 64)]
  else if n < 0x10000 then
    [UInt8.ofNat (0xE0 + n / 4096), UInt8.ofNat (0x80 + n / 64 % 64),
      UInt8.ofNat (0x80 + n % 64)]
  else
    [UInt8.ofNat (0xF0 + n / 262144), UInt8.ofNat (0x80 + n / 4096 % 64),
      UInt8.ofNat (0x80 + n / 64 % 64), UInt8.ofNat (0x80 + n % 64)]

/-- The bytes of a text. -/
def encode (s : List Char) : List UInt8 := s.flatMap encodeChar

/-- What is wrong with bytes that are no text. -/
inductive Fault
  | badStart
  | badContinuation
  | endOfData
  deriving DecidableEq, Repr

/-- A fault, with the place and the number of the bytes that are wrong and the
first of them. -/
structure DecodeError where
  fault : Fault
  position : Nat
  count : Nat
  first : UInt8
  deriving DecidableEq, Repr

/-- The first character, the number of its bytes and the rest; or a fault and
the number of bytes that are wrong. -/
inductive Step
  | char (c : Char) (rest : List UInt8)
  | bad (fault : Fault) (count : Nat)

/-- Does the byte continue a character? -/
def isContinuation (b : UInt8) : Bool := 0x80 ≤ b && b < 0xC0

/-- May the second byte follow the first?  Some pairs would write a character
in more bytes than it needs, or none at all. -/
def isSecond (a b : UInt8) : Bool :=
  isContinuation b &&
    !(a == 0xE0 && b < 0xA0) && !(a == 0xED && 0xA0 ≤ b) &&
    !(a == 0xF0 && b < 0x90) && !(a == 0xF4 && 0x90 ≤ b)

/-- The last six bits of a byte. -/
def low (b : UInt8) : Nat := b.toNat % 64

/-- Reads the character that starts with the byte. -/
def readChar (a : UInt8) (rest : List UInt8) : Step :=
  if a < 0x80 then .char (Char.ofNat a.toNat) rest
  else if a < 0xC2 || 0xF5 ≤ a then .bad .badStart 1
  else
    match rest with
    | [] => .bad .endOfData 1
    | b :: rest =>
      if !isSecond a b then .bad .badContinuation 1
      else if a < 0xE0 then .char (Char.ofNat (a.toNat % 32 * 64 + low b)) rest
      else
        match rest with
        | [] => .bad .endOfData 2
        | c :: rest =>
          if !isContinuation c then .bad .badContinuation 2
          else if a < 0xF0 then
            .char (Char.ofNat (a.toNat % 16 * 4096 + low b * 64 + low c)) rest
          else
            match rest with
            | [] => .bad .endOfData 3
            | d :: rest =>
              if !isContinuation d then .bad .badContinuation 3
              else
                .char (Char.ofNat (a.toNat % 8 * 262144 + low b * 4096 + low c * 64 + low d)) rest

/-- Reading a character takes a byte at least. -/
theorem readChar_length {a : UInt8} {bs rest : List UInt8} {c : Char}
    (h : readChar a bs = .char c rest) : rest.length ≤ bs.length := by
  unfold readChar at h
  split at h
  · cases h; exact Nat.le_refl _
  · split at h
    · cases h
    · split at h
      · cases h
      · split at h
        · cases h
        · split at h
          · cases h; simp
          · split at h
            · cases h
            · split at h
              · cases h
              · split at h
                · cases h; simp; omega
                · split at h
                  · cases h
                  · split at h
                    · cases h
                    · cases h; simp; omega

/-- The text that bytes write, from a position on. -/
def decodeFrom (position : Nat) : List UInt8 → Except DecodeError (List Char)
  | [] => .ok []
  | a :: bs =>
    match h : readChar a bs with
    | .bad fault count => .error { fault, position, count, first := a }
    | .char c rest =>
      have := readChar_length h
      (decodeFrom (position + (bs.length + 1 - rest.length)) rest).map (c :: ·)
  termination_by bs => bs.length
  decreasing_by simp; omega

/-- The text that bytes write. -/
def decode (bs : List UInt8) : Except DecodeError (List Char) := decodeFrom 0 bs

/-- The characters that bytes write, with a gap for each byte that is part of
none. -/
def decodeLoosely : List UInt8 → List (Option Char)
  | [] => []
  | a :: bs =>
    match h : readChar a bs with
    | .bad .. => none :: decodeLoosely bs
    | .char c rest =>
      have := readChar_length h
      some c :: decodeLoosely rest
  termination_by bs => bs.length
  decreasing_by
    · simp
    · simp; omega

/-- What is wrong, in words. -/
def Fault.message : Fault → String
  | .badStart => "invalid start byte"
  | .badContinuation => "invalid continuation byte"
  | .endOfData => "unexpected end of data"

/-- What is wrong and where, in words. -/
def DecodeError.message (e : DecodeError) : String :=
  let place :=
    if e.count == 1 then
      let ds := Nat.toDigits 16 e.first.toNat
      let ds := if ds.length < 2 then '0' :: ds else ds
      s!"byte 0x{String.ofList ds} in position {e.position}"
    else s!"bytes in position {e.position}-{e.position + e.count - 1}"
  "\x27utf-8\x27 codec can\x27t decode " ++ place ++ ": " ++ e.fault.message

end SigmaRules.Bytes
