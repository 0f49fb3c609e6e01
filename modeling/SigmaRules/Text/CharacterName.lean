/-
SigmaRules/Text/CharacterName.lean

Characters by their names.  Most names are written in a table.  Unified
ideographs and a few other families are named by their code points, and
syllables of Hangul by the letters that they are put together from.  Names in the
table may be given in lower case; those of ideographs and syllables may not.
-/
import SigmaRules.Text.Digits
import SigmaRules.Text.NameTable
import SigmaRules.Text.Ranges

namespace SigmaRules.Text

/-! ### Names in the table -/

/-- The first parts of a name, so many of them. -/
def firstParts : Nat → List Char → List Char
  | 0, _ | _, [] => []
  | n + 1, c :: rest => c :: firstParts (if c == ' ' || c == '-' then n else n + 1) rest

/-- The name that an item of the table writes, after the name before it. -/
def nameAfter (before : List Char) : List Char → List Char
  | count :: parts => firstParts (count.toNat - 'a'.toNat) before ++ parts
  | [] => []

/-- All the names after a name, of which each shares parts with the one before. -/
def namesAfter (before : List Char) : List (List Char) → List (List Char)
  | item :: items =>
    let name := nameAfter before item
    name :: namesAfter name items
  | [] => []

/-- The names of a row of the table. -/
def rowNames (texts : List String) : List (List Char) :=
  namesAfter [] ((texts.flatMap String.toList).splitBy fun _ d => !d.isLower)

/-- The code point that has the name in the table. -/
def tableCode? (name : List Char) : Option Nat :=
  nameTable.findSome? fun (start, texts) => ((rowNames texts).idxOf? name).map (start + ·)

/-- The code point that has the name besides its own. -/
def aliasCode? (name : List Char) : Option Nat :=
  (nameAliases.find? fun (_, names) => names.any (·.toList == name)).map (·.1)

/-- Variation selectors have short names with their numbers. -/
def selectorCode? (name : List Char) : Option Nat :=
  ((List.range 256).find? fun i => "VS".toList ++ Nat.toDigits 10 (i + 1) == name).map fun i =>
    if i < 16 then 0xFE00 + i else 0xE00F0 + i

/-! ### Names by code points -/

/-- The code point that capital hexadecimal digits write. -/
def hexCode? (s : List Char) : Option Nat :=
  if s.any Char.isLower then none else (s.mapM hexDigit?).map (numberOf 16)

/-- The unified ideographs. -/
def ideographs : Ranges := [
    (0x3400, 0x4DBF), (0x4E00, 0x9FFF), (0x20000, 0x2A6DF), (0x2A700, 0x2B738),
    (0x2B740, 0x2B81D), (0x2B820, 0x2CEA1), (0x2CEB0, 0x2EBE0), (0x30000, 0x3134A)]

/-- The ideograph whose code point is written, with four or five digits. -/
def ideograph? (digits : List Char) : Option Nat :=
  if digits.length == 4 || digits.length == 5 then (hexCode? digits).filter ideographs.contains
  else none

/-- Other families of characters that are named by their code points. -/
def numberedFamilies : List (String × Ranges) := [
    ("CJK COMPATIBILITY IDEOGRAPH-", [(0xF900, 0xFA6D), (0xFA70, 0xFAD9), (0x2F800, 0x2FA1D)]),
    ("KHITAN SMALL SCRIPT CHARACTER-", [(0x18B00, 0x18CD5)]),
    ("NUSHU CHARACTER-", [(0x1B170, 0x1B2FB)])]

/-- The member of one of these families; its digits start with no zero. -/
def familyCode? (name : List Char) : Option Nat :=
  numberedFamilies.findSome? fun (family, codes) =>
    match family.toList.isPrefixOf? name with
    | some ('0' :: _) | none => none
    | some digits => (hexCode? digits).filter codes.contains

/-! ### Syllables -/

/-- The letters that a syllable of Hangul starts with. -/
def leadingLetters : List String :=
  ["G", "GG", "N", "D", "DD", "R", "M", "B", "BB", "S", "SS", "", "J", "JJ", "C", "K", "T", "P", "H"]

/-- The vowels of Hangul. -/
def vowelLetters : List String :=
  ["A", "AE", "YA", "YAE", "EO", "E", "YEO", "YE", "O", "WA", "WAE", "OE", "YO", "U", "WEO", "WE",
    "WI", "YU", "EU", "YI", "I"]

/-- The letters that a syllable of Hangul ends with. -/
def trailingLetters : List String :=
  ["", "G", "GG", "GS", "N", "NJ", "NH", "D", "L", "LG", "LM", "LB", "LS", "LT", "LP", "LH", "M",
    "B", "BS", "S", "SS", "NG", "J", "C", "K", "T", "P", "H"]

/-- The letters that a text can start with, by their places, and the text
after each. -/
def lettersAtStart (letters : List String) (s : List Char) : List (Nat × List Char) :=
  letters.zipIdx.filterMap fun (letter, i) => (letter.toList.isPrefixOf? s).map (i, ·)

/-- The syllable that the letters spell. -/
def syllable? (s : List Char) : Option Nat :=
  (lettersAtStart leadingLetters s).findSome? fun (lead, s) =>
    (lettersAtStart vowelLetters s).findSome? fun (vowel, s) =>
      (trailingLetters.findIdx? (·.toList == s)).map fun trail =>
        0xAC00 + (lead * vowelLetters.length + vowel) * trailingLetters.length + trail

/-! ### All names -/

/-- The code point that has the name. -/
def codeNamed? (name : List Char) : Option Nat :=
  match "HANGUL SYLLABLE ".toList.isPrefixOf? name,
      "CJK UNIFIED IDEOGRAPH-".toList.isPrefixOf? name with
  | some letters, _ => syllable? letters
  | _, some digits => ideograph? digits
  | none, none =>
    let name := name.map Char.toUpper
    tableCode? name <|> aliasCode? name <|> selectorCode? name <|> familyCode? name

end SigmaRules.Text
