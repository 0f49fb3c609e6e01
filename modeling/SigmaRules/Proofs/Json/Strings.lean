/-
SigmaRules/Proofs/Json/Strings.lean

Strings in JSON are read back as they were written, whatever stands after them
(`readString_flatMap`).  Each character is written as itself or as an escape, and
either way one step of the reader takes what one step of the writer gave
(`stringItems_charText`).
-/
import SigmaRules.Json.Reader
import SigmaRules.Json.Writer

namespace SigmaRules.Json

open Text

/-- The items of a text. -/
def items (s : List Char) : List Item := s.map some

@[simp] theorem items_nil : items [] = [] := rfl

@[simp] theorem items_cons (c : Char) (s : List Char) : items (c :: s) = some c :: items s := rfl

@[simp] theorem items_append (s t : List Char) : items (s ++ t) = items s ++ items t :=
  List.map_append

@[simp] theorem length_items (s : List Char) : (items s).length = s.length := List.length_map ..

/-- The items of a text have no gaps. -/
theorem mapM_items (s : List Char) : (items s).mapM id = some s := by
  induction s with
  | nil => rfl
  | cons c s ih => simp [ih]

/-! ### Characters -/

/-- Four digits write a control character. -/
theorem unitEscape?_hexText {c : Char} (hc : c.toNat < 32) (rest : List Item) :
    unitEscape? (items (hexText 4 c.toNat) ++ rest) = some (c, rest) := by
  have hdigits : ∀ n < 32, (hexText 4 n).length = 4 ∧
      ((hexText 4 n).mapM hexDigit?).map (numberOf 16) = some n := by
    decide +kernel
  obtain ⟨hlength, hnumber⟩ := hdigits c.toNat hc
  have hunit : unit? (items (hexText 4 c.toNat) ++ rest) = some (c.toNat, rest) := by
    rcases htext : hexText 4 c.toNat with - | ⟨x, - | ⟨y, - | ⟨z, - | ⟨w, - | ⟨v, more⟩⟩⟩⟩⟩ <;>
      rw [htext] at hlength hnumber
    case cons.cons.cons.cons.nil =>
      obtain ⟨ds, hds, hn⟩ := Option.map_eq_some_iff.mp hnumber
      have hitems : [some x, some y, some z, some w].mapM (·.bind hexDigit?) = some ds := hds
      simp [unit?, items, hitems, hn]
    all_goals simp at hlength
  have hlow : ¬ 0xD800 ≤ c.toNat := by omega
  have hhigh : ¬ 0xDC00 ≤ c.toNat := by omega
  simp [unitEscape?, hunit, hlow, hhigh, Char.ofNat_toNat]

/-- **A character is read back**, in one step. -/
theorem stringItems_charText (fuel : Nat) (found : List Item) (c : Char) (rest : List Item) :
    stringItems (fuel + 1) found (items (charText c) ++ rest)
      = stringItems fuel (some c :: found) rest := by
  by_cases hletter : c ∈ ['"', '\\', '\n', '\r', '\t', '\x08', '\x0c']
  · simp only [List.mem_cons, List.not_mem_nil, or_false] at hletter
    rcases hletter with rfl | rfl | rfl | rfl | rfl | rfl | rfl <;> rfl
  simp only [List.mem_cons, List.not_mem_nil, or_false, not_or] at hletter
  by_cases hcontrol : c.toNat < 32
  · have htext : charText c = '\\' :: 'u' :: hexText 4 c.toNat := by
      simp [charText, hletter, hcontrol]
    rw [htext, items_cons, items_cons, List.cons_append, List.cons_append, stringItems,
      unitEscape?_hexText hcontrol]
  -- the character is neither the quote nor the start of an escape
  · have htext : charText c = [c] := by simp [charText, hletter, hcontrol]
    rw [htext, items_cons, items_nil, List.cons_append, List.nil_append, stringItems,
      if_neg hcontrol]
    all_goals simp [hletter]

/-! ### Strings -/

/-- The characters of a string are read up to its closing quote. -/
theorem stringItems_flatMap (s : List Char) {fuel : Nat} (h : s.length < fuel) (found : List Item)
    (rest : List Item) :
    stringItems fuel found (items (s.flatMap charText) ++ some '"' :: rest)
      = .ok ((items s).reverse ++ found, rest) := by
  induction s generalizing fuel found with
  | nil =>
    obtain ⟨fuel, rfl⟩ := Nat.exists_eq_add_of_lt h
    rfl
  | cons c s ih =>
    obtain ⟨more, rfl⟩ := Nat.exists_eq_add_of_lt h
    rw [List.flatMap_cons, items_append, List.append_assoc, stringItems_charText,
      ih (by rw [List.length_cons]; omega)]
    simp

theorem length_le_flatMap_charText (s : List Char) : s.length ≤ (s.flatMap charText).length := by
  induction s with
  | nil => simp
  | cons c s ih =>
    have hc : 1 ≤ (charText c).length := by
      rw [charText]
      repeat' split
      all_goals simp
    rw [List.flatMap_cons, List.length_append, List.length_cons]
    omega

/-- **A string is read back**, with any text after it. -/
theorem readString_flatMap (s : String) (rest : List Item) :
    readString (items (s.toList.flatMap charText) ++ some '"' :: rest) = .ok (s, rest) := by
  have hfuel : s.toList.length <
      (items (s.toList.flatMap charText) ++ some '"' :: rest).length + 1 := by
    have hlength := length_le_flatMap_charText s.toList
    rw [List.length_append, length_items]
    omega
  rw [readString, stringItems_flatMap s.toList hfuel]
  simp only [bind, Except.bind, List.append_nil, List.reverse_reverse, mapM_items,
    String.ofList_toList]

end SigmaRules.Json
