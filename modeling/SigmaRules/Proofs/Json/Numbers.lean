/-
SigmaRules/Proofs/Json/Numbers.lean

Numerals in JSON.  A numeral is read up to its end, if what stands after it does not go
on with it (`readNumber_numeral`).  So a whole number is read back as it was written
(`readNumber_ofNat`), and a number with a point or an exponent as the number nearest
to it (`readNumber_float`).
-/
import SigmaRules.Proofs.Json.Strings
import SigmaRules.Proofs.Number.Numeral

namespace SigmaRules.Json

open Document Number Text

/-- The text ends, or goes on with the end of an element or of all elements. -/
def Ends (rest : List Item) : Prop :=
  ∀ i ∈ rest.head?, i = some ',' ∨ i = some ']' ∨ i = some '\x7d'

theorem ends_nil : Ends [] := fun _ h => by cases h

theorem ends_cons {c : Char} (h : c = ',' ∨ c = ']' ∨ c = '\x7d') (rest : List Item) :
    Ends (some c :: rest) := by
  rintro i ⟨⟩
  simpa using h

theorem Ends.isDigit_head? {rest : List Item} (h : Ends rest) :
    ∀ i ∈ rest.head?, isDigit i = false := fun i hi => by
  rcases h i hi with rfl | rfl | rfl <;> rfl

/-- A text with something after it starts as the text does, or it is empty. -/
theorem head?_items_append {P : Item → Prop} {s : List Char} {rest : List Item}
    (hs : ∀ c ∈ s.head?, P (some c)) (hrest : ∀ i ∈ rest.head?, P i) :
    ∀ i ∈ (items s ++ rest).head?, P i := by
  rcases s with - | ⟨c, s⟩
  · exact hrest
  · rintro i ⟨⟩
    exact hs c rfl

/-! ### The parts of a numeral -/

theorem digits_items {ds : List Char} (h : ∀ c ∈ ds, c.isDigit = true) {rest : List Item}
    (hrest : ∀ i ∈ rest.head?, isDigit i = false) : digits (items ds ++ rest) = (ds, rest) := by
  obtain ⟨htake, hdrop⟩ := takeWhile_append_stop (s := items ds) (List.forall_mem_map.mpr h) hrest
  rw [digits, htake, hdrop, items, List.filterMap_map]
  simp

theorem someDigits?_items {ds : List Char} (h : IsDigits ds) {rest : List Item}
    (hrest : ∀ i ∈ rest.head?, isDigit i = false) :
    someDigits? (items ds ++ rest) = some (ds, rest) := by
  obtain ⟨c, ds, rfl⟩ := List.exists_cons_of_ne_nil h.1
  rw [someDigits?, digits_items h.2 hrest]

theorem fraction?_items {part : List Char} (h : IsPart part) {rest : List Item}
    (hdigit : ∀ i ∈ rest.head?, isDigit i = false) (hpoint : ∀ i ∈ rest.head?, i ≠ some '.') :
    fraction? (items part ++ rest) = some (part, rest) := by
  cases h with
  | none =>
    rw [items_nil, List.nil_append, fraction?]
    rintro more rfl
    exact hpoint _ rfl rfl
  | point hds =>
    rw [items_cons, List.cons_append, fraction?, someDigits?_items hds hdigit]
    rfl

theorem exponent?_items {power : List Char} (h : IsPower power) {rest : List Item}
    (hrest : Ends rest) : exponent? (items power ++ rest) = some (power, rest) := by
  have hdigit := hrest.isDigit_head?
  cases h with
  | none =>
    rcases rest with - | ⟨i, rest⟩
    · rfl
    · rcases hrest i rfl with rfl | rfl | rfl <;> rfl
  | @positive ds hds =>
    have hread := someDigits?_items hds hdigit
    obtain ⟨c, ds, rfl, hminus, hplus⟩ := hds.exists_cons
    rw [items_cons, items_cons, List.cons_append, List.cons_append] at *
    rw [exponent?]
    case x_2 => exact fun _ heq => hminus (Option.some.inj (List.cons.inj heq).1)
    case x_3 => exact fun _ heq => hplus (Option.some.inj (List.cons.inj heq).1)
    simp [hread]
  | @negative ds hds =>
    rw [items_cons, items_cons, List.cons_append, List.cons_append, exponent?]
    simp [someDigits?_items hds hdigit]

/-! ### Numerals -/

/-- A numeral is read up to its end. -/
theorem readNumber_numeral (n : Numeral) (neg : Bool) {rest : List Item} (hrest : Ends rest) :
    readNumber {} neg (items n.text ++ rest) =
      if n.isWhole then
        let k : Int := numberOf 10 (n.whole.map (·.toNat - 48))
        .ok (.int (if neg then -k else k), rest)
      else
        match Double.ofUnsigned? neg n.text with
        | some x => .ok (.float x, rest)
        | none => .error .malformed := by
  have hwhole : someDigits? (items n.text ++ rest) =
      some (n.whole, items n.part ++ (items n.power ++ rest)) := by
    rw [Numeral.text, List.append_assoc, items_append, List.append_assoc,
      someDigits?_items n.isDigits_whole, items_append, List.append_assoc]
    exact head?_items_append n.isDigit_head? hrest.isDigit_head?
  have hpart : fraction? (items n.part ++ (items n.power ++ rest)) =
      some (n.part, items n.power ++ rest) := by
    refine fraction?_items n.isPart (head?_items_append ?_ hrest.isDigit_head?)
      (head?_items_append ?_ fun i hi => ?_)
    · exact fun c hc => n.isPower.head? c hc ▸ rfl
    · exact fun c hc => n.isPower.head? c hc ▸ by decide
    · rcases hrest i hi with rfl | rfl | rfl <;> decide
  have hpower := exponent?_items n.isPower hrest
  have hlength : (n.whole.head? == some '0' && n.whole.length != 1) = false := by
    rw [Bool.and_eq_false_imp, beq_iff_eq]
    intro hzero
    rw [n.length_whole hzero]
    rfl
  have hmore : n.whole ++ (n.part ++ n.power) = n.text := (List.append_assoc ..).symm
  rw [readNumber, hwhole]
  simp only [Option.pure_def, Option.bind_eq_bind, Option.bind_some, hpart, hpower, hlength,
    hmore, Bool.false_eq_true, if_false, Option.any_none, Bool.false_and]
  rfl

/-- The number that decimal digits write. -/
theorem numberOf_toDigits (k : Nat) :
    numberOf 10 ((Nat.toDigits 10 k).map (·.toNat - 48)) = k := by
  have hdigits : ∀ ds : List Char, (∀ c ∈ ds, c.isDigit = true) →
      ds.mapM decimalDigit? = some (ds.map (·.toNat - 48)) := by
    intro ds hds
    induction ds with
    | nil => rfl
    | cons c ds ih =>
      obtain ⟨hc, hds⟩ := List.forall_mem_cons.mp hds
      have hdigit : decimalDigit? c = some (c.toNat - 48) := if_pos hc
      rw [List.mapM_cons, hdigit, ih hds]
      rfl
  have hnumber := numberOf_decimalDigits k
  rw [hdigits _ (isDigits_toDigits k).2] at hnumber
  exact Option.some.inj hnumber

/-- **A whole number is read back.** -/
theorem readNumber_ofNat (k : Nat) (neg : Bool) {rest : List Item} (hrest : Ends rest) :
    readNumber {} neg (items (Numeral.ofNat k).text ++ rest) =
      .ok (.int (if neg then -(k : Int) else k), rest) := by
  rw [readNumber_numeral _ neg hrest]
  simp [Numeral.isWhole, Numeral.ofNat, numberOf_toDigits]

/-- **A numeral with a point or an exponent is read** as the number nearest to it. -/
theorem readNumber_float {n : Numeral} (hn : n.isWhole = false) {neg : Bool} {x : Double}
    (hx : Double.ofUnsigned? neg n.text = some x) {rest : List Item} (hrest : Ends rest) :
    readNumber {} neg (items n.text ++ rest) = .ok (.float x, rest) := by
  simp [readNumber_numeral n neg hrest, hn, hx]

end SigmaRules.Json
