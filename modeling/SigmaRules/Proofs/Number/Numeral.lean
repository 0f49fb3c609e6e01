/-
SigmaRules/Proofs/Number/Numeral.lean

Numerals: digits, then perhaps a point with digits after it, then perhaps an
exponent.  Every numeral reads as a number (`Numeral.isSome_ofUnsigned?`), and floating
point numbers are written as numerals if they are finite (`exists_numeral_of_isFinite`).

The first digit is a zero only if no digit comes after it.  Decimals are laid out so
because their digits are those of a number that is not zero; the search for the shortest
decimal gives zero only where the layout has an exponent, and there one digit comes
first (`shortest_pos`).
-/
import SigmaRules.Number.Reading
import SigmaRules.Proofs.Number.Whole

namespace SigmaRules.Number

open Double Text

/-- Digits, of which there is one at least. -/
def IsDigits (ds : List Char) : Prop := ds ≠ [] ∧ ∀ c ∈ ds, c.isDigit = true

/-- Nothing, or a point with digits after it. -/
inductive IsPart : List Char → Prop
  | none : IsPart []
  | point {ds : List Char} (h : IsDigits ds) : IsPart ('.' :: ds)

/-- Nothing, or an exponent. -/
inductive IsPower : List Char → Prop
  | none : IsPower []
  | positive {ds : List Char} (h : IsDigits ds) : IsPower ('e' :: ds)
  | negative {ds : List Char} (h : IsDigits ds) : IsPower ('e' :: '-' :: ds)

/-- A numeral without a sign: its first digits, what comes from the point on, and the exponent.  It
does not start with a zero that has a digit after it. -/
structure Numeral where
  whole : List Char
  part : List Char
  power : List Char
  isDigits_whole : IsDigits whole
  length_whole : whole.head? = some '0' → whole.length = 1
  isPart : IsPart part
  isPower : IsPower power

/-- The text of a numeral. -/
def Numeral.text (n : Numeral) : List Char := n.whole ++ n.part ++ n.power

/-- Is the numeral one of a whole number, without a point or an exponent? -/
def Numeral.isWhole (n : Numeral) : Bool := (n.part ++ n.power).isEmpty

/-! ### Digits -/

theorem isDigits_singleton {c : Char} (h : c.isDigit = true) : IsDigits [c] :=
  ⟨List.cons_ne_nil _ _, List.forall_mem_singleton.mpr h⟩

theorem isDigits_toDigits (n : Nat) : IsDigits (Nat.toDigits 10 n) :=
  ⟨Nat.toDigits_ne_nil, fun _ hc => Nat.isDigit_of_mem_toDigits (by decide) (by decide) hc⟩

theorem isDigits_toString (n : Nat) : IsDigits (toString n).toList :=
  (Nat.toList_repr (n := n)).symm ▸ isDigits_toDigits n

theorem IsDigits.append {ds es : List Char} (hds : ∀ c ∈ ds, c.isDigit = true)
    (hes : IsDigits es) : IsDigits (ds ++ es) :=
  ⟨List.append_ne_nil_of_right_ne_nil ds hes.1, List.forall_mem_append.mpr ⟨hds, hes.2⟩⟩

/-- Digits do not start with a sign. -/
theorem IsDigits.exists_cons {ds : List Char} (h : IsDigits ds) :
    ∃ c more, ds = c :: more ∧ c ≠ '-' ∧ c ≠ '+' := by
  obtain ⟨c, more, rfl⟩ := List.exists_cons_of_ne_nil h.1
  have hc := h.2 c List.mem_cons_self
  refine ⟨c, more, rfl, ?_, ?_⟩ <;> rintro rfl <;> cases hc

/-- Only zero has digits that start with a zero. -/
theorem eq_zero_of_head?_toDigits {n : Nat} (h : (Nat.toDigits 10 n).head? = some '0') :
    n = 0 := by
  induction n using Nat.strongRecOn with
  | ind n ih =>
    rw [Nat.toDigits_eq_if (by decide)] at h
    split at h
    case isTrue hlt =>
      have hdigit : ∀ d < 10, Nat.digitChar d = '0' → d = 0 := by decide
      exact hdigit n hlt (Option.some.inj h)
    case isFalse hge =>
      obtain ⟨c, ds, hds⟩ := List.exists_cons_of_ne_nil (isDigits_toDigits (n / 10)).1
      rw [hds] at h
      have hzero := ih (n / 10) (by omega) (hds ▸ h)
      omega

/-- The digits of a whole number as a numeral. -/
def Numeral.ofNat (n : Nat) : Numeral where
  whole := Nat.toDigits 10 n
  part := []
  power := []
  isDigits_whole := isDigits_toDigits n
  length_whole h := by rw [eq_zero_of_head?_toDigits h]; rfl
  isPart := .none
  isPower := .none

@[simp] theorem Numeral.text_ofNat (n : Nat) : (Numeral.ofNat n).text = Nat.toDigits 10 n := by
  simp [Numeral.ofNat, Numeral.text]

/-- A numeral starts with a digit. -/
theorem Numeral.exists_text_cons (n : Numeral) :
    ∃ c more, n.text = c :: more ∧ c.isDigit = true := by
  obtain ⟨c, ds, hwhole⟩ := List.exists_cons_of_ne_nil n.isDigits_whole.1
  refine ⟨c, ds ++ n.part ++ n.power, ?_, n.isDigits_whole.2 c (hwhole ▸ List.mem_cons_self)⟩
  rw [Numeral.text, hwhole, List.cons_append, List.cons_append]

/-- What stands before a text that does not go on with such items is taken. -/
theorem takeWhile_append_stop {α : Type} {p : α → Bool} {s rest : List α}
    (h : ∀ a ∈ s, p a = true) (hrest : ∀ a ∈ rest.head?, p a = false) :
    (s ++ rest).takeWhile p = s ∧ (s ++ rest).dropWhile p = rest := by
  rw [List.takeWhile_append_of_pos h, List.dropWhile_append_of_pos h]
  rcases rest with - | ⟨a, rest⟩
  · simp
  · have ha := hrest a rfl
    simp [ha]

theorem takeDigits_append {ds rest : List Char} (h : ∀ c ∈ ds, c.isDigit = true)
    (hrest : ∀ c ∈ rest.head?, c.isDigit = false) :
    takeDigits (ds ++ rest) = (ds.map (·.toNat - 48), rest) := by
  obtain ⟨htake, hdrop⟩ := takeWhile_append_stop h hrest
  rw [takeDigits, htake, hdrop]

theorem takeDigits_of_isDigits {ds : List Char} (h : IsDigits ds) :
    takeDigits ds = (ds.map (·.toNat - 48), []) := by
  have htake := takeDigits_append h.2 (fun c (hc : c ∈ ([] : List Char).head?) => by cases hc)
  rwa [List.append_nil] at htake

/-! ### Reading -/

theorem IsPart.head? {part : List Char} (h : IsPart part) : ∀ c ∈ part.head?, c = '.' := by
  cases h <;> simp

theorem IsPower.head? {power : List Char} (h : IsPower power) : ∀ c ∈ power.head?, c = 'e' := by
  cases h <;> simp

/-- What follows the first digits of a numeral is no digit. -/
theorem Numeral.isDigit_head? (n : Numeral) :
    ∀ c ∈ (n.part ++ n.power).head?, c.isDigit = false := by
  intro c hc
  rw [List.head?_append] at hc
  rcases hpart : n.part.head? with - | d
  · rw [hpart] at hc
    rw [n.isPower.head? c hc]
    rfl
  · rw [hpart] at hc
    obtain rfl : d = c := Option.some.inj hc
    rw [n.isPart.head? d hpart]
    rfl

theorem isSome_exponent?_digits {ds : List Char} (h : IsDigits ds) :
    (exponent? ('e' :: ds)).isSome = true ∧ (exponent? ('e' :: '-' :: ds)).isSome = true := by
  have htake := takeDigits_of_isDigits h
  obtain ⟨c, ds, rfl, hminus, hplus⟩ := h.exists_cons
  constructor
  all_goals
    rw [exponent?]
    simp only [beq_self_eq_true, Bool.true_or, if_true]
    split
    case h_1 heq => cases htake.symm.trans heq
    case h_2 => rfl
    case h_3 hnone => exact absurd htake (hnone _)
  -- the first digit is not taken for a sign
  case left.x_1 => exact fun _ heq => hminus (List.cons.inj heq).1
  case left.x_2 => exact fun _ heq => hplus (List.cons.inj heq).1

theorem IsPower.isSome_exponent? {power : List Char} (h : IsPower power) :
    (exponent? power).isSome = true := by
  cases h with
  | none => rfl
  | positive hds => exact (isSome_exponent?_digits hds).1
  | negative hds => exact (isSome_exponent?_digits hds).2

/-- A text that starts with a digit is none of the words for numbers. -/
theorem ofList_toLower_ne {c : Char} (hc : c.isDigit = true) (s : List Char) {word : String}
    (hword : word.toList.head?.any Char.isDigit = false) :
    String.ofList ((c :: s).map Char.toLower) ≠ word := by
  rintro rfl
  have hlower : c.toLower = c := by
    rw [Char.isDigit_iff_toNat] at hc
    have hupper : ¬ (c.val ≥ 'A'.val ∧ c.val ≤ 'Z'.val) := by
      rintro ⟨hge, -⟩
      have hnat : 'A'.toNat ≤ c.toNat := UInt32.le_iff_toNat_le.mp hge
      have hle : c.toNat ≤ '9'.toNat := hc.2
      exact absurd (hnat.trans hle) (by decide)
    exact dif_neg hupper
  simp [hlower, hc] at hword

/-- **A numeral reads as a number.** -/
theorem Numeral.isSome_ofUnsigned? (n : Numeral) (neg : Bool) :
    (ofUnsigned? neg n.text).isSome = true := by
  obtain ⟨c, more, htext, hc⟩ := n.exists_text_cons
  have hword : ∀ word : String, word.toList.head?.any Char.isDigit = false →
      (String.ofList (n.text.map Char.toLower) == word) = false := by
    intro word hword
    rw [beq_eq_false_iff_ne, htext]
    exact ofList_toLower_ne hc _ hword
  have htake : takeDigits n.text = (n.whole.map (·.toNat - 48), n.part ++ n.power) := by
    rw [Numeral.text, List.append_assoc]
    exact takeDigits_append n.isDigits_whole.2 n.isDigit_head?
  have hsome : (n.whole.map (·.toNat - 48)).isEmpty = false := by
    simpa using n.isDigits_whole.1
  rw [ofUnsigned?]
  simp only [hword "inf" (by decide), hword "infinity" (by decide), hword "nan" (by decide),
    Bool.or_false, Bool.false_eq_true, if_false, htake, hsome, Bool.false_and, Option.isSome_map]
  have hpart := n.isPart
  have hpower := n.isPower
  generalize n.part = part at hpart ⊢
  rcases hpart with - | ⟨hds⟩
  case none =>
    rw [List.nil_append]
    split
    case h_1 rest heq => cases hpower.head? '.' (by rw [heq]; rfl)
    case h_2 => exact hpower.isSome_exponent?
  case point =>
    simp only [List.cons_append]
    rw [takeDigits_append hds.2 fun c hc => by rw [hpower.head? c hc]; rfl]
    exact hpower.isSome_exponent?

/-- A sign before a numeral is read as its sign. -/
theorem Numeral.ofText?_text (n : Numeral) (neg : Bool) :
    ofText? ((if neg then ['-'] else []) ++ n.text) = ofUnsigned? neg n.text := by
  cases neg
  case true => rfl
  case false =>
    obtain ⟨c, more, htext, hc⟩ := n.exists_text_cons
    rw [htext, if_neg (by decide), List.nil_append, ofText?]
    case x_1 => rintro rest heq; cases heq; cases hc
    case x => rintro rest heq; cases heq; cases hc

/-! ### Writing -/

theorem shortestFrom_pos (a b : Nat) (i : Interval) (power : Int) (fuel k : Nat) :
    0 < (shortestFrom a b i power fuel k).1 ∨
      (shortestFrom a b i power fuel k).2 = (k + fuel : Nat) := by
  induction fuel generalizing k with
  | zero => exact .inr rfl
  | succ fuel ih =>
    rw [shortestFrom]
    rcases inUnits a b (power - k + 1) with ⟨x, y⟩
    dsimp only
    split
    case isTrue h =>
      simp only [Bool.and_eq_true, bne_iff_ne] at h
      exact .inl (Nat.pos_of_ne_zero h.1.2)
    case isFalse =>
      split
      · exact .inl (Nat.succ_pos _)
      · rw [show k + (fuel + 1) = k + 1 + fuel by omega]
        exact ih (k + 1)

/-- The shortest decimal is not zero, or it has an exponent. -/
theorem shortest_pos (m : Nat) (q : Int) :
    0 < (shortest m q).digits ∨ 18 < (shortest m q).point := by
  rw [shortest_eq]
  dsimp only
  generalize hc : shortestFrom _ _ _ _ 17 1 = c
  rcases shortestFrom_pos _ _ _ _ 17 1 with hpos | hexp <;> rw [hc] at *
  · obtain ⟨-, -, hdigits⟩ := exists_dropZeros hpos 20
    exact .inl hdigits
  · have hcount := digitCount_pos c.1
    omega

variable {l : Layout}

/-- Digits with a point among them are a numeral. -/
theorem exists_numeral_withPoint {ds : List Char} (hds : IsDigits ds)
    (hzero : ds.head? ≠ some '0') (n : Int) :
    ∃ numeral : Numeral, numeral.text = (withPoint ds n).toList := by
  have hreplicate : ∀ k, ∀ c ∈ List.replicate k '0', c.isDigit = true := fun k c hc =>
    (List.eq_of_mem_replicate hc) ▸ rfl
  rw [withPoint]
  split
  case isTrue =>
    refine ⟨⟨['0'], '.' :: (List.replicate (-n).toNat '0' ++ ds), [], ?_, ?_, ?_, .none⟩, ?_⟩
    · exact isDigits_singleton rfl
    · exact fun _ => rfl
    · exact .point (.append (hreplicate _) hds)
    · simp [Numeral.text]
  case isFalse hn =>
    obtain ⟨k, hk⟩ : ∃ k, n.toNat = k + 1 := ⟨n.toNat - 1, by omega⟩
    obtain ⟨c, ds, rfl⟩ := List.exists_cons_of_ne_nil hds.1
    have hpart : IsDigits (if (ds.drop k).isEmpty then ['0'] else ds.drop k) := by
      split
      · exact isDigits_singleton rfl
      · next h => exact ⟨by simpa using h, fun c hc => hds.2 c (.tail _ (List.mem_of_mem_drop hc))⟩
    refine ⟨⟨c :: (ds.take k ++ List.replicate (k - ds.length) '0'), '.' :: _, [], ?_, ?_,
      .point hpart, .none⟩, ?_⟩
    · refine ⟨List.cons_ne_nil _ _, List.forall_mem_cons.mpr ⟨hds.2 c List.mem_cons_self, ?_⟩⟩
      exact List.forall_mem_append.mpr
        ⟨fun c hc => hds.2 c (.tail _ (List.mem_of_mem_take hc)), hreplicate _⟩
    · exact fun h => absurd h hzero
    · rw [hk]
      split <;> simp_all [Numeral.text]

/-- An exponent without a plus is one of a numeral. -/
theorem isPower_exponentText (e : Int) : IsPower (exponentText false e).toList := by
  have hdigits := isDigits_toString e.natAbs
  rw [exponentText]
  split
  · simpa using IsPower.negative hdigits
  · simpa using IsPower.positive hdigits

/-- Digits with a point after the first and an exponent are a numeral. -/
theorem exists_numeral_withExponent {ds : List Char} (hds : IsDigits ds) (zero : Bool) (e : Int) :
    ∃ numeral : Numeral, numeral.text =
      (String.ofList (ds.take 1) ++
        (if (ds.drop 1).isEmpty then if zero then ".0" else ""
          else "." ++ String.ofList (ds.drop 1)) ++ exponentText false e).toList := by
  obtain ⟨c, ds, rfl⟩ := List.exists_cons_of_ne_nil hds.1
  have hpart : IsPart (if ds.isEmpty then if zero then ".0" else ""
      else "." ++ String.ofList ds).toList := by
    split
    · split
      · exact .point (isDigits_singleton rfl)
      · exact .none
    · next h =>
      have hrest : IsDigits ds := ⟨by simpa using h, fun c hc => hds.2 c (.tail _ hc)⟩
      simpa using IsPart.point hrest
  have hfirst : IsDigits [c] := isDigits_singleton (hds.2 c List.mem_cons_self)
  refine ⟨⟨[c], _, _, hfirst, fun _ => rfl, hpart, isPower_exponentText e⟩, ?_⟩
  simp [Numeral.text]

/-- A decimal is written as a numeral. -/
theorem Decimal.exists_numeral {d : Decimal} (hl : l.fullExponent = false)
    (hd : 0 < d.digits ∨ l.highest < d.point) : ∃ n : Numeral, n.text = (d.text l).toList := by
  have hds := isDigits_toDigits d.digits
  rw [Decimal.text]
  split
  case isTrue =>
    rw [hl]
    exact exists_numeral_withExponent hds _ _
  case isFalse hpoint =>
    have hpos : d.digits ≠ 0 := by
      rcases hd with hd | hd
      · omega
      · simp [hd] at hpoint
    exact exists_numeral_withPoint hds (fun h => hpos (eq_zero_of_head?_toDigits h)) _

/-- The numeral of a decimal has a point or an exponent. -/
theorem Decimal.not_isWhole {d : Decimal} {n : Numeral} (h : n.text = (d.text l).toList) :
    n.isWhole = false := by
  by_contra hwhole
  obtain ⟨hpart, hpower⟩ : n.part = [] ∧ n.power = [] := by
    simpa [Numeral.isWhole] using hwhole
  have hdigits : ∀ c ∈ (d.text l).toList, c.isDigit = true := by
    rw [← h, Numeral.text, hpart, hpower, List.append_nil, List.append_nil]
    exact n.isDigits_whole.2
  rcases Decimal.mem_text l d with hmem | hmem
  · cases hdigits _ hmem
  · cases hdigits _ hmem

/-- **A finite number is written as a numeral**, perhaps after a sign, that has a point
or an exponent. -/
theorem exists_numeral_of_isFinite (hl : l.fullExponent = false) (hhigh : l.highest ≤ 18)
    {x : Double} (hx : x.isFinite = true) :
    ∃ (neg : Bool) (n : Numeral), n.isWhole = false ∧
      (x.text l).toList = (if neg then ['-'] else []) ++ n.text := by
  rw [isFinite] at hx
  rw [Double.text]
  split at hx
  case h_2 => cases hx
  case h_1 neg m q hparts =>
    obtain ⟨n, hn, htext⟩ : ∃ n : Numeral, n.isWhole = false ∧
        n.text = (if m == 0 then "0.0" else (shortest m q).text l).toList := by
      split
      · exact ⟨⟨['0'], ['.', '0'], [], isDigits_singleton rfl, fun _ => rfl,
          .point (isDigits_singleton rfl), .none⟩, rfl, rfl⟩
      · obtain ⟨n, htext⟩ := Decimal.exists_numeral hl ((shortest_pos m q).imp_right (by omega))
        exact ⟨n, Decimal.not_isWhole htext, htext⟩
    refine ⟨neg, n, hn, ?_⟩
    rw [hparts, String.toList_append, ← htext]
    split <;> rfl

end SigmaRules.Number
