/-
SigmaRules/Proofs/Network/Writing.lean

The texts of addresses are read back: those of version four (`v4?_v4Text`), and those
of version six (`v6?_v6Text`), in which a run of zeros may be left out.  So is a number
of bits after the slash (`lengthNumber?_toString`).

What is left out of an address of version six is a run of zeros indeed
(`eq_of_longestZeros`), and the two colons in its place are the first ones in a row
(`cutAtGap_hextetsText`).
-/
import SigmaRules.Proofs.Network.Reading

namespace SigmaRules.Network

open Text

/-! ### Numbers -/

/-- The lowest places of a number write what is left of it. -/
theorem numberOf_places (base k n : Nat) :
    numberOf base ((List.range k).map fun i => n / base ^ (k - 1 - i) % base) = n % base ^ k := by
  induction k generalizing n with
  | zero => simp [numberOf, Nat.mod_one]
  | succ k ih =>
    -- the places but the last are those of the quotient
    have hinit : (List.range k).map (fun i => n / base ^ (k + 1 - 1 - i) % base)
        = (List.range k).map fun i => n / base / base ^ (k - 1 - i) % base := by
      apply List.map_congr_left
      intro i hi
      have hexponent : k + 1 - 1 - i = k - 1 - i + 1 := by
        have := List.mem_range.mp hi
        omega
      rw [hexponent, Nat.pow_succ', Nat.div_div_eq_div_mul]
    rw [List.range_succ, List.map_append, hinit, List.map_singleton, numberOf_append, ih]
    simp only [Nat.add_one_sub_one, Nat.sub_self, Nat.pow_zero, Nat.div_one]
    rw [Nat.pow_succ', Nat.mod_mul, Nat.mul_comm, Nat.add_comm]

/-- **A number of bits is read back.** -/
theorem lengthNumber?_toString {family : Family} {l : Nat} (hl : l ≤ family.bits) :
    lengthNumber? family (toString l).toList = some l := by
  obtain ⟨ds, hds, hn, hlength⟩ := exists_digits (by decide) decimalDigit?_digitChar l
  have hbits : family.bits < 10 ^ 3 := by cases family <;> decide
  have hshort : (Nat.toDigits 10 l).length ≤ 3 :=
    (Nat.length_toDigits_le_iff (by decide) (by decide)).mpr (by omega)
  have hpos : 0 < (Nat.toDigits 10 l).length := List.length_pos_iff.mpr Nat.toDigits_ne_nil
  have hmax : maxDigits = 4300 := rfl
  have hne : ds ≠ [] := List.length_pos_iff.mp (by omega)
  have htext : (toString l).toList = Nat.toDigits 10 l := Nat.toList_repr
  rw [htext, lengthNumber?, hds]
  simp only [Option.bind_eq_bind, Option.bind_some, hn, Option.ite_none_left_eq_some,
    Bool.or_eq_true, List.isEmpty_iff, decide_eq_true_eq, not_or, and_true]
  exact ⟨⟨hne, by omega⟩, by omega⟩

/-! ### Version four -/

theorem octet?_toString : ∀ n < 256, octet? (toString n).toList = some n := by
  decide +kernel

/-- The text of an address is its four places with points between them. -/
theorem toList_v4Text (n : Nat) : (v4Text n).toList = ['.'].intercalate
    (((List.range 4).map fun i => n / 256 ^ (4 - 1 - i) % 256).map fun m =>
      (toString m).toList) := by
  rw [v4Text, String.toList_intercalate]
  rfl

/-- **An address of version four is read back.** -/
theorem v4?_v4Text {n : Nat} (hn : n < 2 ^ 32) : v4? (v4Text n).toList = some n := by
  let places := (List.range 4).map fun i => n / 256 ^ (4 - 1 - i) % 256
  have hplaces : ∀ m ∈ places, m < 256 := by
    intro m hm
    obtain ⟨i, -, rfl⟩ := List.mem_map.mp hm
    exact Nat.mod_lt _ (by decide)
  have hsplit : splitAt (· == '.') (v4Text n).toList = places.map fun m => (toString m).toList := by
    rw [toList_v4Text]
    refine splitAt_intercalate (by simp) ?_
    rw [List.forall_mem_map]
    intro m hm
    rw [show (toString m).toList = Nat.toDigits 10 m from Nat.toList_repr]
    exact not_mem_toDigits (by decide) decimalDigit?_digitChar (by decide) m
  refine v4?_eq_some_iff.mpr ⟨places, ?_, by simp [places], ?_⟩
  · rw [hsplit, List.forall₂_map_left_iff, List.forall₂_same]
    exact fun m hm => octet?_toString m (hplaces m hm)
  · rw [numberOf_places]
    exact Nat.mod_eq_of_lt hn

/-! ### Version six -/

theorem hextet?_toDigits {n : Nat} (hn : n < 65536) : hextet? (Nat.toDigits 16 n) = some n := by
  obtain ⟨ds, hds, hnumber, hlength⟩ := exists_digits (by decide) hexDigit?_digitChar n
  have hshort : (Nat.toDigits 16 n).length ≤ 4 :=
    (Nat.length_toDigits_le_iff (by decide) (by decide)).mpr hn
  have hpos : 0 < (Nat.toDigits 16 n).length := List.length_pos_iff.mpr Nat.toDigits_ne_nil
  have hne : ds ≠ [] := List.length_pos_iff.mp (by omega)
  rw [hextet?, hds]
  simp only [Option.bind_eq_bind, Option.bind_some, hnumber, Option.ite_none_left_eq_some,
    Bool.or_eq_true, List.isEmpty_iff, decide_eq_true_eq, not_or, and_true]
  exact ⟨hne, by omega⟩

section Hextets

variable {ns : List Nat}

theorem mapM_hextet? (h : ∀ n ∈ ns, n < 65536) :
    (ns.map (Nat.toDigits 16)).mapM hextet? = some ns := by
  rw [mapM_eq_some_iff, List.forall₂_map_left_iff, List.forall₂_same]
  exact fun n hn => hextet?_toDigits (h n hn)

theorem hextets?_map_toDigits (h : ∀ n ∈ ns, n < 65536) :
    hextets? (ns.map (Nat.toDigits 16)) = some ns := by
  have hpoint := not_mem_toDigits (by decide) hexDigit?_digitChar (c := '.') (by decide)
  induction ns with
  | nil => rfl
  | cons n ns ih =>
    obtain ⟨hn, hns⟩ := List.forall_mem_cons.mp h
    rcases ns with - | ⟨m, ns⟩
    · simp [hextets?, hpoint n, hextet?_toDigits hn]
    · rw [List.map_cons, List.map_cons, hextets?, hextet?_toDigits hn, ← List.map_cons, ih hns]
      · rfl
      · simp

/-! ### Colons -/

theorem colon_not_mem_toDigits (n : Nat) : ':' ∉ Nat.toDigits 16 n :=
  not_mem_toDigits (by decide) hexDigit?_digitChar (by decide) n

theorem toList_hextetsText (ns : List Nat) :
    (hextetsText ns).toList = [':'].intercalate (ns.map (Nat.toDigits 16)) := by
  simp [hextetsText, String.toList_intercalate, Function.comp_def]

theorem toList_hextetsText_singleton (n : Nat) :
    (hextetsText [n]).toList = Nat.toDigits 16 n := by
  rw [toList_hextetsText, List.map_singleton, List.intercalate_singleton]

theorem toList_hextetsText_cons_cons (n m : Nat) (ns : List Nat) :
    (hextetsText (n :: m :: ns)).toList
      = Nat.toDigits 16 n ++ ':' :: (hextetsText (m :: ns)).toList := by
  rw [toList_hextetsText, toList_hextetsText, List.map_cons, List.map_cons,
    List.intercalate_cons_cons, List.append_assoc, List.singleton_append]

/-- Numbers with colons between them do not start with a colon. -/
theorem exists_hextetsText_cons (n : Nat) (ns : List Nat) :
    ∃ c more, (hextetsText (n :: ns)).toList = c :: more ∧ c ≠ ':' := by
  obtain ⟨c, digits, hdigits⟩ := List.exists_cons_of_ne_nil (Nat.toDigits_ne_nil (n := n) (b := 16))
  have hc : c ≠ ':' := by
    rintro rfl
    exact colon_not_mem_toDigits n (hdigits ▸ List.mem_cons_self)
  rcases ns with - | ⟨m, ns⟩
  · exact ⟨c, digits, by rw [toList_hextetsText_singleton, hdigits], hc⟩
  · exact ⟨c, _, by rw [toList_hextetsText_cons_cons, hdigits, List.cons_append], hc⟩

theorem colonParts_hextetsText (ns : List Nat) :
    colonParts (hextetsText ns).toList = ns.map (Nat.toDigits 16) := by
  rcases ns with - | ⟨n, ns⟩
  · rfl
  obtain ⟨c, more, hcons, -⟩ := exists_hextetsText_cons n ns
  rw [colonParts, if_neg (by simp [hcons]), toList_hextetsText]
  refine splitAt_intercalate (by simp) ?_
  rw [List.forall_mem_map]
  exact fun m _ => colon_not_mem_toDigits m

/-- A single character before a text is not the first of two colons, unless the text starts with
the second one. -/
theorem cutAtGap_cons {c : Char} {rest : List Char} (h : c = ':' → rest.head? ≠ some ':') :
    cutAtGap (c :: rest) = (cutAtGap rest).map fun (before, after) => (c :: before, after) := by
  rw [cutAtGap]
  rintro more rfl rfl
  exact h rfl rfl

theorem cutAtGap_append {p : List Char} (hp : ':' ∉ p) (rest : List Char) :
    cutAtGap (p ++ rest) = (cutAtGap rest).map fun (before, after) => (p ++ before, after) := by
  induction p with
  | nil => simp
  | cons c p ih =>
    obtain ⟨hc, hrest⟩ := List.ne_and_not_mem_of_not_mem_cons hp
    rw [List.cons_append, cutAtGap_cons (absurd · hc.symm), ih hrest, Option.map_map]
    rfl

/-- **Two colons in a row** stand where numbers with a colon between them end. -/
theorem cutAtGap_hextetsText (ns : List Nat) (rest : List Char) :
    cutAtGap ((hextetsText ns).toList ++ rest) = (cutAtGap rest).map fun (before, after) =>
      ((hextetsText ns).toList ++ before, after) := by
  induction ns with
  | nil => simp [hextetsText]
  | cons n ns ih =>
    rcases ns with - | ⟨m, ns⟩
    · rw [toList_hextetsText_singleton]
      exact cutAtGap_append (colon_not_mem_toDigits n) rest
    · obtain ⟨c, more, hcons, hc⟩ := exists_hextetsText_cons m ns
      -- after the colon, a digit comes first
      have hhead : ((hextetsText (m :: ns)).toList ++ rest).head? ≠ some ':' := by
        rw [hcons]
        exact fun heq => hc (Option.some.inj heq)
      rw [toList_hextetsText_cons_cons, List.append_assoc, List.cons_append,
        cutAtGap_append (colon_not_mem_toDigits n), cutAtGap_cons fun _ => hhead, ih,
        Option.map_map, Option.map_map]
      simp [Function.comp_def]

end Hextets

/-! ### The run of zeros -/

theorem eq_of_zerosAt (ns : List Nat) :
    ns = List.replicate (zerosAt ns) 0 ++ ns.drop (zerosAt ns) := by
  induction ns with
  | nil => rfl
  | cons n ns ih =>
    rcases n with - | n
    · exact congrArg (0 :: ·) ih
    · rfl

/-- **What is left out is a run of zeros**, where the positions count from a number on. -/
theorem eq_of_longestZeros {i start length : Nat} {ns : List Nat}
    (h : longestZeros i ns = (start, length)) :
    ns = ns.take (start - i) ++ List.replicate length 0 ++ ns.drop (start - i + length) ∧
      (length = 0 ∨ i ≤ start) := by
  induction ns generalizing i start length with
  | nil =>
    obtain ⟨rfl, rfl⟩ := Prod.mk.inj h
    simp
  | cons n ns ih =>
    rcases hrest : longestZeros (i + 1) ns with ⟨next, count⟩
    simp only [longestZeros, hrest] at h
    split at h
    case isTrue =>
      obtain ⟨rfl, rfl⟩ := Prod.mk.inj h
      refine ⟨?_, .inr (Nat.le_refl _)⟩
      rw [Nat.sub_self, List.take_zero, List.nil_append, Nat.zero_add]
      exact eq_of_zerosAt (n :: ns)
    case isFalse hlong =>
      obtain ⟨rfl, rfl⟩ := Prod.mk.inj h
      obtain ⟨hns, hstart⟩ := ih hrest
      have hpast : i + 1 ≤ next := by omega
      have hnext : next - i = next - (i + 1) + 1 := by omega
      refine ⟨?_, .inr (by omega)⟩
      rw [hnext, List.take_succ_cons, Nat.add_right_comm, List.drop_succ_cons, List.cons_append,
        List.cons_append, ← hns]

/-- The eight places of an address of version six. -/
def places (n : Nat) : List Nat := (List.range 8).map fun i => n / 65536 ^ (8 - 1 - i) % 65536

theorem lt_of_mem_places {n m : Nat} (h : m ∈ places n) : m < 65536 := by
  obtain ⟨i, -, rfl⟩ := List.mem_map.mp h
  exact Nat.mod_lt _ (by decide)

theorem numberOf_places_six {n : Nat} (hn : n < 2 ^ 128) : numberOf 65536 (places n) = n := by
  rw [places, numberOf_places]
  exact Nat.mod_eq_of_lt hn

theorem v6Text_eq {n start length : Nat} (h : longestZeros 0 (places n) = (start, length)) :
    v6Text n =
      if length < 2 then hextetsText (places n)
      else hextetsText ((places n).take start) ++ "::" ++
        hextetsText ((places n).drop (start + length)) := by
  have hplaces : ((List.range 8).map fun i => n / Nat.pow 2 (16 * (7 - i)) % 65536) = places n := by
    apply List.map_congr_left
    intro i _
    have hpow : Nat.pow 2 (16 * (7 - i)) = 65536 ^ (8 - 1 - i) := Nat.pow_mul 2 16 (7 - i)
    rw [hpow]
  simp only [v6Text, hplaces, h]

/-- **An address of version six is read back.** -/
theorem v6?_v6Text {n : Nat} (hn : n < 2 ^ 128) : v6? (v6Text n).toList = some n := by
  have hnumber := numberOf_places_six hn
  have hlength : (places n).length = 8 := by simp [places]
  rcases hzeros : longestZeros 0 (places n) with ⟨start, length⟩
  rw [v6Text_eq hzeros]
  split
  case isTrue =>
    -- all of the places are written
    have hgap := cutAtGap_hextetsText (places n) []
    rw [List.append_nil] at hgap
    rw [v6?, hgap]
    simp only [cutAtGap, Option.map_none, colonParts_hextetsText,
      hextets?_map_toDigits fun m => lt_of_mem_places]
    simp [hlength, hnumber]
  case isFalse hlong =>
    obtain ⟨hsplit, -⟩ := eq_of_longestZeros hzeros
    rw [Nat.sub_zero] at hsplit
    generalize (places n).take start = before at hsplit ⊢
    generalize (places n).drop (start + length) = after at hsplit ⊢
    rw [hsplit] at hlength hnumber
    have hlt : ∀ m ∈ before ++ List.replicate length 0 ++ after, m < 65536 :=
      fun m hm => lt_of_mem_places (hsplit ▸ hm)
    have hbefore : ∀ m ∈ before, m < 65536 := fun m hm => hlt m (by simp [hm])
    have hafter : ∀ m ∈ after, m < 65536 := fun m hm => hlt m (by simp [hm])
    have htext : (hextetsText before ++ "::" ++ hextetsText after).toList
        = (hextetsText before).toList ++ ':' :: ':' :: (hextetsText after).toList := by
      simp
    rw [List.length_append, List.length_append, List.length_replicate] at hlength
    have hcount : 8 - before.length - after.length = length := by omega
    rw [htext, v6?, cutAtGap_hextetsText]
    simp only [cutAtGap, Option.map_some, List.append_nil, colonParts_hextetsText,
      mapM_hextet? hbefore, hextets?_map_toDigits hafter]
    simp only [Option.bind_eq_bind, Option.bind_some, hcount]
    rw [if_neg (by simp; omega), hnumber]

/-! ### Blocks -/

/-- The text of an address. -/
def Family.text : Family → Nat → String
  | .v4 => v4Text
  | .v6 => v6Text

variable {family : Family} {n l : Nat}

theorem address?_text (hn : n < 2 ^ family.bits) :
    family.address? (family.text n).toList = some n := by
  cases family <;> rw [Family.text, Family.address?]
  case v4 => exact v4?_v4Text hn
  case v6 => exact v6?_v6Text hn

/-- The text of an address writes a block of all its bits. -/
theorem writes_text (hn : n < 2 ^ family.bits) :
    Writes family (family.text n).toList n family.bits :=
  .address (address?_text hn)

/-- The text of an address with a number of bits after the slash writes a block of these. -/
theorem writes_text_slash (hn : n < 2 ^ family.bits) (hl : l ≤ family.bits) :
    Writes family (family.text n ++ "/" ++ toString l).toList n l := by
  have hlength : family.length? (toString l).toList = some l := by
    cases family with
    | v4 => exact orElse_eq_some_iff.mpr (.inl (lengthNumber?_toString hl))
    | v6 => exact lengthNumber?_toString hl
  rw [String.toList_append, String.toList_append, List.append_assoc]
  exact .block (address?_text hn) hlength

end SigmaRules.Network
