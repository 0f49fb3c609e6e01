/-
SigmaRules/Proofs/Network/Reading.lean

What texts write.  A text writes a block with an address of a family and, after a
slash, a length or a mask; an address alone is a block of all its bits (`Writes`).
No text writes two blocks (`Writes.unique`): with a colon the address is one of version
six, and without a colon it is one of version four.  The reader of blocks
finds what a text without a zone writes (`ofText?_eq_some_iff`).
-/
import SigmaRules.Proofs.Answers
import SigmaRules.Proofs.Network.Blocks
import SigmaRules.Proofs.Text.Digits

namespace SigmaRules.Network

open Text

/-- The number of the address that a text writes. -/
def Family.address? : Family → List Char → Option Nat
  | .v4 => Network.v4?
  | .v6 => Network.v6?

/-- The length that a text writes; in version four this may be a mask. -/
def Family.length? : Family → List Char → Option Nat
  | .v4, s => lengthNumber? .v4 s <|> lengthMask? s
  | .v6, s => lengthNumber? .v6 s

/-- The text writes the block of a family around an address, with a length. -/
inductive Writes (family : Family) : List Char → Nat → Nat → Prop
  | address {s : List Char} {a : Nat} (ha : family.address? s = some a) :
      Writes family s a family.bits
  | block {s t : List Char} {a l : Nat} (ha : family.address? s = some a)
      (hl : family.length? t = some l) : Writes family (s ++ '/' :: t) a l

/-- A character of an address. -/
def isAddressChar (c : Char) : Bool := c == '.' || c == ':' || (hexDigit? c).isSome

variable {family : Family} {s t : List Char} {a l n : Nat}

/-! ### Version four -/

theorem isAddressChar_of_decimalDigit? {c : Char} (h : (decimalDigit? c).isSome = true) :
    isAddressChar c = true := by
  rw [decimalDigit?] at h
  split at h
  case isTrue hdigit => simp [isAddressChar, hexDigit?, hdigit]
  case isFalse => cases h

theorem octet?_eq_some (h : octet? s = some n) :
    n ≤ 255 ∧ ∀ c ∈ s, (decimalDigit? c).isSome = true := by
  obtain ⟨ds, hds, hn⟩ := Option.bind_eq_some_iff.mp h
  have hpaired := mapM_eq_some_iff.mp hds
  simp only [Option.ite_none_left_eq_some, Bool.or_eq_true, decide_eq_true_eq, not_or,
    Option.some.injEq] at hn
  refine ⟨by omega, fun c hc => ?_⟩
  obtain ⟨d, -, hd⟩ := exists_right_of_mem hpaired hc
  rw [hd, Option.isSome_some]

/-- An address of version four is four numbers. -/
theorem v4?_eq_some_iff : v4? s = some n ↔
    ∃ ns, List.Forall₂ (fun p m => octet? p = some m) (splitAt (· == '.') s) ns ∧
      ns.length = 4 ∧ numberOf 256 ns = n := by
  simp only [v4?, Option.bind_eq_bind, Option.bind_eq_some_iff, mapM_eq_some_iff]
  refine exists_congr fun ns => and_congr_right fun _ => ?_
  rcases ns with - | ⟨a, - | ⟨b, - | ⟨c, - | ⟨d, - | ⟨e, ns⟩⟩⟩⟩⟩ <;> simp

theorem v4?_lt (h : v4? s = some n) : n < 2 ^ 32 := by
  obtain ⟨ns, hpaired, hlength, rfl⟩ := v4?_eq_some_iff.mp h
  have hlt : ∀ m ∈ ns, m < 256 := by
    intro m hm
    obtain ⟨p, -, hp⟩ := exists_left_of_mem hpaired hm
    exact Nat.lt_succ_of_le (octet?_eq_some hp).1
  have hbound := numberOf_lt hlt
  rwa [hlength] at hbound

/-- An address of version four is written with points and decimal digits. -/
theorem eq_or_isSome_of_v4? (h : v4? s = some n) {c : Char} (hc : c ∈ s) :
    c = '.' ∨ (decimalDigit? c).isSome = true := by
  obtain ⟨ns, hpaired, -, -⟩ := v4?_eq_some_iff.mp h
  by_cases hpoint : c = '.'
  · exact .inl hpoint
  · obtain ⟨p, hp, hmem⟩ := exists_mem_splitAt hc hpoint
    obtain ⟨m, -, hm⟩ := exists_right_of_mem hpaired hp
    exact .inr ((octet?_eq_some hm).2 c hmem)

theorem isAddressChar_of_v4? (h : v4? s = some n) : ∀ c ∈ s, isAddressChar c = true := by
  intro c hc
  rcases eq_or_isSome_of_v4? h hc with rfl | hdigit
  · rfl
  · exact isAddressChar_of_decimalDigit? hdigit

/-! ### Version six -/

theorem hexDigit?_lt {c : Char} {d : Nat} (h : hexDigit? c = some d) : d < 16 := by
  have hle : ∀ e : Char, c ≤ e → c.toNat ≤ e.toNat := fun _ h => UInt32.le_iff_toNat_le.mp h
  simp only [hexDigit?, Bool.and_eq_true, decide_eq_true_eq] at h
  split_ifs at h with hnumber hlower hupper
  · have hlast : c.toNat ≤ 57 := hle '9' hnumber.2
    have hvalue := Option.some.inj h
    omega
  · have hlast : c.toNat ≤ 102 := hle 'f' hlower.2
    have hvalue := Option.some.inj h
    omega
  · have hlast : c.toNat ≤ 70 := hle 'F' hupper.2
    have hvalue := Option.some.inj h
    omega

theorem hextet?_eq_some (h : hextet? s = some n) :
    n < 65536 ∧ ∀ c ∈ s, isAddressChar c = true := by
  obtain ⟨ds, hds, hn⟩ := Option.bind_eq_some_iff.mp h
  have hpaired := mapM_eq_some_iff.mp hds
  simp only [Option.ite_none_left_eq_some, Bool.or_eq_true, decide_eq_true_eq, not_or,
    Option.some.injEq] at hn
  obtain ⟨⟨-, hlength⟩, rfl⟩ := hn
  have hlt : ∀ d ∈ ds, d < 16 := by
    intro d hd
    obtain ⟨c, -, hc⟩ := exists_left_of_mem hpaired hd
    exact hexDigit?_lt hc
  constructor
  · calc numberOf 16 ds < 16 ^ ds.length := numberOf_lt hlt
      _ ≤ 16 ^ 4 := Nat.pow_le_pow_right (by decide) (by omega)
  · intro c hc
    obtain ⟨d, -, hd⟩ := exists_right_of_mem hpaired hc
    simp [isAddressChar, hd]

/-- What a list of parts is found to write: numbers of two bytes, at most one more than there are
parts. -/
structure Hextets (parts : List (List Char)) (ns : List Nat) : Prop where
  lt : ∀ n ∈ ns, n < 65536
  length_le : ns.length ≤ parts.length + 1
  chars : ∀ p ∈ parts, ∀ c ∈ p, isAddressChar c = true

theorem hextets?_eq_some {parts : List (List Char)} {ns : List Nat}
    (h : hextets? parts = some ns) : Hextets parts ns := by
  induction parts using hextets?.induct generalizing ns with
  | case1 =>
    obtain rfl : [] = ns := Option.some.inj h
    constructor <;> simp
  | case2 last hdot =>
    rw [hextets?, if_pos hdot] at h
    obtain ⟨n, hn, rfl⟩ := Option.map_eq_some_iff.mp h
    have hlt := v4?_lt hn
    refine ⟨?_, Nat.le_refl _, List.forall_mem_singleton.mpr (isAddressChar_of_v4? hn)⟩
    simp only [List.mem_cons, List.not_mem_nil, or_false, forall_eq_or_imp, forall_eq]
    omega
  | case3 last hdot =>
    rw [hextets?, if_neg hdot] at h
    obtain ⟨n, hn, rfl⟩ := Option.map_eq_some_iff.mp h
    obtain ⟨hlt, hchars⟩ := hextet?_eq_some hn
    exact ⟨List.forall_mem_singleton.mpr hlt, by simp, List.forall_mem_singleton.mpr hchars⟩
  | case4 s rest hrest ih =>
    rw [hextets?] at h
    · obtain ⟨n, hn, h⟩ := Option.bind_eq_some_iff.mp h
      obtain ⟨ms, hms, h⟩ := Option.bind_eq_some_iff.mp h
      obtain rfl : n :: ms = ns := Option.some.inj h
      obtain ⟨hlt, hchars⟩ := hextet?_eq_some hn
      have hmore := ih hms
      exact ⟨List.forall_mem_cons.mpr ⟨hlt, hmore.lt⟩, Nat.succ_le_succ hmore.length_le,
        List.forall_mem_cons.mpr ⟨hchars, hmore.chars⟩⟩
    · exact hrest

theorem eq_of_cutAtGap {before after : List Char} (h : cutAtGap s = some (before, after)) :
    s = before ++ ':' :: ':' :: after := by
  induction s using cutAtGap.induct generalizing before with
  | case1 rest =>
    obtain ⟨rfl, rfl⟩ := Prod.mk.inj (Option.some.inj h)
    rfl
  | case2 c rest hgap ih =>
    rw [cutAtGap] at h
    · obtain ⟨⟨first, second⟩, hcut, hsame⟩ := Option.map_eq_some_iff.mp h
      obtain ⟨rfl, rfl⟩ := Prod.mk.inj hsame
      exact congrArg (c :: ·) (ih hcut)
    · exact hgap
  | case3 => cases h

theorem isAddressChar_of_colonParts (h : ∀ p ∈ colonParts s, ∀ c ∈ p, isAddressChar c = true) :
    ∀ c ∈ s, isAddressChar c = true := by
  intro c hc
  by_cases hcolon : c = ':'
  · rw [hcolon]
    rfl
  · obtain ⟨p, hp, hmem⟩ := exists_mem_splitAt hc hcolon
    have hne : s.isEmpty = false := List.isEmpty_eq_false_iff_exists_mem.mpr ⟨c, hc⟩
    exact h p (by rwa [colonParts, hne]) c hmem

/-- An address of version six is eight numbers of two bytes, written with a colon. -/
structure EightHextets (s : List Char) (n : Nat) : Prop where
  colon : ':' ∈ s
  chars : ∀ c ∈ s, isAddressChar c = true
  places : ∃ ns, (∀ m ∈ ns, m < 65536) ∧ ns.length = 8 ∧ numberOf 65536 ns = n

theorem v6?_eq_some (h : v6? s = some n) : EightHextets s n := by
  rw [v6?] at h
  split at h
  case h_1 hcut =>
    obtain ⟨ns, hns, h⟩ := Option.bind_eq_some_iff.mp h
    simp only [beq_iff_eq, Option.ite_none_right_eq_some, Option.some.injEq] at h
    obtain ⟨hlength, rfl⟩ := h
    have hparts := hextets?_eq_some hns
    refine ⟨?_, isAddressChar_of_colonParts hparts.chars, ns, hparts.lt, hlength, rfl⟩
    -- a single part is not enough for eight numbers
    by_contra hcolon
    have hone : (colonParts s).length ≤ 1 := by
      rw [colonParts]
      split
      · exact Nat.zero_le 1
      · rw [splitAt_of_not_mem hcolon, List.length_singleton]
    have hfew := hparts.length_le
    omega
  case h_2 before after hcut =>
    obtain ⟨hi, hhi, h⟩ := Option.bind_eq_some_iff.mp h
    obtain ⟨lo, hlo, h⟩ := Option.bind_eq_some_iff.mp h
    simp only [beq_iff_eq, Option.ite_none_left_eq_some, Option.some.injEq] at h
    obtain ⟨hgap, rfl⟩ := h
    have hpaired := mapM_eq_some_iff.mp hhi
    have hparts := hextets?_eq_some hlo
    have hchars : ∀ p ∈ colonParts before, ∀ c ∈ p, isAddressChar c = true := by
      intro p hp
      obtain ⟨m, -, hm⟩ := exists_right_of_mem hpaired hp
      exact (hextet?_eq_some hm).2
    obtain rfl := eq_of_cutAtGap hcut
    refine ⟨by simp, ?_, _, ?_, ?_, rfl⟩
    · simp only [List.forall_mem_append, List.forall_mem_cons]
      exact ⟨isAddressChar_of_colonParts hchars, rfl, rfl,
        isAddressChar_of_colonParts hparts.chars⟩
    · intro m hm
      simp only [List.mem_append, List.mem_replicate] at hm
      rcases hm with (hm | ⟨-, rfl⟩) | hm
      · obtain ⟨p, -, hp⟩ := exists_left_of_mem hpaired hm
        exact (hextet?_eq_some hp).1
      · decide
      · exact hparts.lt m hm
    · simp only [List.length_append, List.length_replicate]
      omega

/-! ### Families -/

/-- An address has as many bits as the family. -/
theorem address?_lt (h : family.address? s = some a) : a < 2 ^ family.bits := by
  cases family with
  | v4 => exact v4?_lt h
  | v6 =>
    obtain ⟨ns, hlt, hlength, rfl⟩ := (v6?_eq_some h).places
    have hbound := numberOf_lt hlt
    rwa [hlength] at hbound

theorem isAddressChar_of_address? (h : family.address? s = some a) :
    ∀ c ∈ s, isAddressChar c = true := by
  cases family with
  | v4 => exact isAddressChar_of_v4? h
  | v6 => exact (v6?_eq_some h).chars

theorem slash_not_mem_of_address? (h : family.address? s = some a) : '/' ∉ s := by
  intro hmem
  cases isAddressChar_of_address? h '/' hmem

/-- A text is an address of one family only. -/
theorem family_eq_of_address? {family' : Family} {a' : Nat} (h : family.address? s = some a)
    (h' : family'.address? s = some a') : family = family' := by
  have hcolon : ∀ m k, v4? s = some m → v6? s = some k → False := by
    intro m k hm hk
    rcases eq_or_isSome_of_v4? hm (v6?_eq_some hk).colon with hpoint | hdigit
    · cases hpoint
    · cases hdigit
  cases family <;> cases family'
  case v4.v6 => exact (hcolon _ _ h h').elim
  case v6.v4 => exact (hcolon _ _ h' h).elim
  all_goals rfl

theorem lengthNumber?_le (h : lengthNumber? family t = some l) : l ≤ family.bits := by
  obtain ⟨ds, -, h⟩ := Option.bind_eq_some_iff.mp h
  simp only [Option.ite_none_left_eq_some, Bool.or_eq_true, decide_eq_true_eq, not_or,
    Option.some.injEq] at h
  omega

theorem maskLength?_le {mask : Nat} (h : maskLength? mask = some l) : l ≤ 32 :=
  Nat.lt_succ_iff.mp (List.mem_range.mp (List.mem_of_find?_eq_some h))

theorem lengthMask?_le (h : lengthMask? t = some l) : l ≤ 32 := by
  obtain ⟨mask, -, hlength⟩ := Option.bind_eq_some_iff.mp h
  rcases orElse_eq_some_iff.mp hlength with hones | ⟨-, hzeros⟩
  · exact maskLength?_le hones
  · exact maskLength?_le hzeros

/-- A length is one of the family. -/
theorem length?_le (h : family.length? t = some l) : l ≤ family.bits := by
  cases family with
  | v6 => exact lengthNumber?_le h
  | v4 =>
    rcases orElse_eq_some_iff.mp h with hnumber | ⟨-, hmask⟩
    · exact lengthNumber?_le hnumber
    · exact lengthMask?_le hmask

theorem isAddressChar_of_lengthNumber? (h : lengthNumber? family t = some l) :
    ∀ c ∈ t, isAddressChar c = true := by
  intro c hc
  obtain ⟨ds, hds, -⟩ := Option.bind_eq_some_iff.mp h
  obtain ⟨d, -, hd⟩ := exists_right_of_mem (mapM_eq_some_iff.mp hds) hc
  exact isAddressChar_of_decimalDigit? (hd ▸ rfl)

/-- A length is written with characters of addresses. -/
theorem isAddressChar_of_length? (h : family.length? t = some l) :
    ∀ c ∈ t, isAddressChar c = true := by
  cases family with
  | v6 => exact isAddressChar_of_lengthNumber? h
  | v4 =>
    rcases orElse_eq_some_iff.mp h with hnumber | ⟨-, hmask⟩
    · exact isAddressChar_of_lengthNumber? hnumber
    · obtain ⟨mask, hmask, -⟩ := Option.bind_eq_some_iff.mp hmask
      exact isAddressChar_of_v4? hmask

theorem slash_not_mem_of_length? (h : family.length? t = some l) : '/' ∉ t := by
  intro hmem
  cases isAddressChar_of_length? h '/' hmem

/-! ### Blocks -/

theorem Writes.address_lt (h : Writes family s a l) : a < 2 ^ family.bits := by
  cases h with
  | address ha => exact address?_lt ha
  | block ha _ => exact address?_lt ha

theorem Writes.length_le (h : Writes family s a l) : l ≤ family.bits := by
  cases h with
  | address => exact Nat.le_refl _
  | block _ hl => exact length?_le hl

/-- What writes a block has no zone. -/
theorem Writes.percent_not_mem (h : Writes family s a l) : '%' ∉ s := by
  intro hmem
  cases h with
  | address ha => cases isAddressChar_of_address? ha '%' hmem
  | block ha hl =>
    rcases List.mem_append.mp hmem with hmem | hmem
    · cases isAddressChar_of_address? ha '%' hmem
    · obtain hslash | hmem := List.mem_cons.mp hmem
      · cases hslash
      · cases isAddressChar_of_length? hl '%' hmem

theorem cutLength?_eq_alone_iff : cutLength? s = some (t, none) ↔ '/' ∉ s ∧ t = s := by
  constructor
  · intro h
    have hjoin := join_splitAt '/' s
    have hpieces : ∀ piece ∈ splitAt (· == '/') s, '/' ∉ piece := fun _ => not_mem_of_mem_splitAt
    rw [cutLength?] at h
    split at h
    case h_1 address hsplit =>
      obtain ⟨rfl, -⟩ := Prod.mk.inj (Option.some.inj h)
      rw [hsplit] at hjoin hpieces
      exact ⟨hjoin ▸ hpieces address (List.mem_singleton_self _), hjoin⟩
    case h_2 => simp at h
    case h_3 => cases h
  · rintro ⟨hs, rfl⟩
    rw [cutLength?, splitAt_of_not_mem hs]

theorem cutLength?_eq_pair_iff {u : List Char} :
    cutLength? s = some (t, some u) ↔ '/' ∉ t ∧ '/' ∉ u ∧ s = t ++ '/' :: u := by
  constructor
  · intro h
    have hjoin := join_splitAt '/' s
    have hpieces : ∀ piece ∈ splitAt (· == '/') s, '/' ∉ piece := fun _ => not_mem_of_mem_splitAt
    rw [cutLength?] at h
    split at h
    case h_1 => simp at h
    case h_2 address length hsplit =>
      obtain ⟨rfl, hlength⟩ := Prod.mk.inj (Option.some.inj h)
      obtain rfl := Option.some.inj hlength
      rw [hsplit] at hjoin hpieces
      exact ⟨hpieces _ (by simp), hpieces _ (by simp), hjoin.symm⟩
    case h_3 => cases h
  · rintro ⟨ht, hu, rfl⟩
    rw [cutLength?, splitAt_append_cons ht, splitAt_of_not_mem hu]

/-- The block of one family that a text without a zone writes. -/
def Family.block? (family : Family) (s : List Char) : Option Block := do
  let (address, length) ← cutLength? s
  let n ← family.address? address
  let length ← match length with
    | none => some family.bits
    | some l => family.length? l
  return .around family n length none

theorem block?_eq_some_iff {b : Block} :
    family.block? s = some b ↔ ∃ a l, Writes family s a l ∧ b = .around family a l none := by
  constructor
  · intro h
    obtain ⟨⟨address, length⟩, hcut, hnumber⟩ := Option.bind_eq_some_iff.mp h
    obtain ⟨a, ha, hlength⟩ := Option.bind_eq_some_iff.mp hnumber
    rcases length with - | t
    · obtain ⟨-, rfl⟩ := cutLength?_eq_alone_iff.mp hcut
      exact ⟨a, family.bits, .address ha, (Option.some.inj hlength).symm⟩
    · obtain ⟨-, -, rfl⟩ := cutLength?_eq_pair_iff.mp hcut
      obtain ⟨l, hl, hb⟩ := Option.bind_eq_some_iff.mp hlength
      exact ⟨a, l, .block ha hl, (Option.some.inj hb).symm⟩
  · rintro ⟨a, l, hwrites, rfl⟩
    rw [Family.block?]
    cases hwrites with
    | address ha =>
      rw [cutLength?_eq_alone_iff.mpr ⟨slash_not_mem_of_address? ha, rfl⟩]
      simp [ha]
    | block ha hl =>
      rw [cutLength?_eq_pair_iff.mpr
        ⟨slash_not_mem_of_address? ha, slash_not_mem_of_length? hl, rfl⟩]
      simp [ha, hl]

theorem block?_v4 : Block.v4? s = Family.v4.block? s := rfl

/-- Without a percent sign there is no zone. -/
theorem block?_v6 (hzone : '%' ∉ s) : Block.v6? s = Family.v6.block? s := by
  rw [Block.v6?, Family.block?]
  rcases hcut : cutLength? s with - | ⟨t, length⟩
  · rfl
  have ht : '%' ∉ t := by
    rcases length with - | u
    · obtain ⟨-, rfl⟩ := cutLength?_eq_alone_iff.mp hcut
      exact hzone
    · obtain ⟨-, -, rfl⟩ := cutLength?_eq_pair_iff.mp hcut
      exact fun hmem => hzone (List.mem_append_left _ hmem)
  have hwhole : cutZone? t = some (t, none) := by rw [cutZone?, cutAt_of_not_mem ht]
  simp only [Option.bind_eq_bind, Option.bind_some, hwhole]
  rfl

/-- The address of a block is what stands before the slash, and the length is what stands after
it. -/
theorem Writes.exists_cut (h : Writes family s a l) :
    ∃ t length, cutLength? s = some (t, length) ∧ family.address? t = some a ∧
      length.elim (some family.bits) family.length? = some l := by
  cases h with
  | address ha =>
    exact ⟨s, none, cutLength?_eq_alone_iff.mpr ⟨slash_not_mem_of_address? ha, rfl⟩, ha, rfl⟩
  | block ha hl =>
    exact ⟨_, some _, cutLength?_eq_pair_iff.mpr
      ⟨slash_not_mem_of_address? ha, slash_not_mem_of_length? hl, rfl⟩, ha, hl⟩

/-- **A text writes one block only.** -/
theorem Writes.unique {family' : Family} {a' l' : Nat} (h : Writes family s a l)
    (h' : Writes family' s a' l') : family = family' ∧ a = a' ∧ l = l' := by
  obtain ⟨t, length, hcut, ha, hl⟩ := h.exists_cut
  obtain ⟨t', length', hcut', ha', hl'⟩ := h'.exists_cut
  obtain ⟨rfl, rfl⟩ := Prod.mk.inj (Option.some.inj (hcut.symm.trans hcut'))
  obtain rfl := family_eq_of_address? ha ha'
  exact ⟨rfl, Option.some.inj (ha.symm.trans ha'), Option.some.inj (hl.symm.trans hl')⟩

/-- **The reader finds what a text writes.** -/
theorem ofText?_eq_some_iff {s : String} (hzone : '%' ∉ s.toList) {b : Block} :
    Block.ofText? s = some b ↔
      ∃ family a l, Writes family s.toList a l ∧ b = .around family a l none := by
  rw [Block.ofText?, orElse_eq_some_iff, block?_v4, block?_v6 hzone, block?_eq_some_iff,
    block?_eq_some_iff]
  constructor
  · rintro (hfour | ⟨-, hsix⟩)
    · exact ⟨.v4, hfour⟩
    · exact ⟨.v6, hsix⟩
  · rintro ⟨family, a, l, hwrites, rfl⟩
    cases family with
    | v4 => exact .inl ⟨a, l, hwrites, rfl⟩
    | v6 =>
      refine .inr ⟨?_, a, l, hwrites, rfl⟩
      -- a block of version four would be written by the same text
      rw [Option.eq_none_iff_forall_ne_some]
      intro b hb
      obtain ⟨a', l', hfour, -⟩ := block?_eq_some_iff.mp hb
      cases (hwrites.unique hfour).1

end SigmaRules.Network
