/-
SigmaRules/Proofs/Search/Acceptance.lean

Which searches without `re` are accepted, told by the names of their modifiers.
The check goes through the modifiers in order, but what it asks for has no order
except for `expand` (`Documented`).  Names and modifiers say the same
(`mem_map_ofName`, `isKnown_ofName_iff`), so acceptance is carried over from the
modifiers (`check_accepts_iff`).

Placeholders are looked at twice: the check asks for a percent sign at the start and at
the end, and the name is what is left without the first and the last character.
The two agree but for a single sign, which is both start and end
(`isPlaceholder_iff`).
-/
import SigmaRules.Proofs.Search.Answering

namespace SigmaRules

/-! ### Placeholders -/

/-- The pattern is its name between percent signs. -/
def Pattern.Wrapped (p : String) : Prop :=
  p = "%" ++ String.ofList (placeholderName p.toList) ++ "%"

/-- A pattern that starts and ends with a percent sign is wrapped in two of them, or has only
one. -/
theorem Pattern.isPlaceholder_iff {p : String} :
    isPlaceholder p.toList = true ↔ Wrapped p ∨ p = "%" := by
  have hwrapped : Wrapped p ↔ p.toList = '%' :: placeholderName p.toList ++ ['%'] := by
    rw [Wrapped, ← String.toList_inj]
    simp
  have hsingle : p = "%" ↔ p.toList = ['%'] := String.toList_inj.symm
  rw [hwrapped, hsingle]
  rcases p.toList with - | ⟨c, s⟩
  · simp [isPlaceholder]
  -- the start and the end are the same sign, or two
  rcases s.eq_nil_or_concat with rfl | ⟨s, d, rfl⟩
  · simp [isPlaceholder, placeholderName]
  · have hlast : (c :: (s ++ [d])).getLast? = some d := by
      rw [← List.cons_append, List.getLast?_concat]
    simp [isPlaceholder, placeholderName, hlast]

/-! ### Names of modifiers -/

namespace Modifier

variable {m : Modifier} {n : String} {names : List String}

theorem ofName_eq_iff : ofName n = m ↔ n = m.name :=
  ⟨fun h => h ▸ (name_ofName n).symm, fun h => h ▸ ofName_name m⟩

/-- A modifier is among those named if its name is among the names. -/
theorem mem_map_ofName : m ∈ names.map ofName ↔ m.name ∈ names := by
  simp [List.mem_map, ofName_eq_iff]

theorem isKnown_ofName_iff : (ofName n).isKnown = true ↔ n ∈ vocabulary.map Prod.fst := by
  constructor
  · intro h
    have hname : ∀ m : Modifier, m.isKnown = true → m.name ∈ vocabulary.map Prod.fst := by
      rintro (- | - | - | - | - | - | - | - | - | - | name) hm
      all_goals first | decide | cases hm
    exact name_ofName n ▸ hname (ofName n) h
  · have hall : ∀ n ∈ vocabulary.map Prod.fst, (ofName n).isKnown = true := by decide
    exact hall n

end Modifier

namespace Search

variable {names patterns : List String}

/-- What is asked for of searches without `re`: patterns, names of modifiers, with `expand` only
in the very first place, and then patterns that are placeholders, or otherwise with `cidr`
patterns that are blocks of addresses. -/
@[mk_iff]
structure Documented (placeholder : String → Prop) (names patterns : List String) : Prop where
  some_pattern : patterns ≠ []
  known : ∀ n ∈ names, n ∈ Modifier.vocabulary.map Prod.fst
  expand_first : ∀ i : Nat, names[i]? = some "expand" → i = 0
  placeholders : "expand" ∈ names → ∀ p ∈ patterns, placeholder p
  blocks : "expand" ∉ names → "cidr" ∈ names →
    ∀ p ∈ patterns, ∃ b, Network.Block.ofText? p = some b

/-- What is not behind the first place of a list is in no other place. -/
theorem not_mem_tail_iff {a : String} :
    a ∉ names.tail ↔ ∀ i : Nat, names[i]? = some a → i = 0 := by
  rcases names with - | ⟨n, names⟩
  · simp
  rw [List.tail_cons]
  constructor
  · rintro h (- | i) hi
    · rfl
    · have hi : names[i]? = some a := hi
      exact absurd (List.mem_of_getElem? hi) h
  · intro h hmem
    obtain ⟨i, hi⟩ := List.mem_iff_getElem?.mp hmem
    cases h (i + 1) hi

/-- Named modifiers without `re` fit together if their names are known, `expand` stands first and
the patterns are placeholders if it does. -/
theorem modifiersFit_names_iff (hre : "re" ∉ names) :
    ModifiersFit patterns true .glob (names.map Modifier.ofName) ↔
      (∀ n ∈ names, n ∈ Modifier.vocabulary.map Prod.fst) ∧
      (∀ i : Nat, names[i]? = some "expand" → i = 0) ∧
      ("expand" ∈ names → ∀ p ∈ patterns, Pattern.Wrapped p ∨ p = "%") := by
  have hexpand : ∀ ns : List String, .expand ∈ ns.map Modifier.ofName ↔ "expand" ∈ ns :=
    fun ns => Modifier.mem_map_ofName
  have hre : .re ∉ names.map Modifier.ofName := (Modifier.mem_map_ofName).not.mpr hre
  simp only [modifiersFit_iff, List.forall_mem_map, Modifier.isKnown_ofName_iff, if_true,
    ← List.map_tail, hexpand, not_mem_tail_iff, Pattern.isPlaceholder_iff]
  simp [hre]

/-- Named modifiers without `re` say that patterns are blocks of addresses, or nothing of them. -/
theorem readable_names_iff (hre : "re" ∉ names) :
    Readable (kindOf (names.map Modifier.ofName)) patterns ↔
      ("cidr" ∈ names → ∀ p ∈ patterns, ∃ b, Network.Block.ofText? p = some b) := by
  have hcidr : .cidr ∈ names.map Modifier.ofName ↔ "cidr" ∈ names := Modifier.mem_map_ofName
  have hre : .re ∉ names.map Modifier.ofName := (Modifier.mem_map_ofName).not.mpr hre
  rw [kindOf, kindFrom, if_neg hre, ← hcidr]
  split
  case isTrue h => exact ⟨fun hread _ => hread, fun hread => hread h⟩
  case isFalse h => exact ⟨fun _ hmem => absurd hmem h, fun _ => trivial⟩

/-- A search is accepted if it has patterns, its modifiers fit together and, unless the patterns are
placeholders, each of these can be read as they say. -/
theorem exists_check_iff {ms : List Modifier} : (∃ k, check ms patterns = .ok k) ↔
    patterns ≠ [] ∧ ModifiersFit patterns true .glob ms ∧
      (.expand ∉ ms → Readable (kindOf ms) patterns) := by
  have hkind : ∀ k, check ms patterns = .ok k ↔ patterns ≠ [] ∧
      ModifiersFit patterns true .glob ms ∧ kindOf ms = k ∧
        (.expand ∉ ms → Readable k patterns) :=
    fun k => kind_eq_ok_iff (s := ⟨none, ms, patterns⟩)
  simp only [hkind, exists_and_left, exists_eq_left']

/-- Of modifiers that do not fit together, a problem is reported. -/
theorem check_of_not_fit {ms : List Modifier} (h : ¬ ModifiersFit patterns true .glob ms) :
    ∃ q, check ms patterns = .error (.invalid q) := by
  rw [check]
  split
  · exact ⟨_, rfl⟩
  split
  case h_1 q hq => exact ⟨q, rfl⟩
  case h_2 k hk => exact absurd (checkModifiers_eq_ok_iff.mp hk).1 h

/-- With `re` and `cidr`, wherever they stand, a search is not accepted. -/
theorem check_of_re_of_cidr {ms : List Modifier} (hre : .re ∈ ms) (hcidr : .cidr ∈ ms)
    (patterns : List String) : ∃ q, check ms patterns = .error (.invalid q) :=
  check_of_not_fit fun hfit => hfit.one_kind ⟨.inr hre, .inr hcidr⟩

/-- **The check accepts what is asked for** of searches without `re`, and besides that a single
percent sign as a placeholder; it reports a problem of every other one.  With `re` added
anywhere, a search with `cidr` is never accepted. -/
theorem check_accepts_iff (hre : "re" ∉ names) (patterns : List String) :
    ((∃ k, check (names.map Modifier.ofName) patterns = .ok k) ↔
        Documented (fun p => Pattern.Wrapped p ∨ p = "%") names patterns) ∧
      ((∃ k, check (names.map Modifier.ofName) patterns = .ok k) ∨
        ∃ q, check (names.map Modifier.ofName) patterns = .error (.invalid q)) ∧
      ∀ before after, before ++ after = names → "cidr" ∈ names →
        ∃ q, check ((before ++ "re" :: after).map Modifier.ofName) patterns
          = .error (.invalid q) := by
  refine ⟨?_, ?_, ?_⟩
  · have hexpand : .expand ∈ names.map Modifier.ofName ↔ "expand" ∈ names :=
      Modifier.mem_map_ofName
    rw [exists_check_iff, hexpand, modifiersFit_names_iff hre, readable_names_iff hre,
      documented_iff]
    simp only [and_assoc]
  · rcases hcheck : check (names.map Modifier.ofName) patterns with (q | f) | k
    · exact .inr ⟨q, rfl⟩
    -- only regular expressions have counts that cannot be read
    · have hfit : CountsFit ⟨none, names.map Modifier.ofName, patterns⟩ [] :=
        fun h => absurd h ((Modifier.mem_map_ofName).not.mpr hre)
      exact absurd hcheck (kind_ne_fault hfit f)
    · exact .inl ⟨k, rfl⟩
  · rintro before after rfl hcidr
    refine check_of_re_of_cidr ?_ ?_ patterns
    · exact (Modifier.mem_map_ofName).mpr (by simp [Modifier.name])
    · refine (Modifier.mem_map_ofName).mpr ?_
      rcases List.mem_append.mp hcidr with h | h <;> simp [Modifier.name, h]

/-- The statement at a search for two blocks of addresses. -/
theorem sample_acceptance :
    "re" ∉ ["cidr", "all"] ∧
      Documented (fun p => Pattern.Wrapped p ∨ p = "%") ["cidr", "all"] ["10.0.0.0/8", "::1"] ∧
      ∃ q, check (["cidr", "re", "all"].map Modifier.ofName) ["10.0.0.0/8", "::1"]
        = .error (.invalid q) := by
  have hre : "re" ∉ ["cidr", "all"] := by decide
  obtain ⟨hiff, -, hrejected⟩ := check_accepts_iff hre ["10.0.0.0/8", "::1"]
  have haccepted : check (["cidr", "all"].map Modifier.ofName) ["10.0.0.0/8", "::1"]
      = .ok .network := by decide
  exact ⟨hre, hiff.mp ⟨_, haccepted⟩, hrejected ["cidr"] ["all"] rfl (by decide)⟩

/-- A single percent sign is accepted as a placeholder, though it is not wrapped in two. -/
theorem check_accepts_single_sign :
    check (["expand"].map Modifier.ofName) ["%"] = .ok .glob ∧
      ¬ Documented Pattern.Wrapped ["expand"] ["%"] := by
  refine ⟨by decide, fun h => ?_⟩
  have hwrapped := h.placeholders (by decide) "%" (by decide)
  exact absurd hwrapped (by rw [Pattern.Wrapped]; decide)

end Search

end SigmaRules
