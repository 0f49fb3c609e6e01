/-
SigmaRules/Proofs/Detection/Scalars.lean

Scalars of rules against the same scalars in entries.  A detection writes a scalar
as a pattern, an entry shows it as a text, and the pattern is then read as a glob.
Every text is among those of the glob that is spelled like it
(`mem_language_self`), so a scalar finds itself where the two spellings agree.
They agree unless the scalar is a floating point number that is whole, which
patterns spell without a point (`pattern_eq_shown`).

Main statement: as the value of a field, a scalar matches itself exactly if it is no
such number; as a word in the message, it matches itself at least if it is no such
number from ten to the power of sixteen on (`scalar_matches_itself`).  Whole numbers
that have too many digits to be written are no exception to it: there is neither a
detection with such a number nor an entry.
-/
import SigmaRules.Proofs.Detection.Building
import SigmaRules.Proofs.Expr.Evaluation
import SigmaRules.Proofs.Number.Whole
import SigmaRules.Proofs.Search.Alignment
import SigmaRules.Proofs.Search.Glob

namespace SigmaRules

open Document Pattern Regex

namespace Pattern

/-- A text is one of those that the glob spelled like it stands for. -/
theorem mem_language_self (s : List Char) : s ∈ language s := by
  induction s with
  | nil => exact nil_mem_language
  | cons c s ih =>
    have hc : [c] ∈ charLanguage c := by
      rw [charLanguage]
      split
      case isTrue h =>
        rw [mem_runsOf, h]
        simp
      case isFalse =>
        split
        case isTrue h => exact ⟨c, rfl, by simp [h]⟩
        case isFalse => exact ⟨c, rfl, Search.same_self .fold c.toNat⟩
    exact append_mem_language hc ih

/-- Where a glob has no wildcards, its texts have its characters, one by one and
without regard to letter case. -/
theorem exists_same_of_mem_language {p t : List Char} (hp : ∀ c ∈ p, c ≠ '*' ∧ c ≠ '?')
    (ht : t ∈ language p) {d : Char} (hd : d ∈ t) :
    ∃ c ∈ p, CaseRule.fold.same c.toNat d.toNat = true := by
  induction p generalizing t with
  | nil =>
    rw [show t = [] from ht] at hd
    exact absurd hd List.not_mem_nil
  | cons c p ih =>
    obtain ⟨hc, hrest⟩ := List.forall_mem_cons.mp hp
    rw [language, List.map_cons, List.prod_cons, charLanguage_other hc.1 hc.2] at ht
    obtain ⟨x, ⟨a, rfl, ha⟩, y, hy, rfl⟩ := Language.mem_mul.mp ht
    rcases List.mem_append.mp hd with hd | hd
    · obtain rfl : d = a := List.mem_singleton.mp hd
      exact ⟨c, List.mem_cons_self, ha⟩
    · obtain ⟨b, hb, hsame⟩ := ih hrest hy hd
      exact ⟨b, List.mem_cons_of_mem c hb, hsame⟩

end Pattern

namespace Search

variable (p : String) (e : Entry) (ps : Placeholders)

/-- A search without modifiers for one glob has an answer: whether one of the texts of
the glob is in the text inspected, and, with a field, whether it is all of it. -/
theorem succeeds_unmodified (field : Option String) :
    ∃ b, (Search.mk field [] [p]).succeeds e ps = .ok b ∧
      (b = true ↔ ∃ x y z, ((Search.mk field [] [p]).inspected e).toList = x ++ y ++ z ∧
        y ∈ language p.toList ∧
        (x = [] ∨ field.all String.isEmpty = true) ∧
        (z = [] ∨ field.all String.isEmpty = true)) := by
  have hstart : startFree [] field = field.all String.isEmpty := by simp [startFree]
  have hend : endFree [] field = field.all String.isEmpty := by simp [endFree]
  have hfree := succeeds_of_free free_nil field p e ps
  rwa [hstart, hend] at hfree

end Search

namespace Detection

open Search

/-- Is the value a floating point number that is whole? -/
def isWholeFloat : Value → Bool
  | .float x => x.toInt?.isSome
  | _ => false

variable {v : Value} {f : String}

/-! ### What scalars are written as -/

/-- Rules and entries spell scalars alike, unless they are whole floating point
numbers. -/
theorem pattern_eq_shown (hv : v.isScalar = true) (hw : isWholeFloat v = false) :
    v.pattern = v.shown := by
  cases v with
  | bool _ | int _ | text _ => rfl
  | float x =>
    have hx : x.toInt? = none := by simpa [isWholeFloat] using hw
    simp only [Value.pattern, hx]
    rfl
  | _ => cases hv

/-- The search of a scalar as the value of a field. -/
theorem ofMap_scalar (hv : v.isScalar = true) (hwrite : v.isWritable = true) (hf : f ≠ "")
    (hbar : '|' ∉ f.toList) : ofMap [(.text f, v)] = .ok (.search ⟨some f, [], [v.pattern]⟩) := by
  have hkey : Search.key ⟨some f, [], [v.pattern]⟩ = f := by simp [Search.key]
  have hknown : ∀ m ∈ ([] : List Modifier), m.isKnown = true := by simp
  have hmap := ofMap_of_key hf hbar hknown hv hwrite (k := .glob) rfl
  rwa [hkey] at hmap

/-- A scalar as a word is worked on like any other one. -/
theorem ofValue_eq_ofScalar (name : String) (hv : v.isScalar = true) :
    ofValue name v = ofScalar v := by
  cases v with
  | bool _ | int _ | text _ | float _ => rfl
  | _ => cases hv

/-- The search of a scalar as a word. -/
theorem ofValue_scalar (name : String) (hv : v.isScalar = true) (hwrite : v.isWritable = true) :
    ofValue name v = .ok (.search ⟨none, [], [v.pattern]⟩) := by
  rw [ofValue_eq_ofScalar name hv]
  exact ofScalar_eq_ok_iff.mpr ⟨hwrite, rfl⟩

/-- A scalar is a single value, however few levels there may be. -/
theorem show?_scalar (depth : Nat) (hv : v.isScalar = true) :
    v.show? depth = v.write Value.shown := by
  cases v with
  | bool _ | int _ | text _ | float _ => exact if_neg (Nat.not_lt_zero depth)
  | _ => cases hv

/-- The entry with a scalar in a field. -/
theorem ofValues_field (depth : Nat) (f : String) (hv : v.isScalar = true)
    (hwrite : v.isWritable = true) :
    Entry.ofValues depth (.text "") [(.text f, v)] = .ok ⟨"", [(f, v.shown)]⟩ := by
  have hempty : (Value.text "").show? depth = .ok "" := show?_scalar depth rfl
  have hshown : v.show? depth = .ok v.shown := (show?_scalar depth hv).trans (if_pos hwrite)
  have hfield : Entry.ofField depth (.text f, v) = .ok (f, v.shown) := by
    rw [Entry.ofField, hshown]
    rfl
  rw [Entry.ofValues, hempty, List.mapM_cons, hfield]
  rfl

/-- The entry with a scalar as its message. -/
theorem ofValues_message (depth : Nat) (hv : v.isScalar = true) (hwrite : v.isWritable = true) :
    Entry.ofValues depth v [] = .ok ⟨v.shown, []⟩ := by
  have hshown : v.show? depth = .ok v.shown := (show?_scalar depth hv).trans (if_pos hwrite)
  rw [Entry.ofValues, hshown]
  rfl

/-- **Numbers with too many digits are written nowhere**: not in patterns, and not in entries. -/
theorem stops_of_unwritable (f name : String) (depth : Nat) (hv : v.isScalar = true)
    (hwrite : v.isWritable = false) :
    ofMap [(.text f, v)] = .error (.fault .numberUnwritable) ∧
      ofValue name v = .error (.fault .numberUnwritable) ∧
      Entry.ofValues depth (.text "") [(.text f, v)] = .error .numberUnwritable ∧
      Entry.ofValues depth v [] = .error .numberUnwritable := by
  have hstop : ∀ form : Value → String, v.write form = .error .numberUnwritable :=
    fun form => if_neg (by simp [hwrite])
  have hscalars : scalars? v = some [v] := by
    cases v with
    | bool _ | int _ | text _ | float _ => rfl
    | _ => cases hv
  have hpatterns : [v].mapM (·.write Value.pattern) = .error .numberUnwritable := by
    rw [List.mapM_cons, hstop]
    rfl
  have hsearch : ofField (.text f) v = .error (.fault .numberUnwritable) := by
    simp only [ofField, hscalars, hpatterns]
    rfl
  have hempty : (Value.text "").show? depth = .ok "" := show?_scalar depth rfl
  have hshown : v.show? depth = .error .numberUnwritable :=
    (show?_scalar depth hv).trans (hstop _)
  have hfield : Entry.ofField depth (.text f, v) = .error .numberUnwritable := by
    rw [Entry.ofField, hshown]
    rfl
  refine ⟨?_, ?_, ?_, ?_⟩
  · rw [ofMap, ofFields, hsearch]
    rfl
  · rw [ofValue_eq_ofScalar name hv, ofScalar, hstop]
    rfl
  · rw [Entry.ofValues, hempty, List.mapM_cons, hfield]
    rfl
  · rw [Entry.ofValues, hshown]
    rfl

/-- The characters of whole numbers. -/
theorem toString_int_chars (z : Int) :
    ∀ c ∈ (toString z).toList, c = '-' ∨ c.isDigit = true := by
  have hnat : ∀ n : Nat, ∀ c ∈ n.repr.toList, c.isDigit = true := fun n c hc =>
    Nat.isDigit_of_mem_toDigits (by decide) (by decide) (Nat.toList_repr ▸ hc)
  rw [Int.toString_eq_repr, Int.repr_eq_if]
  split
  · exact fun c hc => .inr (hnat _ c hc)
  · intro c hc
    rw [String.toList_append, List.mem_append] at hc
    exact hc.imp (by simp) (hnat _ c)

/-- Neither a point nor the letter of exponents is the same as a character of whole
numbers. -/
theorem not_same_of_int_char {c : Char} (hc : c = '-' ∨ c.isDigit = true) :
    CaseRule.fold.same c.toNat '.'.toNat = false ∧ CaseRule.fold.same c.toNat 'e'.toNat = false := by
  have hall : ∀ n < 58, n ≠ 46 →
      CaseRule.fold.same n '.'.toNat = false ∧ CaseRule.fold.same n 'e'.toNat = false := by decide
  have hrange : c.toNat = 45 ∨ 48 ≤ c.toNat ∧ c.toNat ≤ 57 := by
    rcases hc with rfl | hc
    · exact .inl rfl
    · simp only [Char.isDigit, Bool.and_eq_true, decide_eq_true_eq] at hc
      exact .inr ⟨hc.1, hc.2⟩
  exact hall c.toNat (by omega) (by omega)

/-- A whole floating point number is not spelled like its pattern, not even if letter
case does not count. -/
theorem shown_not_mem_language (hw : isWholeFloat v = true) :
    v.shown.toList ∉ language v.pattern.toList := by
  cases v with
  | float x =>
    obtain ⟨z, hz⟩ : ∃ z, x.toInt? = some z := Option.isSome_iff_exists.mp hw
    have hpattern : (Value.float x).pattern = toString z := by simp only [Value.pattern, hz]
    have hplain : ∀ c ∈ (toString z).toList, c ≠ '*' ∧ c ≠ '?' := by
      intro c hc
      rcases toString_int_chars z c hc with rfl | h
      · decide
      · constructor
        · rintro rfl
          cases h
        · rintro rfl
          cases h
    rw [hpattern]
    intro hmem
    -- the point, or the letter of the exponent, stands for no character of the pattern
    rcases Number.Double.mem_text_of_toInt? floatLayout hz with hd | hd
    · obtain ⟨c, hc, hsame⟩ := exists_same_of_mem_language hplain hmem hd
      rw [(not_same_of_int_char (toString_int_chars z c hc)).1] at hsame
      cases hsame
    · obtain ⟨c, hc, hsame⟩ := exists_same_of_mem_language hplain hmem hd
      rw [(not_same_of_int_char (toString_int_chars z c hc)).2] at hsame
      cases hsame
  | _ => cases hw

/-- As a word, a scalar is a part of its text, if it is not a floating point number
that is whole and has more than sixteen digits. -/
theorem pattern_part_of_shown (hv : v.isScalar = true)
    (hw : ∀ x z, v = .float x → x.toInt? = some z → z.natAbs < 10 ^ 16) :
    ∃ before after, v.shown.toList = before ++ v.pattern.toList ++ after := by
  rcases hwhole : isWholeFloat v with - | -
  · exact ⟨[], [], by simp [pattern_eq_shown hv hwhole]⟩
  · cases v with
    | float x =>
      obtain ⟨z, hz⟩ : ∃ z, x.toInt? = some z := Option.isSome_iff_exists.mp hwhole
      obtain ⟨sign, htext⟩ := Number.Double.text_of_toInt? hz (hw x z rfl hz)
      have hpattern : (Value.float x).pattern = toString z := by simp only [Value.pattern, hz]
      have hshown : (Value.float x).shown = sign ++ toString z ++ ".0" := htext
      exact ⟨sign.toList, ".0".toList, by rw [hshown, hpattern]; simp⟩
    | _ => cases hwhole

/-! ### Scalars find themselves -/

/-- The search of a scalar for a field, at the entry with that scalar in that field. -/
theorem field_matches_itself (hv : v.isScalar = true) (hf : f ≠ "") (ps : Placeholders) :
    ∃ b, (Expr.search ⟨some f, [], [v.pattern]⟩).matchesEntry ⟨"", [(f, v.shown)]⟩ ps = .ok b ∧
      (b = true ↔ isWholeFloat v = false) := by
  obtain ⟨b, hb, hiff⟩ := succeeds_unmodified v.pattern ⟨"", [(f, v.shown)]⟩ ps (some f)
  refine ⟨b, (Expr.matchesEntry_search ..).trans hb, ?_⟩
  have hempty : f.isEmpty = false := by simpa using hf
  have hinspected : (Search.mk (some f) [] [v.pattern]).inspected ⟨"", [(f, v.shown)]⟩
      = v.shown := by
    simp [Search.inspected, Search.fieldName?, Option.filter, hempty, Entry.get]
  rw [hiff, hinspected]
  constructor
  · rintro ⟨x, y, z, htext, hy, hx, hz⟩
    obtain rfl : x = [] := by simpa [hempty] using hx
    obtain rfl : z = [] := by simpa [hempty] using hz
    rw [List.nil_append, List.append_nil] at htext
    exact Bool.eq_false_iff.mpr fun hw => shown_not_mem_language hw (htext ▸ hy)
  · intro hw
    exact ⟨[], v.pattern.toList, [], by simp [pattern_eq_shown hv hw], mem_language_self _,
      .inl rfl, .inl rfl⟩

/-- The search of a scalar as a word, at the entry with that scalar as its message. -/
theorem word_matches_itself (hv : v.isScalar = true)
    (hw : ∀ x z, v = .float x → x.toInt? = some z → z.natAbs < 10 ^ 16) (ps : Placeholders) :
    (Expr.search ⟨none, [], [v.pattern]⟩).matchesEntry ⟨v.shown, []⟩ ps = .ok true := by
  obtain ⟨b, hb, hiff⟩ := succeeds_unmodified v.pattern ⟨v.shown, []⟩ ps none
  obtain ⟨before, after, htext⟩ := pattern_part_of_shown hv hw
  have hmatch : b = true :=
    hiff.mpr ⟨before, v.pattern.toList, after, htext, mem_language_self _, .inr rfl, .inr rfl⟩
  exact (Expr.matchesEntry_search ..).trans (hb.trans (congrArg Except.ok hmatch))

/-- **Scalars in rules match themselves in entries**, with one exception.  If the scalar can be
written at all, there are a search of it for a field and an entry with that scalar in that field,
and the search has an answer there; it matches, unless the scalar is a floating point number that
is whole.  The search of a scalar as a word matches the entry with that scalar as its message, if
the scalar is not such a number with more than sixteen digits.  A scalar that cannot be written, as
it is a whole number with too many digits, stops whatever is made of it, searches and entries
alike. -/
theorem scalar_matches_itself (f : String) (hf : f ≠ "") (hbar : '|' ∉ f.toList) (name : String)
    (v : Value) (hv : v.isScalar = true) (depth : Nat) (ps : Placeholders) :
    (v.isWritable = true →
      (∃ x e b, ofMap [(.text f, v)] = .ok x ∧
        Entry.ofValues depth (.text "") [(.text f, v)] = .ok e ∧ x.matchesEntry e ps = .ok b ∧
        (b = true ↔ isWholeFloat v = false)) ∧
      ((∀ x z, v = .float x → x.toInt? = some z → z.natAbs < 10 ^ 16) →
        ∃ x e, ofValue name v = .ok x ∧ Entry.ofValues depth v [] = .ok e ∧
          x.matchesEntry e ps = .ok true)) ∧
    (v.isWritable = false →
      (∃ n, v = .int n ∧ Text.maxDigits < Number.Double.digitCount n.natAbs) ∧
        ofMap [(.text f, v)] = .error (.fault .numberUnwritable) ∧
        ofValue name v = .error (.fault .numberUnwritable) ∧
        Entry.ofValues depth (.text "") [(.text f, v)] = .error .numberUnwritable ∧
        Entry.ofValues depth v [] = .error .numberUnwritable) := by
  refine ⟨fun hwrite => ⟨?_, fun hw => ?_⟩, fun hwrite => ⟨?_, ?_⟩⟩
  · obtain ⟨b, hb, hiff⟩ := field_matches_itself hv hf ps
    exact ⟨_, _, b, ofMap_scalar hv hwrite hf hbar, ofValues_field depth f hv hwrite, hb, hiff⟩
  · exact ⟨_, _, ofValue_scalar name hv hwrite, ofValues_message depth hv hwrite,
      word_matches_itself hv hw ps⟩
  · cases v with
    | int n => exact ⟨n, rfl, by simpa [Value.isWritable] using hwrite⟩
    | bool _ | text _ | float _ => cases hwrite
    | _ => cases hv
  · exact stops_of_unwritable f name depth hv hwrite

/-- The statement at a text with wildcards, brackets and a backslash in it. -/
theorem scalar_sample_matches_itself :
    let v : Value := .text "C:\\*[?].exe"
    ("Image" ≠ "" ∧ '|' ∉ "Image".toList ∧ v.isScalar = true ∧ v.isWritable = true ∧
      ∀ x z, v = .float x → x.toInt? = some z → z.natAbs < 10 ^ 16) ∧
    (∃ x e, ofMap [(.text "Image", v)] = .ok x ∧
      Entry.ofValues 9 (.text "") [(.text "Image", v)] = .ok e ∧
      x.matchesEntry e [] = .ok true) ∧
    ∃ y e, ofValue "words" v = .ok y ∧ Entry.ofValues 9 v [] = .ok e ∧
      y.matchesEntry e [] = .ok true := by
  intro v
  have hw : ∀ x z, v = .float x → x.toInt? = some z → z.natAbs < 10 ^ 16 :=
    fun x z hx => Value.noConfusion hx
  obtain ⟨⟨x, e, b, hx, he, hb, hiff⟩, hword⟩ :=
    (scalar_matches_itself "Image" (by decide) (by decide) "words" v rfl 9 []).1 rfl
  rw [hiff.mpr rfl] at hb
  exact ⟨⟨by decide, by decide, rfl, rfl, hw⟩, ⟨x, e, hx, he, hb⟩, hword hw⟩

/-- The number 2 with a point misses itself as the value of a field, and ten to the
power of sixteen with a point misses itself as a word. -/
theorem whole_float_misses_itself :
    let two : Value := .float (.ofInt 2)
    let large : Value := .float (.ofInt (10 ^ 16))
    two.shown = "2.0" ∧
      ofMap [(.text "Count", two)] = .ok (.search ⟨some "Count", [], ["2"]⟩) ∧
      Entry.ofValues 9 (.text "") [(.text "Count", two)] = .ok ⟨"", [("Count", "2.0")]⟩ ∧
      (Expr.search ⟨some "Count", [], ["2"]⟩).matchesEntry ⟨"", [("Count", "2.0")]⟩ []
        = .ok false ∧
      large.shown = "1e+16" ∧
      ofValue "words" large = .ok (.search ⟨none, [], ["10000000000000000"]⟩) ∧
      Entry.ofValues 9 large [] = .ok ⟨"1e+16", []⟩ ∧
      (Expr.search ⟨none, [], ["10000000000000000"]⟩).matchesEntry ⟨"1e+16", []⟩ []
        = .ok false := by
  refine ⟨by decide, by rfl, by rfl, by decide +kernel, by decide, by rfl, by rfl,
    by decide +kernel⟩

end Detection

end SigmaRules
