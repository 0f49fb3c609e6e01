/-
SigmaRules/Proofs/Rule/Date.lean

The days of rules are read back from their texts.  A text is read as a day only if its
three numbers are in range, with a year from 100 on (`RuleDate.parse_eq_ok`), and what is
written for a day, with zeros before its numbers, is read as these numbers again
(`RuleDate.parse_text`).

Days of the calendar are taken as they are.  They are in range as well, but the calendar
begins with the year 1: days before the year 100 are the only ones that are taken and not
read back (`accepted_day_is_read_back`).  Since a document only holds days of the
calendar, this goes for all rules that are read from texts (`days_of_parse`).
-/
import SigmaRules.Proofs.Text.Numeral
import SigmaRules.Proofs.Text.Split
import SigmaRules.Proofs.Yaml.Calendar
import SigmaRules.Rule.Basic

namespace SigmaRules

open Document Text

namespace RuleDate

/-- The month and the day are in range; the calendar is not asked for more. -/
@[mk_iff]
structure InRange (d : RuleDate) : Prop where
  month : 1 ≤ d.month ∧ d.month ≤ 12
  day : 1 ≤ d.day ∧ d.day ≤ 31

/-! ### Reading -/

theorem ofNumbers_eq_ok_iff {s : String} {y m n : Int} {d : RuleDate} :
    ofNumbers s y m n = .ok d ↔
      (y = d.year ∧ m = d.month ∧ n = d.day) ∧ 100 ≤ d.year ∧ d.InRange := by
  obtain ⟨year, month, day⟩ := d
  rw [inRange_iff, ofNumbers]
  dsimp only
  split
  case isTrue hyear =>
    simp only [reduceCtorEq, false_iff]
    omega
  split
  case isTrue hmonth =>
    simp only [Bool.or_eq_true, decide_eq_true_eq] at hmonth
    simp only [reduceCtorEq, false_iff]
    omega
  split
  case isTrue hday =>
    simp only [Bool.or_eq_true, decide_eq_true_eq] at hday
    simp only [reduceCtorEq, false_iff]
    omega
  case isFalse hyear hmonth hday =>
    simp only [Bool.or_eq_true, decide_eq_true_eq, not_or, Int.not_lt] at hmonth hday
    rw [Except.ok.injEq, mk.injEq]
    omega

/-- A text is read as a day in range, whose year has no more digits than are read. -/
theorem parse_eq_ok {s : String} {d : RuleDate} (h : parse s = .ok d) :
    d.InRange ∧ 100 ≤ d.year ∧ d.year < 10 ^ maxDigits := by
  rw [parse] at h
  split at h
  case h_2 => cases h
  split at h
  case h_2 => cases h
  case h_1 y m n hy hm hn =>
    obtain ⟨⟨rfl, -, -⟩, hyear, hrange⟩ := ofNumbers_eq_ok_iff.mp h
    exact ⟨hrange, hyear, Numeral.toNat_lt_of_toInt? hy⟩

/-! ### Reading back -/

/-- Numbers of up to four digits can be read. -/
theorem lt_of_few_digits {n : Nat} (h : n < 10 ^ 4) : n < 10 ^ maxDigits :=
  Nat.lt_of_lt_of_le h (Nat.pow_le_pow_right (by decide) (by decide))

/-- The numbers of a day, with the lengths up to which they are padded. -/
def fields (d : RuleDate) : List (Nat × Nat) := [(4, d.year), (2, d.month), (2, d.day)]

theorem toList_text (d : RuleDate) :
    d.text.toList = ['/'].intercalate (d.fields.map fun f => (padded f.1 f.2).toList) := by
  simp [text, fields, List.intercalate]

theorem splitAt_text (d : RuleDate) : splitAt (fun c => c == '/' || c == '-') d.text.toList =
    d.fields.map fun f => (padded f.1 f.2).toList := by
  rw [toList_text]
  refine splitAt_intercalate_of_forall rfl (List.cons_ne_nil _ _) (List.forall_mem_map.mpr ?_)
  intro f _ c hc
  have hdigit : c.isDigit = true := Numeral.isDigit_of_mem_padded hc
  rw [Bool.or_eq_false_iff, beq_eq_false_iff_ne, beq_eq_false_iff_ne]
  constructor <;> rintro rfl <;> cases hdigit

/-- What is written for a day is read as its three numbers. -/
theorem parse_text {d : RuleDate} (hyear : d.year < 10 ^ maxDigits) (hrange : d.InRange) :
    parse d.text = ofNumbers d.text d.year d.month d.day := by
  have hmonth : d.month < 10 ^ maxDigits := lt_of_few_digits (by have := hrange.month; omega)
  have hday : d.day < 10 ^ maxDigits := lt_of_few_digits (by have := hrange.day; omega)
  rw [parse, splitAt_text]
  simp only [fields, List.map_cons, List.map_nil,
    Numeral.toInt?_padded (by decide : 4 ≤ maxDigits) hyear,
    Numeral.toInt?_padded (by decide : 2 ≤ maxDigits) hmonth,
    Numeral.toInt?_padded (by decide : 2 ≤ maxDigits) hday]

/-- **A day in range is read back**, unless its year has lost its century. -/
theorem parse_text_eq {d : RuleDate} (hyear : d.year < 10 ^ maxDigits) (hrange : d.InRange) :
    parse d.text = if d.year < 100 then .error (.shortYear d.text) else .ok d := by
  rw [parse_text hyear hrange]
  split
  case isTrue hshort => rw [ofNumbers, if_pos (by omega)]
  case isFalse hlong => exact ofNumbers_eq_ok_iff.mpr ⟨⟨rfl, rfl, rfl⟩, by omega, hrange⟩

end RuleDate

/-! ### Days of rules -/

theorem RuleDate.inRange_ofDate {c : Date} (h : c.InCalendar) : (ofDate c).InRange where
  month := h.month
  day := ⟨h.day.1, Nat.le_trans h.day.2 (Yaml.daysIn_le c.year c.month)⟩

namespace Rule

variable {key : String} {v : Value} {d : RuleDate}

/-- What is refused gives no answer. -/
theorem refuse_ne_ok {α : Type} (problem : String → FieldProblem) (v : Value) (a : α) :
    refuse problem v ≠ .ok a := by
  rw [refuse]
  rcases v.write Value.plain with f | s <;> exact nofun

/-- Days come from texts, and from values that hold days. -/
theorem dateOfValue_cases (h : dateOfValue key v = .ok d) :
    (∃ s, v = .text s ∧ RuleDate.parse s = .ok d) ∨ ∃ c, v.day? = some c ∧ d = .ofDate c := by
  rw [dateOfValue.eq_def] at h
  split at h
  case h_1 s => exact .inl ⟨s, rfl, mapError_eq_ok_iff.mp h⟩
  case h_2 c => exact .inr ⟨c, rfl, (Except.ok.inj h).symm⟩
  case h_3 m => exact .inr ⟨m.date, rfl, (Except.ok.inj h).symm⟩
  case h_4 => exact absurd h (refuse_ne_ok _ _ _)

/-- A day is in range wherever it comes from, and its numbers can be read. -/
theorem inRange_of_dateOfValue (hv : v.IsTimely) (h : dateOfValue key v = .ok d) :
    d.InRange ∧ d.year < 10 ^ maxDigits := by
  rcases dateOfValue_cases h with ⟨s, rfl, hs⟩ | ⟨c, hc, rfl⟩
  · obtain ⟨hrange, -, hfew⟩ := RuleDate.parse_eq_ok hs
    exact ⟨hrange, hfew⟩
  · have hyear : c.year ≤ 9999 := (hv c hc).year.2
    exact ⟨RuleDate.inRange_ofDate (hv c hc), RuleDate.lt_of_few_digits (Nat.lt_succ_of_le hyear)⟩

/-- **The days of rules are in range and are read back.**  Let a value be taken as a day, and let
the calendar have the day that it holds, if it holds one.  Then the month and the day are in
range.  If the value does not hold a day before the year 100, the year is 100 or later too, and the
text of the day is read as this day.  If it does, the text is refused for its year. -/
theorem accepted_day_is_read_back (hv : v.IsTimely) (h : dateOfValue key v = .ok d) :
    ((1 ≤ d.month ∧ d.month ≤ 12) ∧ 1 ≤ d.day ∧ d.day ≤ 31) ∧
      ((∀ c, v.day? = some c → 100 ≤ c.year) → 100 ≤ d.year ∧ RuleDate.parse d.text = .ok d) ∧
      ∀ c, v.day? = some c → c.year < 100 →
        d.year < 100 ∧ RuleDate.parse d.text = .error (.shortYear d.text) := by
  obtain ⟨hrange, hfew⟩ := inRange_of_dateOfValue hv h
  have hparse := RuleDate.parse_text_eq hfew hrange
  refine ⟨⟨hrange.month, hrange.day⟩, fun hlate => ?_, fun c hc hearly => ?_⟩
  · have hyear : 100 ≤ d.year := by
      rcases dateOfValue_cases h with ⟨s, rfl, hs⟩ | ⟨c, hc, rfl⟩
      · exact (RuleDate.parse_eq_ok hs).2.1
      · exact hlate c hc
    exact ⟨hyear, hparse.trans (if_neg (Nat.not_lt.mpr hyear))⟩
  · have hyear : d.year < 100 := by
      rcases dateOfValue_cases h with ⟨s, rfl, -⟩ | ⟨c', hc', rfl⟩
      · cases hc
      · obtain rfl : c = c' := Option.some.inj (hc.symm.trans hc')
        exact hearly
    exact ⟨hyear, hparse.trans (if_pos hyear)⟩

/-- The statement at a leap day. -/
theorem sample_accepted_day :
    let v : Value := .moment ⟨⟨2024, 2, 29⟩, 23, 59, 59, 0, some 7200⟩
    v.IsTimely ∧ dateOfValue "modified" v = .ok ⟨2024, 2, 29⟩ ∧
      (∀ c, v.day? = some c → 100 ≤ c.year) ∧
      RuleDate.parse "2024/02/29" = .ok ⟨2024, 2, 29⟩ := by
  intro v
  have hv : v.IsTimely := by
    rintro c ⟨⟩
    exact ⟨by decide, by decide, by decide⟩
  have hlate : ∀ c, v.day? = some c → 100 ≤ c.year := by
    rintro c ⟨⟩
    decide
  have htaken : dateOfValue "modified" v = .ok ⟨2024, 2, 29⟩ := rfl
  exact ⟨hv, htaken, hlate, ((accepted_day_is_read_back hv htaken).2.1 hlate).2⟩

/-- The calendar has a first of January of the year 50.  A rule may be of this day if its document
holds it as a day, but the text of the day is refused. -/
theorem early_day_is_not_read_back :
    let v : Value := .date ⟨50, 1, 1⟩
    (parse "title: a\ndate: 0050-01-01\ndetection:\n  s: x\n  condition: s\n").toOption.bind (·.date)
        = some ⟨50, 1, 1⟩ ∧
      v.IsTimely ∧ dateOfValue "date" v = .ok ⟨50, 1, 1⟩ ∧ ¬ 100 ≤ (⟨50, 1, 1⟩ : RuleDate).year ∧
      RuleDate.parse (⟨50, 1, 1⟩ : RuleDate).text = .error (.shortYear "0050/01/01") := by
  refine ⟨by decide +kernel, ?_, rfl, by decide, by decide⟩
  rintro c ⟨⟩
  exact ⟨by decide, by decide, by decide⟩

/-! ### Days of documents -/

theorem exists_of_named? {es : Entries} {name : String} (h : es.named? name = some v) :
    ∃ e ∈ es, e.2 = v := by
  rw [Entries.named?] at h
  split at h
  · cases h
  · cases h
  case h_3 w _ hw =>
    obtain rfl : w = v := Option.some.inj h
    obtain ⟨e, he, heq⟩ := Option.map_eq_some_iff.mp hw
    exact ⟨e, List.mem_of_find?_eq_some he, heq⟩

theorem date?_eq_some {es : Entries} (h : date? es key = .ok (some d)) :
    ∃ v, es.named? key = some v ∧ dateOfValue key v = .ok d := by
  rw [date?] at h
  split at h
  · cases h
  case h_2 v hv =>
    obtain ⟨d', hd', heq⟩ := map_eq_ok_iff.mp h
    exact ⟨v, hv, hd'.trans (congrArg _ (Option.some.inj heq))⟩

/-- A rule has the days that stand in its document. -/
theorem meets_ofEntries_days (es : Entries) (definition : String) :
    Meets (fun _ => True)
      (fun r => date? es "date" = .ok r.date ∧ date? es "modified" = .ok r.modified)
      (ofEntries es definition) := by
  rw [ofEntries]
  split
  · trivial
  -- the title, the detection, the relations, the state, the level and the log source come first
  refine (Meets.answer _).bind fun _ _ => (Meets.answer _).bind fun _ _ =>
    (Meets.answer _).bind fun _ _ => (Meets.answer _).bind fun _ _ =>
    (Meets.answer _).bind fun _ _ => (Meets.answer _).bind fun _ _ => ?_
  refine (Meets.answer _).bind fun date hdate => (Meets.answer _).bind fun modified hmodified => ?_
  -- then texts and lists of texts
  refine (Meets.answer _).bind fun _ _ => (Meets.answer _).bind fun _ _ =>
    (Meets.answer _).bind fun _ _ => (Meets.answer _).bind fun _ _ =>
    (Meets.answer _).bind fun _ _ => (Meets.answer _).bind fun _ _ => ?_
  exact ⟨mapError_eq_ok_iff.mp hdate, mapError_eq_ok_iff.mp hmodified⟩

/-- **A rule that is read from a text has days in range**, and their texts are read back as these
days if their years are 100 or later; if not, they are refused. -/
theorem days_of_parse {text : String} {r : Rule} (h : parse text = .ok r)
    (hd : r.date = some d ∨ r.modified = some d) :
    d.InRange ∧
      RuleDate.parse d.text = if d.year < 100 then .error (.shortYear d.text) else .ok d := by
  obtain ⟨w, hw, h⟩ := exists_of_bind_eq_ok h
  have hdated := Yaml.meets_read_dated .rules text
  rw [mapError_eq_ok_iff.mp hw] at hdated
  rw [ofDocument.eq_def] at h
  split at h
  case h_2 => exact nomatch h
  case h_1 es =>
    have hdays := meets_ofEntries_days es text
    rw [h] at hdays
    obtain ⟨key, hkey⟩ : ∃ key, date? es key = .ok (some d) := by
      rcases hd with hd | hd
      · exact ⟨"date", hd ▸ hdays.1⟩
      · exact ⟨"modified", hd ▸ hdays.2⟩
    obtain ⟨v, hv, htaken⟩ := date?_eq_some hkey
    obtain ⟨e, he, rfl⟩ := exists_of_named? hv
    obtain ⟨hrange, hfew⟩ := inRange_of_dateOfValue (hdated.entries es rfl e he) htaken
    exact ⟨hrange, RuleDate.parse_text_eq hfew hrange⟩

end Rule

end SigmaRules
