/-
SigmaRules/Proofs/Yaml/Calendar.lean

Days in documents.  A scalar that is meant as a day or a moment is checked against the
calendar (`meets_readStamp`), and days come from nowhere else.  So the calendar has every day
that stands under a name in a document (`meets_read_dated`).
-/
import SigmaRules.Proofs.Text.Digits
import SigmaRules.Proofs.Yaml.Values

namespace SigmaRules

open Document Text

/-- The day that a value holds, alone or with a time. -/
def Document.Value.day? : Value → Option Date
  | .date c => some c
  | .moment m => some m.date
  | _ => none

/-- The calendar has the day. -/
structure Document.Date.InCalendar (c : Date) : Prop where
  year : 1 ≤ c.year ∧ c.year ≤ 9999
  month : 1 ≤ c.month ∧ c.month ≤ 12
  day : 1 ≤ c.day ∧ c.day ≤ Yaml.daysIn c.year c.month

/-- The value holds no day but one of the calendar. -/
def Document.Value.IsTimely (v : Value) : Prop := ∀ c, v.day? = some c → c.InCalendar

theorem Document.Value.isTimely_of_day? {v : Value} (h : v.day? = none) : v.IsTimely :=
  fun c hc => by rw [h] at hc; cases hc

namespace Yaml

theorem daysIn_le (year month : Nat) : daysIn year month ≤ 31 := by
  rw [daysIn]
  repeat' split
  all_goals decide

/-! ### Scalars -/

theorem digitsUpTo?_lt {least most n : Nat} {s rest : List Char}
    (h : digitsUpTo? least most s = some (n, rest)) : n < 10 ^ most := by
  rw [digitsUpTo?] at h
  split at h
  · cases h
  simp only [Option.some.injEq, Prod.mk.injEq] at h
  obtain ⟨rfl, -⟩ := h
  let ds := (s.take most).takeWhile Char.isDigit
  have hdigits : ∀ d ∈ ds.map fun c => c.toNat - 48, d < 10 := by
    refine List.forall_mem_map.mpr fun c hc => ?_
    have hdigit : c.isDigit = true := List.all_eq_true.mp List.all_takeWhile c hc
    have hrange : 48 ≤ c.toNat ∧ c.toNat ≤ 57 := Char.isDigit_iff_toNat.mp hdigit
    omega
  have hlength : (ds.map fun c => c.toNat - 48).length ≤ most := by
    rw [List.length_map]
    exact Nat.le_trans (List.takeWhile_prefix _).length_le (List.length_take_le most s)
  exact Nat.lt_of_lt_of_le (numberOf_lt hdigits) (Nat.pow_le_pow_right (by decide) hlength)

theorem year_lt_of_stamp? {s : List Char} {t : Stamp} (h : stamp? s = some t) :
    t.year < 10 ^ 4 := by
  obtain ⟨⟨y, _⟩, hy, h⟩ := Option.bind_eq_some_iff.mp h
  obtain ⟨_, -, h⟩ := Option.bind_eq_some_iff.mp h
  obtain ⟨_, -, h⟩ := Option.bind_eq_some_iff.mp h
  obtain ⟨_, -, h⟩ := Option.bind_eq_some_iff.mp h
  obtain ⟨⟨_, rest⟩, -, h⟩ := Option.bind_eq_some_iff.mp h
  have hyear : t.year = y := by
    dsimp only at h
    split at h
    · cases h
      rfl
    · split at h
      · obtain ⟨_, -, h⟩ := Option.bind_eq_some_iff.mp h
        cases h
        rfl
      split at h
      · obtain ⟨_, -, h⟩ := Option.bind_eq_some_iff.mp h
        cases h
        rfl
      · cases h
  exact hyear ▸ digitsUpTo?_lt hy

/-- A day with nothing wrong is one of the calendar. -/
theorem inCalendar_of_wrongDay? {t : Stamp} (hyear : t.year < 10 ^ 4) (h : t.wrongDay? = none) :
    (⟨t.year, t.month, t.day⟩ : Date).InCalendar := by
  rw [Stamp.wrongDay?] at h
  split at h
  · cases h
  split at h
  · cases h
  split at h
  · cases h
  case isFalse hzero hmonth hday =>
    simp only [Bool.or_eq_true, beq_iff_eq, decide_eq_true_eq, not_or, Nat.not_lt]
      at hzero hmonth hday
    exact ⟨by dsimp only; omega, by dsimp only; omega, by dsimp only; omega⟩

theorem meets_readStamp (s : String) :
    Meets (fun _ => True) (fun v => v.isKey = true ∧ v.IsTimely) (readStamp s) := by
  rw [readStamp]
  split
  · trivial
  case h_2 t ht =>
    have hday := inCalendar_of_wrongDay? (year_lt_of_stamp? ht)
    split
    · split
      · trivial
      case h_2 hright => exact ⟨rfl, by rintro c ⟨⟩; exact hday hright⟩
    · split
      · trivial
      · trivial
      case h_3 _ hright =>
        repeat' split
        · trivial
        · trivial
        · trivial
        · exact ⟨rfl, by rintro c ⟨⟩; exact hday hright⟩

/-- What is read from a scalar is no collection, and no day but one of the calendar. -/
theorem meets_readScalar (t : Tag) (s : String) :
    Meets (fun _ => True) (fun v => v.isKey = true ∧ v.IsTimely) (readScalar t s) := by
  have hplain : ∀ v : Value, v.isKey = true → v.day? = none → v.isKey = true ∧ v.IsTimely :=
    fun v hkey hnone => ⟨hkey, Value.isTimely_of_day? hnone⟩
  rw [readScalar.eq_def]
  split
  case h_1 => exact hplain _ rfl rfl
  case h_2 =>
    rw [readBool]
    split
    · exact hplain _ rfl rfl
    · trivial
  case h_3 =>
    rw [readInt]
    split
    · trivial
    · exact (Meets.answer _).map fun n _ => hplain _ rfl rfl
  case h_4 =>
    rw [readFloat]
    split
    · trivial
    · exact (Meets.answer _).map fun x _ => hplain _ rfl rfl
  case h_5 =>
    rw [readBytes]
    split
    · rcases Bytes.ofBase64? s.toList with - | bs
      · trivial
      · exact hplain _ rfl rfl
    · trivial
  case h_6 => exact meets_readStamp s
  case h_7 => exact hplain _ rfl rfl
  case h_8 => trivial

/-! ### Documents -/

/-- The days that the value holds, or that stand under the keys of the mapping that it is, are in
the calendar. -/
structure IsDated (v : Value) : Prop where
  timely : v.IsTimely
  entries : ∀ es, v = .map es → ∀ e ∈ es, e.2.IsTimely

theorem isDated_of_isKey {v : Value} (hkey : v.isKey = true) (h : v.IsTimely) : IsDated v where
  timely := h
  entries es hes := by
    rw [hes] at hkey
    cases hkey

namespace Node

variable {n : Node}

theorem meets_atOnce?_timely (n : Node) : Meets (fun _ => True)
    (fun o => ∀ v, o = some v → v.isKey = true ∧ v.IsTimely) n.atOnce? := by
  rw [atOnce?]
  split
  · exact fun v hv => by cases hv
  split
  · split
    · trivial
    · refine (meets_readScalar n.tag _).map fun v hv w hw => ?_
      obtain rfl := Option.some.inj hw
      exact hv
  · trivial

/-- The value of a node is a mapping of the values in it, or it is no mapping. -/
theorem value_cases (n : Node) :
    (∃ es, n.value = .map (Entries.ofPairs (entryValues es))) ∨
      (∀ es, n.value ≠ .map es) ∧ n.value.IsTimely := by
  have hkey : ∀ v : Value, v.isKey = true ∧ v.IsTimely → (∀ es, v ≠ .map es) ∧ v.IsTimely := by
    rintro v ⟨hv, htimely⟩
    refine ⟨?_, htimely⟩
    rintro es rfl
    cases hv
  have hother : ∀ v : Value, (∀ es, v ≠ .map es) → v.day? = none →
      (∀ es, v ≠ .map es) ∧ v.IsTimely :=
    fun v hv hnone => ⟨hv, Value.isTimely_of_day? hnone⟩
  rw [value.eq_def]
  split
  case h_1 t s =>
    have hread := meets_readScalar t s
    split
    case h_1 v hv =>
      rw [hv] at hread
      exact .inr (hkey v hread)
    case h_2 => exact .inr (hother _ (fun _ => nofun) rfl)
  case h_2 t ns => split <;> exact .inr (hother _ (fun _ => nofun) rfl)
  case h_3 t es =>
    split
    · exact .inl ⟨es, rfl⟩
    · exact .inr (hother _ (fun _ => nofun) rfl)
    · have hread := meets_atOnce?_timely (map t es)
      split
      case h_1 v hv =>
        rw [hv] at hread
        exact .inr (hkey v (hread v rfl))
      case h_2 => exact .inr (hother _ (fun _ => nofun) rfl)
  case h_4 => exact .inr (hother _ (fun _ => nofun) rfl)

theorem isTimely_value (n : Node) : n.value.IsTimely := by
  rcases n.value_cases with ⟨es, hes⟩ | ⟨-, htimely⟩
  · exact hes ▸ Value.isTimely_of_day? rfl
  · exact htimely

theorem exists_value_of_mem_entryValues {es : List (Node × Node)} {e : Value × Value}
    (h : e ∈ entryValues es) : ∃ n : Node, e.2 = n.value := by
  induction es with
  | nil =>
    rw [entryValues] at h
    cases h
  | cons f es ih =>
    rw [entryValues.eq_def] at h
    split at h
    case h_1 heq => cases heq
    case h_2 v fs heq =>
      cases heq
      rcases List.mem_cons.mp h with rfl | h
      · exact ⟨v, rfl⟩
      · exact ih h
    case h_3 k v fs _ heq =>
      cases heq
      rcases List.mem_cons.mp h with rfl | h
      · exact ⟨v, rfl⟩
      · exact ih h

end Node

/-- An entry has the value that was written for it last. -/
theorem exists_of_mem_put {es : Entries} {k v : Value} {e : Value × Value} (h : e ∈ es.put k v) :
    e.2 = v ∨ ∃ f ∈ es, e.2 = f.2 := by
  induction es with
  | nil =>
    obtain rfl := List.mem_singleton.mp h
    exact .inl rfl
  | cons f es ih =>
    rw [Entries.put] at h
    split at h
    · rcases List.mem_cons.mp h with rfl | h
      · exact .inl rfl
      · exact .inr ⟨e, List.mem_cons_of_mem f h, rfl⟩
    · rcases List.mem_cons.mp h with rfl | h
      · exact .inr ⟨e, List.mem_cons_self, rfl⟩
      · rcases ih h with hval | ⟨g, hg, heq⟩
        · exact .inl hval
        · exact .inr ⟨g, List.mem_cons_of_mem f hg, heq⟩

theorem exists_of_mem_ofPairs {ps : List (Value × Value)} {e : Value × Value}
    (h : e ∈ Entries.ofPairs ps) : ∃ p ∈ ps, e.2 = p.2 := by
  have hwritten : ∀ e ∈ Entries.ofPairs ps, ∃ p ∈ ps, e.2 = p.2 := by
    refine List.foldlRecOn ps _ (motive := fun es : Entries => ∀ e ∈ es, ∃ p ∈ ps, e.2 = p.2)
      (List.forall_mem_nil _) ?_
    intro es hes p hp e he
    rcases exists_of_mem_put he with hval | ⟨f, hf, hval⟩
    · exact ⟨p, hp, hval⟩
    · obtain ⟨q, hq, heq⟩ := hes f hf
      exact ⟨q, hq, hval.trans heq⟩
  exact hwritten e h

theorem isDated_value (n : Node) : IsDated n.value where
  timely := n.isTimely_value
  entries es hes e he := by
    rcases n.value_cases with ⟨fs, hfs⟩ | ⟨hno, -⟩
    · obtain rfl : Entries.ofPairs (Node.entryValues fs) = es := Value.map.inj (hfs.symm.trans hes)
      obtain ⟨p, hp, heq⟩ := exists_of_mem_ofPairs he
      obtain ⟨m, hm⟩ := Node.exists_value_of_mem_entryValues hp
      rw [heq, hm]
      exact m.isTimely_value
    · exact absurd hes (hno es)

theorem meets_valueOf_dated (n : Node) : Meets (fun _ => True) IsDated (valueOf n) := by
  refine Meets.bind (Node.meets_atOnce?_timely n.merged) fun o ho => ?_
  rcases o with - | v
  · exact (Meets.answer _).bind fun _ _ => isDated_value n.merged
  · exact isDated_of_isKey (ho v rfl).1 (ho v rfl).2

/-- **Documents hold days of the calendar**, and no others. -/
theorem meets_read_dated (d : Dialect) (text : String) :
    Meets (fun _ => True) IsDated (read d text) := by
  rw [read]
  split
  · trivial
  · refine (Meets.answer _).bind fun ts _ => (Meets.answer _).bind fun node _ => ?_
    split
    · exact isDated_of_isKey rfl (Value.isTimely_of_day? rfl)
    · exact meets_valueOf_dated _

end Yaml

end SigmaRules
