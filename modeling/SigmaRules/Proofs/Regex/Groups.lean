/-
SigmaRules/Proofs/Regex/Groups.lean

The groups of an expression.  They get their numbers one after the other as
they open, so the groups that are open or closed have numbers that have been
given (`Reading.Numbered`).  How many groups there are and which names they
have can be told from the constructs that are read (`constructs`).
-/
import SigmaRules.Proofs.Regex.Base

namespace SigmaRules.Regex

/-! ### Constructs that are about groups -/

namespace Construct

/-- Does a group open whose text is kept? -/
def isCapture : Construct → Bool
  | .capture _ => true
  | _ => false

/-- The name of the group that opens. -/
def name? : Construct → Option (List Char)
  | .capture name => name
  | _ => none

/-- Is a group referred to by its number? -/
def isNumbered : Construct → Bool
  | .reference (.number _) | .conditional (.number _) => true
  | _ => false

end Construct

/-- The constructs that are read, up to the first error. -/
def constructsFrom : Nat → Reading → List Token → List Construct
  | 0, _, _ => []
  | _ + 1, _, [] => []
  | fuel + 1, r, t :: ts =>
    match lex r.top.flags t ts with
    | .error _ => []
    | .ok (c, rest) =>
      c :: match r.apply c with
        | .error _ => []
        | .ok r' => constructsFrom fuel r' rest

theorem constructsFrom_cons {fuel : Nat} {r r' : Reading} {t : Token} {ts rest : List Token}
    {c : Construct} (hlex : lex r.top.flags t ts = .ok (c, rest)) (happly : r.apply c = .ok r') :
    constructsFrom (fuel + 1) r (t :: ts) = c :: constructsFrom fuel r' rest := by
  simp only [constructsFrom, hlex, happly]

/-- The reading of an expression at its start. -/
def Reading.start (f : Flags) : Reading := { top := { opening := .whole, flags := f } }

/-- The constructs of an expression, up to the first error. -/
def constructs (f : Flags) (s : List Char) : List Construct :=
  constructsFrom (tokenize s).length (.start f) (tokenize s)

/-! ### Numbers -/

namespace Reading

/-- What has been opened, the innermost first. -/
def openings (r : Reading) : List Opening := (r.top :: r.below).map Frame.opening

/-- The groups that are open or closed have numbers that have been given. -/
structure Numbered (r : Reading) : Prop where
  opened : ∀ i, .capture i ∈ r.openings → 0 < i ∧ i ≤ r.groups
  closed : ∀ w ∈ r.widths, 0 < w.1 ∧ w.1 ≤ r.groups

variable {r q : Reading} {c : Construct}

/-- Nothing happens to groups, but that something may open that is not numbered. -/
structure Keeps (r q : Reading) : Prop where
  groups : q.groups = r.groups
  names : q.names = r.names
  widths : q.widths = r.widths
  openings : q.openings = r.openings ∨
    ∃ o, (∀ i, o ≠ .capture i) ∧ q.openings = o :: r.openings

/-- What constructs do to groups: those other than the start of a group whose text is kept and the
end of a group do nothing. -/
theorem keeps_of_apply (hq : r.apply c = .ok q) (hc : c.isCapture = false) (hclose : c ≠ .close) :
    r.Keeps q := by
  have hpush : ∀ p, r.Keeps (r.push p) := fun p => ⟨rfl, rfl, rfl, .inl rfl⟩
  have henter : ∀ (p : Reading) {o : Opening} (flags : Flags), p.groups = r.groups →
      p.names = r.names → p.widths = r.widths → p.openings = r.openings →
      (∀ i, o ≠ .capture i) → r.Keeps (p.enter o flags) :=
    fun p o flags hg hn hw hopen ho => ⟨hg, hn, hw, .inr ⟨_, ho, by rw [← hopen]; rfl⟩⟩
  cases c with
  | capture name => cases hc
  | close => exact absurd rfl hclose
  | reference x =>
    obtain ⟨i, -, hq⟩ := exists_of_bind_eq_ok hq
    rw [refer] at hq
    split at hq
    · obtain rfl := Except.ok.inj hq
      exact hpush _
    · cases hq
  | conditional x =>
    obtain ⟨i, -, hq⟩ := exists_of_bind_eq_ok hq
    split at hq
    · cases hq
    · obtain rfl := Except.ok.inj hq
      rcases x with n | j
      · exact henter r _ rfl rfl rfl rfl (by simp)
      · exact henter (r.ask (.number j)) _ rfl rfl rfl rfl (by simp)
  | flags on =>
    rw [apply] at hq
    split at hq
    · cases hq
    · obtain rfl := Except.ok.inj hq
      exact ⟨rfl, rfl, rfl, .inl rfl⟩
  | bar =>
    rw [apply, readBar_eq] at hq
    split at hq
    · cases hq
    · obtain rfl := Except.ok.inj hq
      exact ⟨rfl, rfl, rfl, .inl rfl⟩
  | times lo hi greed =>
    rw [apply, times] at hq
    split at hq
    · cases hq
    · obtain rfl := Except.ok.inj hq
      exact ⟨rfl, rfl, rfl, .inl rfl⟩
    · split at hq
      · cases hq
      · obtain rfl := Except.ok.inj hq
        exact ⟨rfl, rfl, rfl, .inl rfl⟩
  | nothing =>
    obtain rfl := Except.ok.inj hq
    exact ⟨rfl, rfl, rfl, .inl rfl⟩
  | char t =>
    obtain rfl := Except.ok.inj hq
    exact hpush _
  | anchor a =>
    obtain rfl := Except.ok.inj hq
    exact hpush _
  | behind negated =>
    obtain rfl := Except.ok.inj hq
    exact henter { r with bound := _ } _ rfl rfl rfl rfl (by simp)
  | plain | atomic | ahead negated | flagged on off =>
    obtain rfl := Except.ok.inj hq
    exact henter r _ rfl rfl rfl rfl (by simp)

namespace Numbered

theorem start (f : Flags) : (Reading.start f).Numbered :=
  ⟨by simp [Reading.start, openings], by simp [Reading.start]⟩

theorem of_keeps (h : r.Numbered) (hk : r.Keeps q) : q.Numbered := by
  refine ⟨fun i hi => ?_, by rw [hk.groups, hk.widths]; exact h.closed⟩
  rw [hk.groups]
  rcases hk.openings with ho | ⟨o, hne, ho⟩
  · exact h.opened i (ho ▸ hi)
  · rcases List.mem_cons.mp (ho ▸ hi) with hi | hi
    · exact absurd hi.symm (hne i)
    · exact h.opened i hi

/-- A group opens and takes the next number. -/
theorem openCapture (h : r.Numbered) {name : Option (List Char)}
    (hq : openCapture r name = .ok q) : q.Numbered := by
  have hnext : ∀ names, ({ r with groups := r.groups + 1, names }.enter (.capture (r.groups + 1))
      r.top.flags).Numbered := by
    intro names
    refine ⟨fun i hi => ?_, fun w hw => ?_⟩
    · rcases List.mem_cons.mp hi with hi | hi
      · obtain rfl := Opening.capture.inj hi
        exact ⟨Nat.succ_pos _, Nat.le_refl _⟩
      · exact (h.opened i hi).imp_right Nat.le_succ_of_le
    · exact (h.closed w hw).imp_right Nat.le_succ_of_le
  rcases name with - | n
  · obtain rfl := Except.ok.inj hq
    exact hnext _
  · simp only [Regex.openCapture] at hq
    split at hq
    · cases hq
    · obtain rfl := Except.ok.inj hq
      exact hnext _

/-- A group that closes was open. -/
theorem readClose (h : r.Numbered) (hq : readClose r = .ok q) : q.Numbered := by
  rcases hb : r.below with - | ⟨outer, below⟩
  · simp [Regex.readClose, hb] at hq
  have hopenings : r.openings = r.top.opening :: (outer :: below).map Frame.opening := by
    rw [openings, hb, List.map_cons]
  have hafter : ∀ (q' : Reading) (p : Piece), q'.top = outer → q'.below = below →
      q'.groups = r.groups → (∀ w ∈ q'.widths, 0 < w.1 ∧ w.1 ≤ r.groups) →
      (q'.push p).Numbered := by
    intro q' p htop hbelow hg hw
    refine ⟨fun i hi => ?_, by rw [← hg] at hw; exact hw⟩
    have hi' : .capture i ∈ r.openings := by
      rw [hopenings]
      refine List.mem_cons_of_mem _ ?_
      simpa [openings, Reading.push, htop, hbelow] using hi
    exact (h.opened i hi').imp_right (hg ▸ ·)
  simp only [Regex.readClose, hb] at hq
  rcases ho : r.top.opening with - | - | - | - | i | negated | ⟨negated, bound⟩ | i <;>
    simp only [ho] at hq
  case whole => cases hq
  case capture =>
    obtain rfl := Except.ok.inj hq
    refine hafter _ _ rfl rfl rfl fun w hw => ?_
    rcases List.mem_cons.mp hw with rfl | hw
    · exact h.opened i (by rw [hopenings, ho]; exact List.mem_cons_self)
    · exact h.closed w hw
  case conditional =>
    split at hq <;> obtain rfl := Except.ok.inj hq <;> exact hafter _ _ rfl rfl rfl h.closed
  all_goals
    obtain rfl := Except.ok.inj hq
    exact hafter _ _ rfl rfl rfl h.closed

/-- Constructs keep it up that groups have numbers that have been given. -/
theorem apply (h : r.Numbered) (hq : r.apply c = .ok q) : q.Numbered := by
  by_cases hclose : c = .close
  · subst hclose
    exact h.readClose hq
  rcases hc : c.isCapture with - | -
  · exact h.of_keeps (keeps_of_apply hq hc hclose)
  · cases c with
    | capture name => exact h.openCapture hq
    | _ => cases hc

end Numbered

/-! ### Names -/

/-- The end of a group leaves numbers and names as they are. -/
theorem groups_readClose (hq : readClose r = .ok q) : q.groups = r.groups ∧ q.names = r.names := by
  simp only [readClose] at hq
  split at hq
  · cases hq
  split at hq
  case h_1 => cases hq
  case h_8 => split at hq <;> obtain rfl := Except.ok.inj hq <;> exact ⟨rfl, rfl⟩
  all_goals
    obtain rfl := Except.ok.inj hq
    exact ⟨rfl, rfl⟩

/-- What constructs do to the numbers and names of groups. -/
theorem groups_apply (hq : r.apply c = .ok q) :
    (c.isCapture = false → q.groups = r.groups) ∧
      ∀ m ∈ q.names, m ∈ r.names ∨ c.name? = some m.1 := by
  by_cases hclose : c = .close
  · subst hclose
    obtain ⟨hg, hn⟩ := groups_readClose hq
    exact ⟨fun _ => hg, fun m hm => .inl (hn ▸ hm)⟩
  rcases hc : c.isCapture with - | -
  · have hk := keeps_of_apply hq hc hclose
    exact ⟨fun _ => hk.groups, fun m hm => .inl (hk.names ▸ hm)⟩
  · refine ⟨fun h => (by cases h), fun m hm => ?_⟩
    cases c with
    | capture name =>
      rcases name with - | n
      · obtain rfl := Except.ok.inj hq
        exact .inl hm
      · simp only [Reading.apply, openCapture] at hq
        split at hq
        · cases hq
        · obtain rfl := Except.ok.inj hq
          rcases List.mem_cons.mp hm with rfl | hm
          · exact .inr rfl
          · exact .inl hm
    | _ => cases hc

/-! ### Runs -/

/-- The groups of an expression have numbers, and are among those that its constructs open. -/
theorem groups_readAll {fuel : Nat} {ts : List Token} (h : readAll fuel r ts = .ok q)
    (hr : r.Numbered) :
    q.Numbered ∧ ((∀ d ∈ constructsFrom fuel r ts, d.isCapture = false) → q.groups = r.groups) ∧
      ∀ m ∈ q.names, m ∈ r.names ∨ ∃ d ∈ constructsFrom fuel r ts, d.name? = some m.1 := by
  replace h := runsTo_of_readAll h
  induction h with
  | done => exact ⟨hr, fun _ => rfl, fun m hm => .inl hm⟩
  | @step fuel r r' t ts rest d hlex happly hrest ih =>
    obtain ⟨hnumbered, hgroups, hnames⟩ := ih (hr.apply happly)
    obtain ⟨hg, hn⟩ := groups_apply happly
    rw [constructsFrom_cons hlex happly]
    refine ⟨hnumbered, fun hall => ?_, fun m hm => ?_⟩
    · rw [hgroups fun e he => hall e (by simp [he]), hg (hall d (by simp))]
    · rcases hnames m hm with hm | ⟨e, he, hem⟩
      · exact (hn m hm).imp_right fun hd => ⟨d, by simp, hd⟩
      · exact .inr ⟨e, by simp [he], hem⟩

end Reading

end SigmaRules.Regex
