/-
SigmaRules/Proofs/Regex/Enclosing.lean

An expression as the content of a group.  At the bottom of the stack, the
group that has been opened for it is in the place of the expression itself,
and there are groups around it.  That is all that its reading differs in
(`Reading.within`), as long as it closes no group that it did not open and
sets no flags for the whole expression.

One construct keeps this up (`apply_within`).  That a group can be closed by
its closing parenthesis only (`eq_close_of_lex`) limits what the constructs
after it can close (`Reads.below_le`).
-/
import SigmaRules.Proofs.Regex.Groups
import SigmaRules.Proofs.Regex.Lexing

namespace SigmaRules.Regex

namespace Reading

variable {r q : Reading} {c : Construct}

/-! ### The stack of groups -/

/-- The group around one that closes goes on. -/
theorem openings_readClose (h : readClose r = .ok q) :
    r.openings = r.top.opening :: q.openings := by
  rcases hb : r.below with - | ⟨outer, below⟩
  · simp [readClose, hb] at h
  have hafter : ∀ (q' : Reading) (p : Piece), q'.top = outer → q'.below = below →
      r.openings = r.top.opening :: (q'.push p).openings := by
    intro q' p htop hbelow
    simp [openings, push, hb, htop, hbelow]
  simp only [readClose, hb] at h
  split at h
  case h_1 => cases h
  case h_8 => split at h <;> obtain rfl := Except.ok.inj h <;> exact hafter _ _ rfl rfl
  all_goals
    obtain rfl := Except.ok.inj h
    exact hafter _ _ rfl rfl

/-- Constructs open groups, and only a closing parenthesis closes one. -/
theorem openings_suffix (h : r.apply c = .ok q) (hc : c ≠ .close) : r.openings <:+ q.openings := by
  rcases hcapture : c.isCapture with - | -
  · rcases (keeps_of_apply h hcapture hc).openings with ho | ⟨o, -, ho⟩
    · exact ho ▸ List.suffix_rfl
    · exact ho ▸ List.suffix_cons _ _
  · cases c with
    | capture name =>
      rcases name with - | n
      · obtain rfl := Except.ok.inj h
        exact List.suffix_cons _ _
      · simp only [apply, openCapture] at h
        split at h
        · cases h
        · obtain rfl := Except.ok.inj h
          exact List.suffix_cons _ _
    | _ => cases hcapture

theorem length_below_le (h : r.apply c = .ok q) (hc : c ≠ .close) :
    r.below.length ≤ q.below.length := by
  have hlength := (openings_suffix h hc).length_le
  simpa [openings] using hlength

/-- There is an expression itself, outside of all groups. -/
def Rooted (r : Reading) : Prop := [.whole] <:+ r.openings

namespace Rooted

theorem start (f : Flags) : (Reading.start f).Rooted := List.suffix_rfl

theorem opening_eq (h : r.Rooted) (hb : r.below = []) : r.top.opening = .whole := by
  rw [Rooted, openings, hb] at h
  have hbottom := (List.suffix_cons_iff.mp h).resolve_right (by simp)
  exact (List.cons_eq_cons.mp hbottom).1.symm

theorem apply (h : r.Rooted) (hq : r.apply c = .ok q) : q.Rooted := by
  by_cases hc : c = .close
  · subst hc
    rw [Rooted, openings_readClose hq] at h
    refine (List.suffix_cons_iff.mp h).resolve_left fun heq => ?_
    exact absurd (List.cons_eq_cons.mp heq).2.symm (List.cons_ne_nil _ _)
  · exact h.trans (openings_suffix hq hc)

end Rooted

theorem wholeFlags_apply (h : r.apply c = .ok q) (hc : ∀ on, c ≠ .flags on) :
    q.wholeFlags = r.wholeFlags := by
  by_cases hnothing : c = .nothing
  · subst hnothing
    obtain rfl := Except.ok.inj h
    rfl
  · have hproceeds : Proceeds r (.ok q) := h ▸ Proceeds.apply_of_ne hnothing hc
    exact congrArg Base.wholeFlags hproceeds.of_ok.2

end Reading

/-! ### What a group takes the place of -/

/-- A group that is open, with the groups around it. -/
structure Enclosure where
  opening : Opening
  outer : List Frame
  isConditional_eq : opening.isConditional = false
  outer_ne : outer ≠ []

namespace Enclosure

variable (x : Enclosure)

/-- A frame in the group.  The outermost one is that of the group. -/
def frame (outermost : Bool) (f : Frame) : Frame :=
  { f with opening := if outermost then x.opening else f.opening }

def stack : List Frame → List Frame
  | [] => x.outer
  | f :: below => x.frame below.isEmpty f :: stack below

end Enclosure

namespace Reading

variable {x : Enclosure} {r q : Reading} {c : Construct}

/-- The reading as that of the content of a group. -/
def within (x : Enclosure) (r : Reading) : Reading :=
  { r with
    top := x.frame r.below.isEmpty r.top
    below := x.stack r.below
    wholeFlags := [] }

theorem begun_within (r : Reading) : (r.within x).begun = true := by
  have hne : x.stack r.below ≠ [] := by
    rcases hb : r.below with - | ⟨f, below⟩
    · exact x.outer_ne
    · exact List.cons_ne_nil _ _
  simp [begun, within, hne]

theorem length_below_within (r : Reading) :
    (r.within x).below.length = r.below.length + x.outer.length := by
  have hstack : ∀ below, (x.stack below).length = below.length + x.outer.length := by
    intro below
    induction below with
    | nil => rw [Enclosure.stack, List.length_nil, Nat.zero_add]
    | cons f below ih => rw [Enclosure.stack, List.length_cons, ih, List.length_cons]; omega
  exact hstack r.below

theorem refer_within (i : Nat) : (r.within x).refer i = (r.refer i).map (within x) := by
  have hwidth : (r.within x).closedWidth? i = r.closedWidth? i := rfl
  rw [refer, refer, hwidth]
  split <;> rfl

theorem openCapture_within (name : Option (List Char)) :
    openCapture (r.within x) name = (openCapture r name).map (within x) := by
  rcases name with - | n
  · rfl
  · simp only [openCapture]
    have hnames : (r.within x).names = r.names := rfl
    rw [hnames]
    split <;> rfl

theorem readBar_within (h : r.Rooted) :
    readBar (r.within x) = (readBar r).map (within x) := by
  have hconditional : (r.within x).top.opening.isConditional = r.top.opening.isConditional := by
    rcases hb : r.below with - | ⟨f, below⟩
    · simp only [within, Enclosure.frame, hb, h.opening_eq hb, List.isEmpty_nil, if_true,
        x.isConditional_eq]
      rfl
    · simp [within, Enclosure.frame, hb]
  have hcomplete : (r.within x).top.complete = r.top.complete := rfl
  rw [readBar_eq, readBar_eq, hconditional, hcomplete]
  split <;> rfl

theorem readClose_within (h : r.below ≠ []) :
    readClose (r.within x) = (readClose r).map (within x) := by
  obtain ⟨outer, below, hb⟩ := List.exists_cons_of_ne_nil h
  have htop : (r.within x).top = r.top := by simp [within, Enclosure.frame, hb]
  have hbelow : (r.within x).below = x.frame below.isEmpty outer :: x.stack below := by
    rw [within, hb, Enclosure.stack]
  simp only [readClose, hb, hbelow, htop]
  split
  case h_8 => split <;> rfl
  all_goals rfl

theorem times_within (lo : Nat) (hi : Option Nat) (greed : Greed) :
    (r.within x).times lo hi greed = (r.times lo hi greed).map (within x) := by
  have hpieces : (r.within x).top.pieces = r.top.pieces := rfl
  rw [times, times, hpieces]
  split
  · rfl
  · rfl
  · split <;> rfl

/-- **A construct in a group** does what it does on its own. -/
theorem apply_within (h : r.Rooted) (hflags : ∀ on, c ≠ .flags on)
    (hclose : c = .close → r.below ≠ []) :
    (r.within x).apply c = (r.apply c).map (within x) := by
  cases c with
  | reference y =>
    have hindex : (r.within x).indexOf y = r.indexOf y := rfl
    rw [apply, apply, hindex]
    rcases r.indexOf y with e | i
    · rfl
    · exact refer_within i
  | capture name => exact openCapture_within name
  | conditional y =>
    have hindex : (r.within x).indexOf y = r.indexOf y := rfl
    have hask : (r.within x).ask y = (r.ask y).within x := by rcases y with n | i <;> rfl
    have hbound : (r.within x).bound = r.bound := rfl
    have hwidth : ∀ i, (r.within x).closedWidth? i = r.closedWidth? i := fun _ => rfl
    simp only [apply, hindex, hask]
    rcases r.indexOf y with e | i
    · rfl
    · simp only [Except.bind, hbound, hwidth]
      split <;> rfl
  | flags on => exact absurd rfl (hflags on)
  | bar => exact readBar_within h
  | close => exact readClose_within (hclose rfl)
  | times lo hi greed => exact times_within lo hi greed
  | _ => rfl

end Reading

/-! ### What closes groups -/

theorem lexEscape_ne_close {f : Flags} {c : Char} {ts rest : List Token} :
    lexEscape f c ts ≠ .ok (.close, rest) := by
  intro h
  unfold lexEscape at h
  split at h
  case h_6 =>
    split at h
    case h_3 =>
      obtain ⟨x, -, hx⟩ := exists_of_map_eq_ok h
      cases hx
    case h_4 =>
      split at h
      · simp only [lexNumber] at h
        split at h
        · split at h <;> cases h
        · cases h
      · split at h <;> cases h
    all_goals cases h
  all_goals cases h

theorem eq_close_of_lexPlain {f : Flags} {c : Char} {ts rest : List Token}
    (h : lexPlain f c ts = .ok (.close, rest)) : c = ')' ∧ rest = ts := by
  unfold lexPlain at h
  split at h
  case h_2 => exact ⟨rfl, (Prod.mk.inj (Except.ok.inj h)).2.symm⟩
  case h_3 =>
    split at h
    · exact absurd h (lexExtension_ne (.inl rfl))
    · cases h
  case h_4 =>
    obtain ⟨x, -, hx⟩ := exists_of_map_eq_ok h
    cases hx
  case h_8 =>
    obtain ⟨counts, -, h⟩ := exists_of_bind_eq_ok h
    rcases counts with - | ⟨⟨lo, hi⟩, after⟩ <;> cases h
  all_goals cases h

theorem lex_close (f : Flags) (ts : List Token) : lex f (.plain ')') ts = .ok (.close, ts) := by
  simp [lex, lexPlain]

/-- Only a closing parenthesis closes a group. -/
theorem eq_close_of_lex {f : Flags} {t : Token} {ts rest : List Token}
    (h : lex f t ts = .ok (.close, rest)) : t = .plain ')' ∧ rest = ts := by
  rcases t with c | c | -
  · simp only [lex] at h
    split at h
    · cases h
    split at h
    · obtain ⟨after, -, hafter⟩ := exists_of_map_eq_ok h
      cases hafter
    · obtain ⟨rfl, hrest⟩ := eq_close_of_lexPlain h
      exact ⟨rfl, hrest⟩
  · exact absurd h lexEscape_ne_close
  · cases h

/-! ### Runs -/

/-- An expression is read as a tree if its tokens are read to the end and there is a tree of
what has been read. -/
theorem parse_eq_ok_iff {f : Flags} {s : List Char} {n : Node} :
    parse f s = .ok n ↔ ∃ q, Reads (.start f) (tokenize s) q [] ∧ q.finish = .ok n := by
  constructor
  · intro h
    obtain ⟨q, hread, hq⟩ := exists_of_bind_eq_ok h
    exact ⟨q, .of_readAll hread, hq⟩
  · rintro ⟨q, hread, hq⟩
    have hall := hread.readAll_eq (Nat.le_refl _)
    simp only [parse, bind, Except.bind]
    rw [show readAll (tokenize s).length { top := { opening := .whole, flags := f } } (tokenize s)
      = .ok q from hall]
    exact hq

/-- All tokens are read, and all groups are closed then. -/
def Completes (r : Reading) (ts : List Token) (q : Reading) : Prop := Reads r ts q [] ∧ q.below = []

theorem Completes.reads {r q : Reading} {ts : List Token} (h : Completes r ts q) :
    Reads r ts q [] :=
  h.1

/-- There are closing parentheses for all groups that are open. -/
theorem Completes.length_below_le {r q : Reading} {ts : List Token} (h : Completes r ts q) :
    r.below.length ≤ ts.count (.plain ')') := by
  obtain ⟨hread, hq⟩ := h
  generalize hend : ([] : List Token) = us at hread
  induction hread with
  | refl => simp [hq]
  | @step r r' q t ts rest us hstep hle _ ih =>
    obtain ⟨c, hlex, happly⟩ := exists_of_step hstep
    have hrest := ih hq hend
    have hcount := (lex_suffix hlex).sublist.count_le (.plain ')')
    by_cases hc : c = .close
    · subst hc
      obtain ⟨rfl, rfl⟩ := eq_close_of_lex hlex
      have hlength := congrArg List.length (Reading.openings_readClose happly)
      simp only [Reading.openings, List.length_map, List.length_cons] at hlength
      rw [List.count_cons_self]
      omega
    · have hbelow := Reading.length_below_le happly hc
      have hmore : ts.count (.plain ')') ≤ (t :: ts).count (.plain ')') :=
        (List.sublist_cons_self t ts).count_le _
      omega

/-- With fewer closing parentheses than open groups, the groups are not closed. -/
theorem not_completes {r : Reading} {ts : List Token}
    (h : ts.count (.plain ')') < r.below.length) (q : Reading) : ¬Completes r ts q :=
  fun hq => Nat.not_le_of_lt h hq.length_below_le

end SigmaRules.Regex
