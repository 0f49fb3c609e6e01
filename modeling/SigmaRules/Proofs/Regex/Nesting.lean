/-
SigmaRules/Proofs/Regex/Nesting.lean

How deep an expression leaves the text after it.  Each open group has its flags, and
what a construct does to this stack can be told from the construct alone
(`Construct.nest`, `Reading.flagStack_apply`).

An expression stays by itself if it closes only groups that it opened, and if more text
after it makes no construct of what is none (`Nests`).  Wherever it stands, the groups
around it are still open after it (`Nests.exists_reads`), and so they are at the end of
alternatives that all stay by themselves (`length_below_le_of_alternatives`).
-/
import SigmaRules.Proofs.Regex.Alternation
import SigmaRules.Proofs.Regex.Enclosing

namespace SigmaRules.Regex

open Search

/-! ### The flags of open groups -/

/-- The flags of the groups that are open after a construct, the innermost first; `g` are those of
the innermost group before it, and `gs` those of the groups around that one. -/
def Construct.nest (g : Flags) (gs : List Flags) : Construct → List Flags
  | .plain | .atomic | .ahead _ | .behind _ | .capture _ | .conditional _ => g :: g :: gs
  | .flagged on off => g.change on off :: g :: gs
  | .flags on => g.change on [] :: gs
  | .close => gs
  | _ => g :: gs

theorem Construct.nest_append (c : Construct) (g : Flags) (gs outer : List Flags) :
    c.nest g (gs ++ outer) = c.nest g gs ++ outer := by
  cases c <;> rfl

namespace Reading

variable {r q : Reading} {c : Construct}

/-- The flags of the groups that are open, the innermost first, and those of the expression. -/
def flagStack (r : Reading) : List Flags := r.top.flags :: r.below.map Frame.flags

theorem flagStack_readClose (h : readClose r = .ok q) : q.flagStack = r.below.map Frame.flags := by
  rcases hb : r.below with - | ⟨outer, below⟩
  · simp [readClose, hb] at h
  simp only [readClose, hb] at h
  split at h
  case h_1 => cases h
  case h_8 => split at h <;> obtain rfl := Except.ok.inj h <;> rfl
  all_goals
    obtain rfl := Except.ok.inj h
    rfl

/-- **What a construct does to the flags** can be told from the construct. -/
theorem flagStack_apply (h : r.apply c = .ok q) :
    q.flagStack = c.nest r.top.flags (r.below.map Frame.flags) := by
  cases c with
  | reference y =>
    obtain ⟨i, -, h⟩ := exists_of_bind_eq_ok h
    rw [refer] at h
    split at h
    · obtain rfl := Except.ok.inj h
      rfl
    · cases h
  | capture name =>
    rcases name with - | n
    · obtain rfl := Except.ok.inj h
      rfl
    · simp only [apply, openCapture] at h
      split at h
      · cases h
      · obtain rfl := Except.ok.inj h
        rfl
  | conditional y =>
    obtain ⟨i, -, h⟩ := exists_of_bind_eq_ok h
    split at h
    · cases h
    · obtain rfl := Except.ok.inj h
      rcases y with n | j <;> rfl
  | flags on =>
    rw [apply] at h
    split at h
    · cases h
    · obtain rfl := Except.ok.inj h
      rfl
  | bar =>
    rw [apply, readBar_eq] at h
    split at h
    · cases h
    · obtain rfl := Except.ok.inj h
      rfl
  | close => exact flagStack_readClose h
  | times lo hi greed =>
    rw [apply, times] at h
    split at h
    · cases h
    · obtain rfl := Except.ok.inj h
      rfl
    · split at h
      · cases h
      · obtain rfl := Except.ok.inj h
        rfl
  | _ =>
    obtain rfl := Except.ok.inj h
    rfl

end Reading

/-! ### Expressions that stay by themselves -/

/-- The tokens close only groups that they opened, and more text after them makes no construct of
what is none.  They are read where groups with the given flags are open, and if all of them are
read, the flags are `f` after them. -/
inductive Nests (f : Flags) : List Flags → List Token → Prop
  | done {gs : List Flags} : Nests f (f :: gs) []
  /-- What starts here is no construct, and nothing that comes after it makes it one. -/
  | wrong {g : Flags} {gs : List Flags} {t : Token} {ts : List Token}
      (h : ∀ us, Ends us → ∀ x, lex g t (ts ++ us) ≠ .ok x) : Nests f (g :: gs) (t :: ts)
  /-- The construct that starts here is no comment that goes on to the end. -/
  | step {g : Flags} {gs : List Flags} {t : Token} {ts rest : List Token} {c : Construct}
      (hlex : lex g t ts = .ok (c, rest)) (hopen : ¬OpenComment g t ts)
      (h : Nests f (c.nest g gs) rest) : Nests f (g :: gs) (t :: ts)

variable {f : Flags} {r q : Reading}

/-- A construct that is no comment up to the end is the same with more text after it, if it is one
with that text at all. -/
theorem eq_of_lex_append {t : Token} {ts rest us : List Token} {c : Construct}
    {x : Construct × List Token} (hlex : lex f t ts = .ok (c, rest)) (hopen : ¬OpenComment f t ts)
    (hus : Ends us) (hmore : lex f t (ts ++ us) = .ok x) : (c, rest ++ us) = x := by
  rcases lex_append hlex hus with hlex' | hopen' | hcount
  · exact Except.ok.inj (hlex'.symm.trans hmore)
  · exact absurd hopen' hopen
  · cases hmore.symm.trans hcount.malformed

/-- **What stays by itself leaves the groups around it open**, and their flags are the same before
and after it. -/
theorem Nests.exists_reads {fs outer : List Flags} {ts us : List Token} (h : Nests f fs ts)
    (hus : Ends us) (hstack : r.flagStack = fs ++ outer) (hread : Reads r (ts ++ us) q []) :
    ∃ r' gs, Reads r' us q [] ∧ r'.flagStack = f :: gs ++ outer := by
  induction h generalizing r with
  | done => exact ⟨r, _, hread, hstack⟩
  | wrong hwrong =>
    rw [List.cons_append] at hstack hread
    obtain ⟨hflags, -⟩ := List.cons_eq_cons.mp hstack
    obtain ⟨c, rest, r', hlex, -⟩ := hread.exists_of_cons
    rw [hflags] at hlex
    exact absurd hlex (hwrong us hus _)
  | step hlex hopen _ ih =>
    rw [List.cons_append] at hstack hread
    obtain ⟨hflags, hbelow⟩ := List.cons_eq_cons.mp hstack
    obtain ⟨c', rest', r', hlex', happly, hrest⟩ := hread.exists_of_cons
    rw [hflags] at hlex'
    obtain ⟨rfl, rfl⟩ := Prod.mk.inj (eq_of_lex_append hlex hopen hus hlex')
    refine ih ?_ hrest
    rw [Reading.flagStack_apply happly, hflags, hbelow, Construct.nest_append]

/-- A text that stays by itself closes no group that was open before it. -/
theorem Nests.exists_reads_below {ts us : List Token} (h : Nests f [f] ts) (hus : Ends us)
    (hflags : r.top.flags = f) (hread : Reads r (ts ++ us) q []) :
    ∃ r', Reads r' us q [] ∧ r'.top.flags = f ∧ r.below.length ≤ r'.below.length := by
  have hstack : r.flagStack = [f] ++ r.below.map Frame.flags := by
    rw [Reading.flagStack, hflags, List.singleton_append]
  obtain ⟨r', gs, hrest, hstack'⟩ := h.exists_reads hus hstack hread
  obtain ⟨htop, hbelow⟩ := List.cons_eq_cons.mp hstack'
  refine ⟨r', hrest, htop, ?_⟩
  calc r.below.length = (r.below.map Frame.flags).length := (List.length_map _).symm
    _ ≤ (gs ++ r.below.map Frame.flags).length := List.length_append ▸ Nat.le_add_left _ _
    _ = r'.below.length := by rw [← List.length_map Frame.flags, hbelow]; rfl

/-! ### Alternatives -/

theorem lex_bar (f : Flags) (ts : List Token) : lex f (.plain '|') ts = .ok (.bar, ts) := by
  simp [lex, lexPlain]

theorem ends_bar (ts : List Token) : Ends (.plain '|' :: ts) := by
  simp [Ends]

/-- A bar leaves all groups open, with their flags. -/
theorem Reads.exists_of_bar {ts : List Token} (h : Reads r (.plain '|' :: ts) q []) :
    ∃ r', Reads r' ts q [] ∧ r'.top.flags = r.top.flags ∧ r'.below = r.below := by
  obtain ⟨c, rest, r', hlex, happly, hrest⟩ := h.exists_of_cons
  rw [lex_bar] at hlex
  obtain ⟨rfl, rfl⟩ := Prod.mk.inj (Except.ok.inj hlex)
  rw [Reading.apply, readBar_eq] at happly
  split at happly
  · cases happly
  · obtain rfl := Except.ok.inj happly
    exact ⟨_, hrest, rfl, rfl⟩

/-- **Groups that are open before alternatives** that stay by themselves are open after them. -/
theorem length_below_le_of_alternatives {es : List (List Char)}
    (hnests : ∀ e ∈ es, Nests f [f] (tokenize e))
    (hended : ∀ e ∈ es, ∀ ts, tokenize e ≠ ts ++ [.dangling]) (hflags : r.top.flags = f)
    (hread : Reads r (tokenize (alternatives es)) q []) : r.below.length ≤ q.below.length := by
  induction es generalizing r with
  | nil =>
    cases hread
    exact Nat.le_refl _
  | cons e es ih =>
    obtain ⟨he, hnests⟩ := List.forall_mem_cons.mp hnests
    obtain ⟨heended, hended⟩ := List.forall_mem_cons.mp hended
    rcases es with - | ⟨e', es⟩
    · rw [alternatives, ← List.append_nil (tokenize e)] at hread
      obtain ⟨r', hend, -, hle⟩ := he.exists_reads_below .nil hflags hread
      cases hend
      exact hle
    · rw [tokenize_alternatives heended] at hread
      obtain ⟨r', hbar, htop, hle⟩ := he.exists_reads_below (ends_bar _) hflags hread
      obtain ⟨r'', hlast, htop', hbelow⟩ := hbar.exists_of_bar
      have hrest := ih hnests hended (htop'.trans htop) hlast
      rw [hbelow] at hrest
      exact Nat.le_trans hle hrest

end SigmaRules.Regex
