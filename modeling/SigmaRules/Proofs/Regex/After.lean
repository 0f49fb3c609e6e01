/-
SigmaRules/Proofs/Regex/After.lean

An expression that comes after others.  What has been read before shifts the
numbers of its groups and adds complete alternatives to the outermost frame,
and that is all that its reading differs in (`Reading.after`), as long as it
does not see the groups before it: it must not refer to groups by number if
there are any, nor use a name that is taken (`Prior.Admits`).

One construct keeps this up (`apply_after`), so a text that can be read on its
own is read after others as well, up to a bar or the end (`reads_after`).
-/
import SigmaRules.Proofs.Regex.Groups
import SigmaRules.Proofs.Regex.Lexing
import SigmaRules.Proofs.Regex.Renaming

namespace SigmaRules.Regex

/-! ### What has been read before -/

/-- What has been read before an alternative of the expression itself. -/
structure Prior where
  /-- Complete alternatives, last first. -/
  complete : List (List Node) := []
  groups : Nat := 0
  widths : List (Nat × Width) := []
  names : List (List Char × Nat) := []
  asked : List Nat := []
  /-- The groups that are closed have numbers that have been given. -/
  given : ∀ w ∈ widths, 0 < w.1 ∧ w.1 ≤ groups
  /-- The groups that conditions ask for exist. -/
  exist : ∀ i ∈ asked, i ≤ groups

namespace Prior

variable (x : Prior)

/-- The number of a group after the groups before. -/
def number (i : Nat) : Nat := if i = 0 then 0 else x.groups + i

theorem number_injective : Function.Injective x.number := by
  intro i j h
  simp only [number] at h
  split at h <;> split at h <;> omega

theorem number_succ (i : Nat) : x.number (i + 1) = x.groups + i + 1 := by
  rw [number, if_neg (Nat.succ_ne_zero i), Nat.add_assoc]

/-- Without groups before, groups keep their numbers. -/
theorem number_eq_self (h : x.groups = 0) (i : Nat) : x.number i = i := by
  simp only [number, h]
  split <;> omega

/-- No group before has this number. -/
theorem lookup_number (i : Nat) : x.widths.lookup (x.number i) = none := by
  rw [List.lookup_eq_none_iff]
  intro w hw
  obtain ⟨hpos, hle⟩ := x.given w hw
  simp only [number, bne_iff_ne]
  split <;> omega

def opening : Opening → Opening
  | .capture i => .capture (x.number i)
  | .behind negated outer => .behind negated (outer.map (x.groups + ·))
  | .conditional i => .conditional (x.number i)
  | o => o

def piece : Piece → Piece
  | .node n => .node (n.rename x.number)
  | .spliced ns => .spliced (ns.map (Node.rename x.number))

/-- A frame after what was read before; only the outermost one has the alternatives before. -/
def frame (outermost : Bool) (f : Frame) : Frame where
  opening := if outermost then .whole else x.opening f.opening
  flags := f.flags
  complete :=
    f.complete.map (List.map (Node.rename x.number)) ++ if outermost then x.complete else []
  pieces := f.pieces.map x.piece

def stack : List Frame → List Frame
  | [] => []
  | f :: below => x.frame below.isEmpty f :: stack below

/-- The construct does not see what has been read before. -/
def Admits (c : Construct) : Prop :=
  (c.isNumbered = true → x.groups = 0) ∧ ∀ n, c.name? = some n → x.names.lookup n = none

end Prior

/-- The reading after what has been read before. -/
def Reading.after (x : Prior) (r : Reading) : Reading where
  top := x.frame r.below.isEmpty r.top
  below := x.stack r.below
  groups := x.groups + r.groups
  widths := r.widths.map (Prod.map x.number id) ++ x.widths
  names := r.names.map (Prod.map id x.number) ++ x.names
  bound := r.bound.map (x.groups + ·)
  asked := r.asked.map x.number ++ x.asked
  wholeFlags := r.wholeFlags

/-! ### One construct -/

namespace Reading

variable {x : Prior} {r q : Reading}

theorem enter_after (o : Opening) (flags : Flags) :
    (r.after x).enter (x.opening o) flags = (r.enter o flags).after x := rfl

theorem closedWidth?_after (i : Nat) :
    (r.after x).closedWidth? (x.number i) = r.closedWidth? i := by
  have hlookup : (r.after x).widths.lookup (x.number i) = r.widths.lookup i := by
    simp [after, List.lookup_append, State.lookup_map_rename x.number_injective, x.lookup_number]
  rw [closedWidth?, closedWidth?, hlookup]
  rcases hb : r.bound with - | b
  · simp [after, hb]
  · have hle : x.number i ≤ x.groups + b ↔ i ≤ b := by
      simp only [Prior.number]
      split <;> omega
    simp [after, hb, hle]

theorem refer_after {i : Nat} (h : r.refer i = .ok q) :
    (r.after x).refer (x.number i) = .ok (q.after x) := by
  rw [refer] at h ⊢
  rw [closedWidth?_after]
  rcases hw : r.closedWidth? i with - | w
  · simp [hw] at h
  · simp only [hw, Except.ok.injEq] at h ⊢
    rw [← h]
    rfl

theorem indexOf_after {y : Referent} {i : Nat} (h : r.indexOf y = .ok i)
    (hy : ∀ j, y = .number j → x.groups = 0) : (r.after x).indexOf y = .ok (x.number i) := by
  rcases y with n | j
  · rw [indexOf] at h ⊢
    rcases hn : r.names.lookup n with - | k
    · simp [hn] at h
    · obtain rfl : k = i := by simpa [hn] using h
      have hlookup : (r.after x).names.lookup n = some (x.number k) := by
        rw [after, List.lookup_append, lookup_map_values, hn]
        rfl
      rw [hlookup]
  · obtain rfl : j = i := Except.ok.inj h
    rw [x.number_eq_self (hy j rfl)]
    rfl

theorem openCapture_after {name : Option (List Char)} (h : openCapture r name = .ok q)
    (hname : ∀ n, name = some n → x.names.lookup n = none) :
    openCapture (r.after x) name = .ok (q.after x) := by
  have hindex : (r.after x).groups + 1 = x.number (r.groups + 1) := (x.number_succ _).symm
  have hgroups : x.number (r.groups + 1) = x.groups + (r.groups + 1) := by
    rw [Prior.number, if_neg (Nat.succ_ne_zero _)]
  have hopen : ∀ names : List (List Char × Nat),
      { r.after x with
        groups := x.number (r.groups + 1)
        names := names.map (Prod.map id x.number) ++ x.names }.enter
          (.capture (x.number (r.groups + 1))) r.top.flags
        = ({ r with groups := r.groups + 1, names }.enter (.capture (r.groups + 1))
            r.top.flags).after x := by
    intro names
    rw [← enter_after]
    simp only [after, hgroups]
    rfl
  rcases name with - | n
  · obtain rfl := Except.ok.inj h
    simp only [openCapture, hindex]
    exact congrArg Except.ok (hopen r.names)
  · simp only [openCapture] at h ⊢
    rcases hn : r.names.lookup n with - | k
    · have hfree : (r.after x).names.lookup n = none := by
        rw [after, List.lookup_append, lookup_map_values, hn, hname n rfl]
        rfl
      simp only [hn, Option.isSome_none, Bool.false_eq_true, if_false] at h
      obtain rfl := Except.ok.inj h
      simp only [hfree, hindex, Option.isSome_none, Bool.false_eq_true, if_false]
      exact congrArg Except.ok (hopen ((n, r.groups + 1) :: r.names))
    · simp [hn] at h

/-- Alternatives after others are joined as on their own. -/
theorem current_after (b : Bool) (f : Frame) :
    (x.frame b f).current = f.current.map (Node.rename x.number) := by
  rw [Frame.current, Frame.current, Prior.frame, ← List.map_reverse, List.flatMap_map,
    List.map_flatMap]
  refine List.flatMap_congr fun p _ => ?_
  rcases p with n | ns <;> rfl

theorem content_after (f : Frame) :
    (x.frame false f).content = f.content.map (Node.rename x.number) := by
  rw [Frame.content, Frame.content, map_rename_joinAlternatives x.number_injective, current_after]
  simp [Prior.frame]

theorem readBar_after (h : readBar r = .ok q) : readBar (r.after x) = .ok (q.after x) := by
  rw [readBar_eq] at h ⊢
  split at h
  · cases h
  case isFalse hcond =>
    have hafter : ¬((r.after x).top.opening.isConditional &&
        !(r.after x).top.complete.isEmpty) = true := by
      rcases hb : r.below.isEmpty with - | -
      · rcases ho : r.top.opening <;> rcases hc : r.top.complete <;>
          simp_all [after, Prior.frame, Prior.opening, Opening.isConditional]
      -- the expression itself is no condition
      · simp [after, Prior.frame, hb, Opening.isConditional]
    rw [if_neg hafter]
    obtain rfl := Except.ok.inj h
    simp only [Except.ok.injEq, after, current_after]
    rfl

theorem readClose_after (h : readClose r = .ok q) : readClose (r.after x) = .ok (q.after x) := by
  rcases hb : r.below with - | ⟨outer, below⟩
  · simp [readClose, hb] at h
  have hbelow : (r.after x).below = x.frame below.isEmpty outer :: x.stack below := by
    rw [after, hb, Prior.stack]
  have htop : (r.after x).top = x.frame false r.top := by rw [after, hb]; rfl
  have hopening : (x.frame false r.top).opening = x.opening r.top.opening := rfl
  have hcomplete : (x.frame false r.top).complete
      = r.top.complete.map (List.map (Node.rename x.number)) := by
    simp [Prior.frame]
  simp only [readClose, hb] at h
  simp only [readClose, hbelow, htop, content_after, current_after, ← Node.rename_ofList,
    Node.width_rename, hopening, hcomplete]
  rcases ho : r.top.opening with - | - | - | - | i | negated | ⟨negated, outer'⟩ | i <;>
    simp only [ho] at h
  · cases h
  · obtain rfl := Except.ok.inj h
    rfl
  · obtain rfl := Except.ok.inj h
    rfl
  · obtain rfl := Except.ok.inj h
    rfl
  · obtain rfl := Except.ok.inj h
    rfl
  · obtain rfl := Except.ok.inj h
    rfl
  · obtain rfl := Except.ok.inj h
    rfl
  · rcases hc : r.top.complete with - | ⟨yes, complete⟩ <;> simp only [hc] at h <;>
      obtain rfl := Except.ok.inj h
    · simp only [Prior.opening, List.map_nil]
      rfl
    · simp only [Prior.opening, List.map_cons, ← Node.rename_ofList]
      rfl

theorem times_after {lo : Nat} {hi : Option Nat} {greed : Greed} (h : r.times lo hi greed = .ok q) :
    (r.after x).times lo hi greed = .ok (q.after x) := by
  rw [times] at h ⊢
  have hpieces : (r.after x).top.pieces = r.top.pieces.map x.piece := rfl
  rw [hpieces]
  rcases hp : r.top.pieces with - | ⟨p, before⟩ <;> simp only [hp] at h
  · cases h
  rcases p with n | ns
  · simp only [List.map_cons, Prior.piece, Node.isAnchor_rename, Node.isTimes_rename] at h ⊢
    split at h
    · cases h
    case isFalse hn =>
      rw [if_neg hn]
      obtain rfl := Except.ok.inj h
      rfl
  · obtain rfl := Except.ok.inj h
    simp only [List.map_cons, Prior.piece, ← Node.rename_ofList]
    rfl

/-- **A construct after others** does what it does on its own. -/
theorem apply_after {c : Construct} (hb : ∀ on, c = .flags on → r.begun = true) (hc : x.Admits c)
    (h : r.apply c = .ok q) : (r.after x).apply c = .ok (q.after x) := by
  cases c with
  | nothing =>
    obtain rfl := Except.ok.inj h
    rfl
  | char t =>
    obtain rfl := Except.ok.inj h
    rfl
  | anchor a =>
    obtain rfl := Except.ok.inj h
    rfl
  | reference y =>
    rw [apply] at h ⊢
    rcases hi : r.indexOf y with e | i
    · simp [hi, Except.bind] at h
    · rw [hi] at h
      rw [indexOf_after hi (by rintro j rfl; exact hc.1 rfl)]
      exact refer_after h
  | plain =>
    obtain rfl := Except.ok.inj h
    rfl
  | atomic =>
    obtain rfl := Except.ok.inj h
    rfl
  | ahead negated =>
    obtain rfl := Except.ok.inj h
    rfl
  | behind negated =>
    obtain rfl := Except.ok.inj h
    have hbound : (r.after x).bound.getD (r.after x).groups = x.groups + r.bound.getD r.groups := by
      rcases hr : r.bound with - | b <;> simp [after, hr]
    rw [apply, hbound]
    rfl
  | flagged on off =>
    obtain rfl := Except.ok.inj h
    rfl
  | capture name => exact openCapture_after h hc.2
  | conditional y =>
    rw [apply] at h ⊢
    rcases hi : r.indexOf y with e | i
    · simp [hi, Except.bind] at h
    rw [indexOf_after hi (by rintro j rfl; exact hc.1 rfl)]
    have hbound : (r.after x).bound.isSome = r.bound.isSome := Option.isSome_map
    have hask : (r.after x).ask y = (r.ask y).after x := by
      rcases y with n | j
      · rfl
      · simp only [ask, after, List.map_cons, List.cons_append, x.number_eq_self (hc.1 rfl) j]
    simp only [hi, Except.bind, hbound, closedWidth?_after, hask] at h ⊢
    split at h
    · cases h
    case isFalse hclosed =>
      rw [if_neg hclosed]
      obtain rfl := Except.ok.inj h
      rfl
  | flags on => simp [apply, hb on rfl] at h
  | bar => exact readBar_after h
  | close => exact readClose_after h
  | times lo hi greed => exact times_after h

end Reading

/-! ### A whole text -/

section Runs

variable {x : Prior} {r q : Reading} {ts us : List Token}

/-- **A text after others** is read as it is on its own, whatever comes after a bar or a closing
parenthesis after it, if it leaves no group open. -/
theorem reads_after {fuel : Nat} (hus : Ends us) (hend : us.head? ≠ some .dangling)
    (hb : r.begun = true)
    (hv : r.base.flags.verbose = false) (hx : ∀ c ∈ constructsFrom fuel r ts, x.Admits c)
    (h : readAll fuel r ts = .ok q) (hq : q.below = []) :
    Reads (r.after x) (ts ++ us) (q.after x) us := by
  replace h := runsTo_of_readAll h
  induction h with
  | done => exact .refl _ _
  | @step fuel r r' t ts rest c hlex happly hread ih =>
    rw [constructsFrom_cons hlex happly] at hx
    obtain ⟨hb', hbase⟩ := (happly ▸ Proceeds.apply hb c).of_ok
    have hrest := ih hb' (hbase ▸ hv) fun d hd => hx d (by simp [hd])
    rcases lex_append hlex hus with hlex' | hopen | hcount
    · exact .cons hlex' (Reading.apply_after (fun _ _ => hb) (hx c (by simp)) happly) hrest
    · -- a comment that goes on to the end would leave the group open whose flags allow comments
      have hverbose := hopen.verbose
      obtain ⟨rfl, rfl⟩ := hopen.eq_nil_of_lex hlex
      obtain rfl := Except.ok.inj happly
      have hend : r = q := by
        cases hread
        rfl
      have hflags : r.base.flags = r.top.flags := by
        rw [Reading.base, hend, hq]
        rfl
      simp [hflags, hverbose] at hv
    · exact absurd hcount.dangling hend

end Runs

end SigmaRules.Regex
