/-
SigmaRules/Proofs/Regex/Outline.lean

What letter case has no part in.  The outline of a tree says what it can be
asked for while an expression is read: its widths, whether its look-behinds
are of one length, and whether it has repetitions.  Alternatives are joined by
what they have in common, which depends on letter case, but the outline of
what joining makes is that of a plain choice (`outline_joinAlternatives`).

So whether an expression can be read does not depend on whether letter case is
ignored, nor does the outline of its tree (`parse_agree`).
-/
import SigmaRules.Proofs.Answers
import SigmaRules.Proofs.Regex.Base
import SigmaRules.Proofs.Regex.Joining

namespace SigmaRules.Regex

/-! ### Outlines of trees -/

/-- What a tree can be asked for while an expression is read. -/
structure Outline where
  width : Width
  fixed : Bool
  times : Bool

namespace Node

/-- The outline of a tree. -/
def outline (n : Node) : Outline := ⟨n.width, n.lookBehindsFixed, n.hasTimes⟩

attribute [local simp] width lookBehindsFixed hasTimes

theorem outline_eq_iff {m n : Node} : m.outline = n.outline ↔
    m.width = n.width ∧ m.lookBehindsFixed = n.lookBehindsFixed ∧ m.hasTimes = n.hasTimes := by
  simp [outline]

theorem outline_seq {a b c d : Node} (hac : a.outline = c.outline) (hbd : b.outline = d.outline) :
    (seq a b).outline = (seq c d).outline := by
  rw [outline_eq_iff] at *
  simp [hac, hbd]

theorem outline_alt {a b c d : Node} (hac : a.outline = c.outline) (hbd : b.outline = d.outline) :
    (alt a b).outline = (alt c d).outline := by
  rw [outline_eq_iff] at *
  simp [hac, hbd]

theorem outline_conditional {a b c d : Node} (hac : a.outline = c.outline)
    (hbd : b.outline = d.outline) (i : Nat) :
    (conditional i a b).outline = (conditional i c d).outline := by
  rw [outline_eq_iff] at *
  simp [hac, hbd]

section Body

variable {a b : Node} (h : a.outline = b.outline)

include h

theorem outline_group (i : Option Nat) : (group i a).outline = (group i b).outline := by
  rw [outline_eq_iff] at *
  simpa using h

theorem outline_atomic : (atomic a).outline = (atomic b).outline := by
  rw [outline_eq_iff] at *
  simpa using h

theorem outline_ahead (negated : Bool) : (ahead negated a).outline = (ahead negated b).outline := by
  rw [outline_eq_iff] at *
  simpa using h.2

theorem outline_behind (negated : Bool) (w : Nat) :
    (behind negated w a).outline = (behind negated w b).outline := by
  rw [outline_eq_iff] at *
  simp [h]

theorem outline_times (lo : Nat) (hi : Option Nat) (greed : Greed) :
    (times lo hi greed a).outline = (times lo hi greed b).outline := by
  rw [outline_eq_iff] at *
  simp [h]

end Body

/-- Sequences do not go beyond the bound of widths. -/
theorem width_ofList_le (ns : List Node) :
    (ofList ns).width.lo ≤ maxWidth ∧ (ofList ns).width.hi ≤ maxWidth := by
  rcases ns with - | ⟨n, ns⟩
  · exact ⟨Nat.zero_le _, Nat.zero_le _⟩
  · exact ⟨Nat.min_le_right _ _, Nat.min_le_right _ _⟩

/-- Widths add up to the bound, in whatever order they are added. -/
theorem outline_ofList_append (xs ys : List Node) :
    (ofList (xs ++ ys)).outline = (seq (ofList xs) (ofList ys)).outline := by
  induction xs with
  | nil =>
    obtain ⟨hlo, hhi⟩ := width_ofList_le ys
    rw [outline_eq_iff]
    simp [Width.cut, hlo, hhi]
  | cons x xs ih =>
    rw [List.cons_append, ofList_cons, outline_seq rfl ih, outline_eq_iff]
    refine ⟨?_, ?_, ?_⟩
    · simp only [width, ofList_cons, Width.cut, Width.mk.injEq]
      omega
    · simp only [lookBehindsFixed, ofList_cons, Bool.and_assoc]
    · simp only [hasTimes, ofList_cons, Bool.or_assoc]

theorem outline_oneOf {as bs : List Node} (h : as.map outline = bs.map outline) :
    (oneOf as).outline = (oneOf bs).outline := by
  induction as generalizing bs with
  | nil =>
    obtain rfl := List.map_eq_nil_iff.mp h.symm
    rfl
  | cons a as ih =>
    rcases bs with - | ⟨b, bs⟩
    · simp at h
    obtain ⟨hab, hrest⟩ := List.cons_eq_cons.mp h
    rcases as with - | ⟨a', as⟩
    · obtain rfl := List.map_eq_nil_iff.mp hrest.symm
      exact hab
    rcases bs with - | ⟨b', bs⟩
    · simp at hrest
    · exact outline_alt hab (ih hrest)

/-- What comes before a choice may as well come before each of the alternatives. -/
theorem outline_oneOf_seq (n : Node) {ts : List Node} (hne : ts ≠ []) :
    (oneOf (ts.map (seq n))).outline = (seq n (oneOf ts)).outline := by
  induction ts with
  | nil => exact absurd rfl hne
  | cons t ts ih =>
    rcases ts with - | ⟨u, ts⟩
    · rfl
    have hrest : (oneOf (seq n u :: ts.map (seq n))).outline = (seq n (oneOf (u :: ts))).outline :=
      ih (by simp)
    show (alt (seq n t) (oneOf (seq n u :: ts.map (seq n)))).outline = _
    rw [outline_alt rfl hrest, oneOf, outline_eq_iff]
    refine ⟨?_, ?_, ?_⟩
    · simp only [width, Width.cut, Width.mk.injEq]
      omega
    · rcases h : n.lookBehindsFixed <;> simp [h]
    · rcases h : n.hasTimes <;> simp [h]

/-- A common beginning of alternatives may be taken out. -/
theorem outline_shared (shared : List Node) {ts : List (List Node)} (hne : ts ≠ []) :
    (ofList (shared ++ [oneOf (ts.map ofList)])).outline
      = (oneOf (ts.map fun t => ofList (shared ++ t))).outline := by
  induction shared with
  | nil =>
    -- a sequence of one is cut at the bound, and a choice of sequences is within it
    have hle : (oneOf (ts.map ofList)).width.lo ≤ maxWidth ∧
        (oneOf (ts.map ofList)).width.hi ≤ maxWidth := by
      induction ts with
      | nil => exact absurd rfl hne
      | cons t ts ih =>
        have ht := width_ofList_le t
        rcases ts with - | ⟨u, ts⟩
        · exact ht
        have hts := ih (by simp)
        simp only [List.map_cons, oneOf, width] at hts ⊢
        omega
    rw [outline_eq_iff]
    simp [width, Width.cut, lookBehindsFixed, hasTimes, hle.1, hle.2]
  | cons n shared ih =>
    rw [List.cons_append, ofList_cons, outline_seq rfl ih,
      ← outline_oneOf_seq n (List.map_eq_nil_iff.not.mpr hne), List.map_map]
    rfl

theorem outline_of_oneCharItems? {ns : List Node} {items : List SetItem} (t : CharTest)
    (h : oneCharItems? ns = some items) : (ofList ns).outline = (ofList [char t]).outline := by
  obtain ⟨u, rfl⟩ := exists_char_of_oneCharItems? h
  rfl

theorem outline_oneOf_const {n : Node} {ts : List Node} (hne : ts ≠ [])
    (h : ∀ t ∈ ts, t.outline = n.outline) : (oneOf ts).outline = n.outline := by
  induction ts with
  | nil => exact absurd rfl hne
  | cons t ts ih =>
    rcases ts with - | ⟨u, ts⟩
    · exact h t (by simp)
    · rw [oneOf, outline_alt (h t (by simp)) (ih (by simp) fun v hv => h v (by simp [hv]))]
      rw [outline_eq_iff]
      simp [width, lookBehindsFixed, hasTimes]

/-- **Joined alternatives** have the outline of the choice between them. -/
theorem outline_joinAlternatives (rule : CaseRule) (alts : List (List Node)) :
    (ofList (joinAlternatives rule alts)).outline = (oneOf (alts.map ofList)).outline := by
  rcases alts with - | ⟨first, - | ⟨second, others⟩⟩
  · rfl
  · rfl
  obtain ⟨shared, tails, halts, -, hjoin⟩ :=
    joinAlternatives_cases rule (first :: second :: others) (by simp)
  have hne : tails ≠ [] := by
    rintro rfl
    simp at halts
  have hshared : (ofList (shared ++ [oneOf (tails.map ofList)])).outline
      = (oneOf ((first :: second :: others).map ofList)).outline := by
    rw [outline_shared shared hne, ← halts, List.map_map]
    rfl
  rcases hjoin with ⟨items, hitems, hjoin⟩ | hjoin
  -- a set of characters has the outline of each of them
  · have htails : (oneOf (tails.map ofList)).outline
        = (ofList [char (.set rule false items.flatten.eraseDups)]).outline := by
      refine outline_oneOf_const (List.map_eq_nil_iff.not.mpr hne) fun n hn => ?_
      obtain ⟨t, ht, rfl⟩ := List.mem_map.mp hn
      obtain ⟨is, -, his⟩ :=
        List.mem_map.mp (hitems ▸ List.mem_map_of_mem (f := oneCharItems?) ht)
      exact outline_of_oneCharItems? _ his.symm
    have hset : (ofList [char (.set rule false items.flatten.eraseDups)]).outline
        = (ofList [oneOf (tails.map ofList)]).outline := by
      rw [← htails]
      exact (outline_shared [] hne).symm
    rw [hjoin, outline_ofList_append, outline_seq rfl hset, ← outline_ofList_append]
    exact hshared
  · rw [hjoin]
    exact hshared

end Node

/-! ### Outlines of readings -/

/-- Constructs do not depend on whether letter case is ignored. -/
theorem lex_congr {f g : Flags}
    (h : { f with ignoreCase := false } = { g with ignoreCase := false }) (t : Token)
    (ts : List Token) : lex f t ts = lex g t ts := by
  have hf : lex f t ts = lex { f with ignoreCase := false } t ts := rfl
  have hg : lex g t ts = lex { g with ignoreCase := false } t ts := rfl
  rw [hf, hg, h]

/-- The outline of a piece, and for a node whether it cannot be repeated. -/
def Piece.outline : Piece → Option Bool × Outline
  | .node n => (some (n.isAnchor || n.isTimes), n.outline)
  | .spliced ns => (none, (Node.ofList ns).outline)

/-- The frames differ in letter case at most. -/
structure Frame.Alike (f g : Frame) : Prop where
  opening : f.opening = g.opening
  flags : { f.flags with ignoreCase := false } = { g.flags with ignoreCase := false }
  complete :
    f.complete.map (Node.outline ∘ Node.ofList) = g.complete.map (Node.outline ∘ Node.ofList)
  pieces : f.pieces.map Piece.outline = g.pieces.map Piece.outline

/-- The readings differ in letter case at most. -/
structure Reading.Alike (r q : Reading) : Prop where
  top : r.top.Alike q.top
  below : List.Forall₂ Frame.Alike r.below q.below
  groups : r.groups = q.groups
  widths : r.widths = q.widths
  names : r.names = q.names
  bound : r.bound = q.bound
  asked : r.asked = q.asked
  wholeFlags : r.wholeFlags = q.wholeFlags

namespace Frame.Alike

variable {f g : Frame}

theorem outline_current (h : f.Alike g) :
    (Node.ofList f.current).outline = (Node.ofList g.current).outline := by
  have hpieces : f.pieces.reverse.map Piece.outline = g.pieces.reverse.map Piece.outline := by
    rw [List.map_reverse, List.map_reverse, h.pieces]
  rw [Frame.current, Frame.current]
  generalize f.pieces.reverse = ps at hpieces
  generalize g.pieces.reverse = qs at hpieces
  induction ps generalizing qs with
  | nil =>
    obtain rfl := List.map_eq_nil_iff.mp hpieces.symm
    rfl
  | cons p ps ih =>
    rcases qs with - | ⟨q, qs⟩
    · simp at hpieces
    obtain ⟨hpq, hrest⟩ := List.cons_eq_cons.mp hpieces
    have hnodes : (Node.ofList p.nodes).outline = (Node.ofList q.nodes).outline := by
      rcases p with m | ms <;> rcases q with n | ns
      · exact Node.outline_seq (congrArg Prod.snd hpq) rfl
      · cases congrArg Prod.fst hpq
      · cases congrArg Prod.fst hpq
      · exact congrArg Prod.snd hpq
    rw [List.flatMap_cons, List.flatMap_cons, Node.outline_ofList_append,
      Node.outline_ofList_append]
    exact Node.outline_seq hnodes (ih qs hrest)

theorem outline_content (h : f.Alike g) :
    (Node.ofList f.content).outline = (Node.ofList g.content).outline := by
  rw [Frame.content, Frame.content, Node.outline_joinAlternatives, Node.outline_joinAlternatives]
  refine Node.outline_oneOf ?_
  simp only [List.map_append, List.map_reverse, List.map_map, List.map_cons, List.map_nil,
    h.complete, h.outline_current]

theorem change (h : f.Alike g) (on off : List Char) :
    { f.flags.change on off with ignoreCase := false }
      = { g.flags.change on off with ignoreCase := false } := by
  have hflags := h.flags
  simp only [Flags.mk.injEq, true_and] at hflags
  simp only [Flags.change, hflags]

/-- A group that opens is as the group around it. -/
theorem enter {opening : Opening} {fl gl : Flags}
    (h : { fl with ignoreCase := false } = { gl with ignoreCase := false }) :
    Frame.Alike { opening, flags := fl } { opening, flags := gl } :=
  ⟨rfl, h, rfl, rfl⟩

theorem push (h : f.Alike g) {p q : Piece} (hpq : p.outline = q.outline) :
    Frame.Alike { f with pieces := p :: f.pieces } { g with pieces := q :: g.pieces } :=
  ⟨h.opening, h.flags, h.complete, by rw [List.map_cons, List.map_cons, hpq, h.pieces]⟩

end Frame.Alike

namespace Reading.Alike

variable {r q : Reading}

theorem push (h : r.Alike q) {m n : Piece} (hmn : m.outline = n.outline) :
    (r.push m).Alike (q.push n) :=
  { h with top := h.top.push hmn }

theorem enter (h : r.Alike q) (opening : Opening) {fl gl : Flags}
    (hf : { fl with ignoreCase := false } = { gl with ignoreCase := false }) :
    (r.enter opening fl).Alike (q.enter opening gl) :=
  { h with top := .enter hf, below := .cons h.top h.below }

theorem closedWidth? (h : r.Alike q) (i : Nat) : r.closedWidth? i = q.closedWidth? i := by
  rw [Reading.closedWidth?, Reading.closedWidth?, h.bound, h.widths]

theorem refer (h : r.Alike q) (i : Nat) : Agree Alike (r.refer i) (q.refer i) := by
  rw [Reading.refer, Reading.refer, h.closedWidth? i]
  split
  · exact .ok (h.push rfl)
  · exact .error _

theorem indexOf (h : r.Alike q) (x : Referent) : r.indexOf x = q.indexOf x := by
  rcases x with n | i
  · rw [Reading.indexOf, Reading.indexOf, h.names]
  · rfl

theorem begun (h : r.Alike q) : r.begun = q.begun := by
  have hcomplete := congrArg List.isEmpty h.top.complete
  have hpieces := congrArg List.isEmpty h.top.pieces
  simp only [List.isEmpty_map] at hcomplete hpieces
  have hbelow : r.below.isEmpty = q.below.isEmpty := by
    rw [Bool.eq_iff_iff, List.isEmpty_iff_length_eq_zero, List.isEmpty_iff_length_eq_zero,
      h.below.length_eq]
  rw [Reading.begun, Reading.begun, hcomplete, hpieces, hbelow]

theorem readBar (h : r.Alike q) : Agree Alike (readBar r) (readBar q) := by
  have hempty := congrArg List.isEmpty h.top.complete
  simp only [List.isEmpty_map] at hempty
  rw [readBar_eq, readBar_eq, h.top.opening, hempty]
  split
  · exact .error _
  · refine .ok { h with top := ⟨h.top.opening, h.top.flags, ?_, rfl⟩ }
    simp only [List.map_cons, Function.comp_apply, h.top.outline_current, h.top.complete]

/-- The group around goes on with a piece that is alike. -/
theorem readClose (h : r.Alike q) : Agree Alike (readClose r) (readClose q) := by
  have hbelow := h.below
  rcases hr : r.below with - | ⟨f, fs⟩ <;> rcases hq : q.below with - | ⟨g, gs⟩ <;>
    rw [hr, hq] at hbelow
  · rw [Regex.readClose, Regex.readClose, hr, hq]
    exact .error _
  · cases hbelow
  · cases hbelow
  obtain ⟨houter, hrest⟩ := List.forall₂_cons.mp hbelow
  have hcontent := h.top.outline_content
  have hwidth := (Node.outline_eq_iff.mp hcontent).1
  have hafter : Alike { r with top := f, below := fs } { q with top := g, below := gs } :=
    { h with top := houter, below := hrest }
  have hpush : ∀ {r' q' : Reading} {m n : Node}, r'.Alike q' → m.outline = n.outline →
      (m.isAnchor || m.isTimes) = (n.isAnchor || n.isTimes) →
      Agree Alike (.ok (r'.pushNode m) : Except Error Reading) (.ok (q'.pushNode n)) :=
    fun h' hmn hkind => .ok (h'.push (by rw [Piece.outline, Piece.outline, hmn, hkind]))
  simp only [Regex.readClose, hr, hq, h.top.opening, hwidth]
  rcases q.top.opening with - | - | - | - | index | negated | ⟨negated, bound⟩ | index
  · exact .error _
  · exact .ok (hafter.push (congrArg (Prod.mk none) hcontent))
  · exact hpush hafter (Node.outline_group hcontent none) rfl
  · exact hpush hafter (Node.outline_atomic hcontent) rfl
  · refine hpush { hafter with widths := ?_ } (Node.outline_group hcontent (some index)) rfl
    simp only [h.widths]
  · exact hpush hafter (Node.outline_ahead hcontent negated) rfl
  · exact hpush { hafter with bound := rfl } (Node.outline_behind hcontent negated _) rfl
  · -- the alternatives of a condition are not joined
    have hcurrent := h.top.outline_current
    have hcomplete := h.top.complete
    rcases hr' : r.top.complete with - | ⟨a, as⟩ <;>
      rcases hq' : q.top.complete with - | ⟨b, bs⟩ <;> rw [hr', hq'] at hcomplete
    · exact hpush hafter (Node.outline_conditional hcurrent rfl index) rfl
    · simp at hcomplete
    · simp at hcomplete
    · have hyes := (List.cons_eq_cons.mp hcomplete).1
      exact hpush hafter (Node.outline_conditional hyes hcurrent index) rfl

theorem times (h : r.Alike q) (lo : Nat) (hi : Option Nat) (greed : Greed) :
    Agree Alike (r.times lo hi greed) (q.times lo hi greed) := by
  have hpieces := h.top.pieces
  unfold Reading.times
  rcases hr : r.top.pieces with - | ⟨m, before⟩ <;>
    rcases hq : q.top.pieces with - | ⟨n, before'⟩ <;> rw [hr, hq] at hpieces
  · exact .error _
  · simp at hpieces
  · simp at hpieces
  obtain ⟨hmn, hrest⟩ := List.cons_eq_cons.mp hpieces
  have htimes : ∀ {a b : Node}, a.outline = b.outline →
      Alike { r with top := { r.top with pieces := .node (.times lo hi greed a) :: before } }
        { q with top := { q.top with pieces := .node (.times lo hi greed b) :: before' } } := by
    intro a b hab
    refine { h with top := ⟨h.top.opening, h.top.flags, h.top.complete, ?_⟩ }
    simp only [List.map_cons, hrest, Piece.outline, Node.outline_times hab lo hi greed]
    rfl
  have hkind := congrArg Prod.fst hmn
  have houtline := congrArg Prod.snd hmn
  rcases m with m | ms <;> rcases n with n | ns
  · simp only [Option.some.inj hkind]
    split
    · exact .error _
    · exact .ok (htimes houtline)
  · cases hkind
  · cases hkind
  · exact .ok (htimes houtline)

theorem openCapture (h : r.Alike q) (name : Option (List Char)) :
    Agree Alike (openCapture r name) (openCapture q name) := by
  have hopen : ∀ names : List (List Char × Nat),
      Alike ({ r with groups := q.groups + 1, names }.enter (.capture (q.groups + 1)) r.top.flags)
        ({ q with groups := q.groups + 1, names }.enter (.capture (q.groups + 1)) q.top.flags) := by
    intro names
    have hgroups : Alike { r with groups := q.groups + 1, names }
      { q with groups := q.groups + 1, names } := { h with groups := rfl, names := rfl }
    exact hgroups.enter _ h.top.flags
  rcases name with - | n
  · simp only [Regex.openCapture, h.names, h.groups]
    exact .ok (hopen _)
  · simp only [Regex.openCapture, h.names, h.groups]
    split
    · exact .error _
    · exact .ok (hopen _)

/-- **To apply a construct** to readings that are alike makes readings that are. -/
theorem apply (h : r.Alike q) (c : Construct) : Agree Alike (r.apply c) (q.apply c) := by
  cases c with
  | nothing => exact .ok h
  | char t => exact .ok (h.push rfl)
  | anchor a => exact .ok (h.push rfl)
  | reference x =>
    rw [Reading.apply, Reading.apply, h.indexOf x]
    rcases q.indexOf x with e | i
    · exact .error e
    · exact h.refer i
  | plain => exact .ok (h.enter _ h.top.flags)
  | atomic => exact .ok (h.enter _ h.top.flags)
  | ahead negated => exact .ok (h.enter _ h.top.flags)
  | behind negated =>
    have hbound : Alike { r with bound := some (q.bound.getD q.groups) }
      { q with bound := some (q.bound.getD q.groups) } := { h with bound := rfl }
    rw [Reading.apply, Reading.apply, h.bound, h.groups]
    exact .ok (h.groups ▸ hbound.enter _ h.top.flags)
  | flagged on off => exact .ok (h.enter _ (h.top.change on off))
  | capture name => exact h.openCapture name
  | conditional x =>
    have hask : (r.ask x).Alike (q.ask x) := by
      rcases x with n | i
      · exact h
      · exact { h with asked := congrArg (i :: ·) h.asked }
    simp only [Reading.apply, h.indexOf x]
    rcases q.indexOf x with e | i
    · exact .error e
    · simp only [Except.bind, h.bound, h.closedWidth? i]
      split
      · exact .error _
      · exact .ok (hask.enter _ h.top.flags)
  | flags on =>
    rw [Reading.apply, Reading.apply, h.begun]
    split
    · exact .error _
    · refine .ok { h with
        top := ⟨h.top.opening, h.top.change on [], h.top.complete, h.top.pieces⟩
        wholeFlags := ?_ }
      rw [h.wholeFlags]
  | bar => exact h.readBar
  | close => exact h.readClose
  | times lo hi greed => exact h.times lo hi greed

theorem readAll (h : r.Alike q) (fuel : Nat) (ts : List Token) :
    Agree Alike (readAll fuel r ts) (readAll fuel q ts) := by
  induction fuel generalizing r q ts with
  | zero =>
    rcases ts with - | ⟨t, ts⟩
    · exact .ok h
    · exact .error _
  | succ fuel ih =>
    rcases ts with - | ⟨t, ts⟩
    · exact .ok h
    rw [readAll_cons, readAll_cons, lex_congr h.top.flags]
    rcases lex q.top.flags t ts with e | ⟨c, rest⟩
    · exact .error e
    · exact (h.apply c).bind fun r' q' h' => ih h' rest

theorem finish (h : r.Alike q) :
    Agree (fun m n => m.outline = n.outline) r.finish q.finish := by
  have hcontent := h.top.outline_content
  obtain ⟨-, hfixed, htimes⟩ := Node.outline_eq_iff.mp hcontent
  have hbelow : r.below.isEmpty = q.below.isEmpty := by
    rw [Bool.eq_iff_iff, List.isEmpty_iff_length_eq_zero, List.isEmpty_iff_length_eq_zero,
      h.below.length_eq]
  simp only [Reading.finish, hbelow, h.wholeFlags, h.asked, h.groups, hfixed, htimes]
  split
  · exact .error _
  split
  · exact .error _
  split
  · exact .error _
  split
  · exact .error _
  split
  · exact .error _
  · exact .ok hcontent

end Reading.Alike

/-! ### Expressions -/

/-- **Whether an expression is read** does not depend on whether letter case is ignored, and the
outline of its tree does not, either. -/
theorem parse_agree {f g : Flags}
    (h : { f with ignoreCase := false } = { g with ignoreCase := false }) (s : List Char) :
    Agree (fun m n => m.outline = n.outline) (parse f s) (parse g s) := by
  have hstart : Reading.Alike { top := { opening := .whole, flags := f } }
      { top := { opening := .whole, flags := g } } :=
    ⟨.enter h, .nil, rfl, rfl, rfl, rfl, rfl, rfl⟩
  exact (hstart.readAll _ _).bind fun r q h' => h'.finish

/-- Whether an expression can be read does not depend on whether letter case is ignored. -/
theorem exists_parse_iff (s : List Char) :
    (∃ n, parse {} s = .ok n) ↔ ∃ n, parse { ignoreCase := true } s = .ok n := by
  have hagree := parse_agree (f := {}) (g := { ignoreCase := true }) rfl s
  have hagree' := parse_agree (f := { ignoreCase := true }) (g := {}) rfl s
  constructor
  · rintro ⟨n, hn⟩
    obtain ⟨m, hm, -⟩ := (hn ▸ hagree').exists_ok
    exact ⟨m, hm⟩
  · rintro ⟨n, hn⟩
    obtain ⟨m, hm, -⟩ := (hn ▸ hagree).exists_ok
    exact ⟨m, hm⟩

end SigmaRules.Regex
