/-
SigmaRules/Proofs/Regex/Alternation.lean

Expressions with bars between them.  Expressions that can be read on their own
can be read together, and what is read are their alternatives, in order, with
other numbers for the groups (`parse_alternatives_of_apart`).  For this no
expression may refer by number to groups of which there are any before it, and
no name may be used twice (`Apart`).
-/
import SigmaRules.Proofs.Regex.After
import SigmaRules.Proofs.Regex.Outline
import SigmaRules.Proofs.Search.Expression

namespace SigmaRules.Regex

open Search

/-! ### Expressions on their own -/

/-- The alternatives of a frame, the last one as far as it has been read. -/
def Frame.alternatives (f : Frame) : List (List Node) := f.complete.reverse ++ [f.current]

/-- The expression starts with a group or an anchor, does not end within an escape, and is
complete when it has been read. -/
structure IsReadAs (f : Flags) (e : List Char) (q : Reading) : Prop where
  headed : Headed e
  ended : ∀ ts, tokenize e ≠ ts ++ [.dangling]
  read : readAll (tokenize e).length (.start f) (tokenize e) = .ok q
  closed : q.below = []
  exist : ∀ i ∈ q.asked, i ≤ q.groups

theorem finish_eq_ok {q : Reading} {n : Node} (h : q.finish = .ok n) :
    q.below = [] ∧ (∀ i ∈ q.asked, i ≤ q.groups) ∧ n = .ofList q.top.content ∧
      n.lookBehindsFixed = true := by
  simp only [Reading.finish] at h
  split at h
  · cases h
  case isFalse hbelow =>
  split at h
  · cases h
  split at h
  · cases h
  case isFalse hasked =>
  split at h
  · cases h
  case isFalse hfixed =>
  split at h
  · cases h
  · obtain rfl := Except.ok.inj h
    exact ⟨by simpa using hbelow, by simpa using hasked, rfl, by simpa using hfixed⟩

/-- Without flags of the whole expression there is nothing more to ask of what has been read. -/
theorem finish_of_closed {q : Reading} (hclosed : q.below = []) (hw : q.wholeFlags = [])
    (hexist : ∀ i ∈ q.asked, i ≤ q.groups)
    (hfixed : (Node.ofList q.top.content).lookBehindsFixed = true) :
    q.finish = .ok (.ofList q.top.content) := by
  have hany : q.asked.any (· > q.groups) = false := by simpa using hexist
  simp [Reading.finish, hclosed, hw, hany, hfixed]

theorem exists_isReadAs {f : Flags} {e : List Char} {n : Node} (h : parse f e = .ok n)
    (hhead : Headed e) (hend : ∀ ts, tokenize e ≠ ts ++ [.dangling]) :
    ∃ q, IsReadAs f e q ∧ n = .ofList q.top.content ∧ n.lookBehindsFixed = true := by
  obtain ⟨q, hread, hq⟩ := exists_of_bind_eq_ok h
  obtain ⟨hclosed, hexist, hn, hfixed⟩ := finish_eq_ok hq
  exact ⟨q, ⟨hhead, hend, hread, hclosed, hexist⟩, hn, hfixed⟩

namespace IsReadAs

variable {f : Flags} {e : List Char} {q : Reading}

/-- The run of the expression: its first construct, and the others. -/
theorem exists_first (h : IsReadAs f e q) : ∃ t ts c rest r fuel,
    tokenize e = t :: ts ∧ lex f t ts = .ok (c, rest) ∧ (∀ on, c ≠ .flags on) ∧
      (Reading.start f).apply c = .ok r ∧ r.begun = true ∧ r.base = (Reading.start f).base ∧
      constructs f e = c :: constructsFrom fuel r rest ∧ readAll fuel r rest = .ok q := by
  obtain ⟨t, ts, c, rest, htokens, hlex, hc⟩ := h.headed.lex_first f
  have hread := h.read
  rw [htokens, List.length_cons, readAll_cons] at hread
  obtain ⟨⟨c', rest'⟩, hlex', hread⟩ := exists_of_bind_eq_ok hread
  obtain ⟨rfl, rfl⟩ := Prod.mk.inj (Except.ok.inj (hlex.symm.trans hlex'))
  obtain ⟨r, happly, hread⟩ := exists_of_bind_eq_ok hread
  obtain ⟨hb, hbase⟩ := (happly ▸ Proceeds.first hc).of_ok
  refine ⟨t, ts, c, rest, r, ts.length, htokens, hlex, ?_, happly, hb, hbase, ?_, hread⟩
  · rintro on rfl
    rcases hc with hc | ⟨a, hc⟩ <;> cases hc
  · rw [constructs, htokens, List.length_cons, constructsFrom_cons hlex happly]

theorem base_eq (h : IsReadAs f e q) : q.base = (Reading.start f).base := by
  obtain ⟨t, ts, c, rest, r, fuel, -, -, -, -, hb, hbase, -, hread⟩ := h.exists_first
  exact (base_readAll hb hread).trans hbase

/-- Outside of its groups an expression has the flags that it is read under, and no bound. -/
theorem settled (h : IsReadAs f e q) : q.top.flags = f ∧ q.wholeFlags = [] ∧ q.bound = none := by
  have hbase := h.base_eq
  simp only [Reading.base, h.closed, outermost, Reading.start, Base.mk.injEq] at hbase
  exact hbase

theorem numbered (h : IsReadAs f e q) : q.Numbered :=
  (Reading.groups_readAll h.read (.start f)).1

/-- **An expression after others** is read as on its own. -/
theorem reads_after (h : IsReadAs f e q) (hv : f.verbose = false) {x : Prior} {us : List Token}
    (hx : ∀ c ∈ constructs f e, x.Admits c) (hus : Ends us) (hend : us.head? ≠ some .dangling) :
    Reads ((Reading.start f).after x) (tokenize e ++ us) (q.after x) us := by
  obtain ⟨t, ts, c, rest, r, fuel, htokens, hlex, hc, happly, hb, hbase, hconstructs, hread⟩ :=
    h.exists_first
  rw [hconstructs] at hx
  rw [htokens]
  have hbegun : ∀ on, c = .flags on → (Reading.start f).begun = true := fun on hon =>
    absurd hon (hc on)
  have hrest :=
    Regex.reads_after hus hend hb (hbase ▸ hv) (fun d hd => hx d (by simp [hd])) hread h.closed
  rcases lex_append hlex hus with hlex' | hopen | hcount
  · exact .cons hlex' (Reading.apply_after hbegun (hx c (by simp)) happly) hrest
  · exact absurd (hopen.verbose.symm.trans hv) (by simp)
  · exact absurd hcount.dangling hend

end IsReadAs

/-! ### Expressions one after the other -/

/-- The later constructs do not see the groups of the earlier ones. -/
def Apart (earlier later : List Construct) : Prop :=
  ((∀ c ∈ earlier, c.isCapture = false) ∨ ∀ d ∈ later, d.isNumbered = false) ∧
    ∀ c ∈ earlier, ∀ d ∈ later, c.name? = none ∨ c.name? ≠ d.name?

instance (earlier later : List Construct) : Decidable (Apart earlier later) :=
  inferInstanceAs (Decidable (_ ∧ _))

/-- The groups that are closed have numbers that have been given, after others as well. -/
theorem Reading.Numbered.given_after {q : Reading} (hq : q.Numbered) (x : Prior) :
    ∀ w ∈ (q.after x).widths, 0 < w.1 ∧ w.1 ≤ (q.after x).groups := by
  intro w hw
  rcases List.mem_append.mp hw with hw | hw
  · obtain ⟨v, hv, rfl⟩ := List.mem_map.mp hw
    have := hq.closed v hv
    simp only [Prod.map_fst, Prior.number, Reading.after]
    split <;> omega
  · exact (x.given w hw).imp_right (Nat.le_add_right_of_le ·)

theorem Reading.exist_after {q : Reading} (hexist : ∀ i ∈ q.asked, i ≤ q.groups) (x : Prior) :
    ∀ i ∈ (q.after x).asked, i ≤ (q.after x).groups := by
  intro i hi
  rcases List.mem_append.mp hi with hi | hi
  · obtain ⟨j, hj, rfl⟩ := List.mem_map.mp hi
    have := hexist j hj
    simp only [Prior.number, Reading.after]
    split <;> omega
  · exact Nat.le_add_right_of_le (x.exist i hi)

/-- What has been read before a bar after the expression. -/
def Prior.next (x : Prior) (q : Reading) (hq : q.Numbered) (hexist : ∀ i ∈ q.asked, i ≤ q.groups) :
    Prior where
  complete := (q.after x).top.current :: (q.after x).top.complete
  groups := (q.after x).groups
  widths := (q.after x).widths
  names := (q.after x).names
  asked := (q.after x).asked
  given := hq.given_after x
  exist := Reading.exist_after hexist x

/-- An expression without groups of its own adds none. -/
theorem Prior.groups_next (x : Prior) {f : Flags} {e : List Char} {q : Reading}
    (h : IsReadAs f e q) (hnone : ∀ c ∈ constructs f e, c.isCapture = false) :
    (x.next q h.numbered h.exist).groups = x.groups := by
  obtain ⟨-, hgroups, -⟩ := Reading.groups_readAll h.read (.start f)
  exact congrArg (x.groups + ·) (hgroups hnone)

/-- A name is free after an expression if it was free before and no group of it has this name. -/
theorem Prior.lookup_names_next {x : Prior} {f : Flags} {e : List Char} {q : Reading}
    (h : IsReadAs f e q) {n : List Char} (hx : x.names.lookup n = none)
    (hfree : ∀ c ∈ constructs f e, c.name? ≠ some n) :
    (x.next q h.numbered h.exist).names.lookup n = none := by
  obtain ⟨-, -, hnames⟩ := Reading.groups_readAll h.read (.start f)
  have hown : q.names.lookup n = none := by
    rw [List.lookup_eq_none_iff]
    intro m hm
    rcases hnames m hm with hm | ⟨c, hc, hcm⟩
    · cases hm
    · have hne := hfree c hc
      rw [hcm] at hne
      simpa using fun heq => hne (congrArg some heq.symm)
  show (q.names.map (Prod.map id x.number) ++ x.names).lookup n = none
  rw [List.lookup_append, lookup_map_values, hown, hx]
  rfl

theorem Prior.admits_next {x : Prior} {f : Flags} {e : List Char} {q : Reading} (h : IsReadAs f e q)
    {later : List Construct} (hx : ∀ d ∈ later, x.Admits d)
    (hapart : Apart (constructs f e) later) :
    ∀ d ∈ later, (x.next q h.numbered h.exist).Admits d := by
  intro d hd
  constructor
  · intro hnumber
    have hnone : ∀ c ∈ constructs f e, c.isCapture = false :=
      hapart.1.resolve_right fun hlater => by simp [hlater d hd] at hnumber
    rw [x.groups_next h hnone, (hx d hd).1 hnumber]
  · intro n hn
    refine Prior.lookup_names_next h ((hx d hd).2 n hn) fun c hc hcn => ?_
    have hne := (hapart.2 c hc d hd).resolve_left (by simp [hcn])
    exact hne (hcn.trans hn.symm)

/-- After an expression and a bar, the next one is read as one that comes after it. -/
theorem step_bar_after {f : Flags} {e : List Char} {q : Reading} (h : IsReadAs f e q) (x : Prior)
    (rest : List Token) :
    step (q.after x) (.plain '|') rest
      = .ok ((Reading.start f).after (x.next q h.numbered h.exist), rest) := by
  obtain ⟨hflags, hw, hbound⟩ := h.settled
  have hopening : (q.after x).top.opening = .whole := by
    simp [Reading.after, Prior.frame, h.closed]
  rw [step_bar fun i => by simp [hopening]]
  refine congrArg (fun r => Except.ok (r, rest)) ?_
  simp only [Reading.after, h.closed, hw, hbound, Reading.start, Prior.frame, Prior.next, hflags]
  rfl

/-- The alternatives of all the readings, each with numbers of its own for its groups. -/
inductive Gathered : List Reading → List (List Node) → Prop
  | nil : Gathered [] []
  | cons {q : Reading} {qs : List Reading} {σ : Nat → Nat} {alts : List (List Node)}
      (hσ : Function.Injective σ) (h : Gathered qs alts) :
      Gathered (q :: qs) (q.top.alternatives.map (List.map (Node.rename σ)) ++ alts)

theorem alternatives_after {q : Reading} (hclosed : q.below = []) (x : Prior) :
    (q.after x).top.alternatives
      = x.complete.reverse ++ q.top.alternatives.map (List.map (Node.rename x.number)) := by
  have htop : (q.after x).top = x.frame true q.top := by
    rw [Reading.after, hclosed]
    rfl
  rw [htop, Frame.alternatives, Frame.alternatives, Reading.current_after]
  simp [Prior.frame]

/-- The tokens of an expression that does not end within an escape come before the bar. -/
theorem tokenize_alternatives {e : List Char} (hended : ∀ ts, tokenize e ≠ ts ++ [.dangling])
    (d : List Char) (es : List (List Char)) :
    tokenize (alternatives (e :: d :: es))
      = tokenize e ++ .plain '|' :: tokenize (alternatives (d :: es)) := by
  rw [alternatives]
  rcases tokenize_append_cons (c := '|') (by decide) e (alternatives (d :: es)) with
    htokens | ⟨ts, hts, -⟩
  · exact htokens
  · exact absurd hts (hended ts)

/-- Expressions with bars between them, after others, are read up to the end. -/
theorem reads_alternatives_after {f : Flags} (hv : f.verbose = false) {es : List (List Char)}
    {qs : List Reading} (h : List.Forall₂ (IsReadAs f) es qs) (hne : es ≠ [])
    (hapart : es.Pairwise fun d e => Apart (constructs f d) (constructs f e)) {x : Prior}
    (hx : ∀ e ∈ es, ∀ c ∈ constructs f e, x.Admits c) :
    ∃ R : Reading, Reads ((Reading.start f).after x) (tokenize (alternatives es)) R [] ∧
      R.below = [] ∧ R.wholeFlags = [] ∧ R.top.flags = f ∧ (∀ i ∈ R.asked, i ≤ R.groups) ∧
      ∃ alts, R.top.alternatives = x.complete.reverse ++ alts ∧ Gathered qs alts := by
  induction h generalizing x with
  | nil => exact absurd rfl hne
  | @cons e q es qs he hes ih =>
    obtain ⟨hflags, hw, -⟩ := he.settled
    obtain ⟨hfirst, hrest⟩ := List.pairwise_cons.mp hapart
    have hread : ∀ {us : List Token}, Ends us → us.head? ≠ some .dangling →
        Reads ((Reading.start f).after x) (tokenize e ++ us) (q.after x) us :=
      fun hus hend => he.reads_after hv (hx e (by simp)) hus hend
    have hclosed : (q.after x).below = [] := by rw [Reading.after, he.closed]; rfl
    rcases es with - | ⟨e', es⟩
    · obtain rfl := List.forall₂_nil_left_iff.mp hes
      refine ⟨q.after x, ?_, hclosed, hw, hflags, ?_, _, alternatives_after he.closed x, ?_⟩
      · have hlast := hread Ends.nil (by simp)
        rwa [List.append_nil] at hlast
      · exact Reading.exist_after he.exist x
      · have hgathered := Gathered.cons (q := q) x.number_injective .nil
        rwa [List.append_nil] at hgathered
    · let y := x.next q he.numbered he.exist
      have hy : ∀ d ∈ e' :: es, ∀ c ∈ constructs f d, y.Admits c := fun d hd =>
        Prior.admits_next he (hx d (List.mem_cons_of_mem e hd)) (hfirst d hd)
      obtain ⟨R, hR, hbelow, hwhole, htop, hasked, alts, halts, hgathered⟩ :=
        ih (by simp) hrest hy
      refine ⟨R, ?_, hbelow, hwhole, htop, hasked,
        q.top.alternatives.map (List.map (Node.rename x.number)) ++ alts, ?_,
        .cons x.number_injective hgathered⟩
      · rw [tokenize_alternatives he.ended]
        exact (hread (by simp [Ends]) (by simp)).trans ((Reads.single (step_bar_after he x _)).trans hR)
      · have hcomplete : y.complete.reverse = (q.after x).top.alternatives := by
          simp [y, Prior.next, Frame.alternatives]
        rw [halts, hcomplete, alternatives_after he.closed, List.append_assoc]

namespace Gathered

variable {qs : List Reading} {alts : List (List Node)}

theorem exists_of_mem (h : Gathered qs alts) {ns : List Node} (hns : ns ∈ alts) :
    ∃ q ∈ qs, ∃ ms ∈ q.top.alternatives, ∃ σ, Function.Injective σ ∧
      ns = ms.map (Node.rename σ) := by
  induction h with
  | nil => cases hns
  | @cons q qs σ alts hσ h ih =>
    rcases List.mem_append.mp hns with hns | hns
    · obtain ⟨ms, hms, rfl⟩ := List.mem_map.mp hns
      exact ⟨q, by simp, ms, hms, σ, hσ, rfl⟩
    · obtain ⟨p, hp, hrest⟩ := ih hns
      exact ⟨p, by simp [hp], hrest⟩

theorem exists_mem (h : Gathered qs alts) {q : Reading} (hq : q ∈ qs) {ms : List Node}
    (hms : ms ∈ q.top.alternatives) :
    ∃ σ, Function.Injective σ ∧ ms.map (Node.rename σ) ∈ alts := by
  induction h with
  | nil => cases hq
  | @cons p qs σ alts hσ h ih =>
    rcases List.mem_cons.mp hq with rfl | hq
    · exact ⟨σ, hσ, List.mem_append_left _ (List.mem_map_of_mem hms)⟩
    · obtain ⟨τ, hτ, hmem⟩ := ih hq
      exact ⟨τ, hτ, List.mem_append_right _ hmem⟩

end Gathered

theorem lookBehindsFixed_oneOf_eq (ns : List Node) :
    (Node.oneOf ns).lookBehindsFixed = ns.all Node.lookBehindsFixed := by
  induction ns with
  | nil => rfl
  | cons n ns ih =>
    rcases ns with - | ⟨m, ns⟩
    · simp [Node.oneOf]
    · rw [Node.oneOf, Node.lookBehindsFixed, ih, List.all_cons, List.all_cons, List.all_cons]

theorem lookBehindsFixed_ofList_joinAlternatives (rule : CaseRule) (alts : List (List Node)) :
    (Node.ofList (joinAlternatives rule alts)).lookBehindsFixed
      = alts.all fun ns => (Node.ofList ns).lookBehindsFixed := by
  rw [(Node.outline_eq_iff.mp (Node.outline_joinAlternatives rule alts)).2.1,
    lookBehindsFixed_oneOf_eq, List.all_map]
  rfl

/-- The look-behinds have a fixed width if they have one in all alternatives. -/
theorem lookBehindsFixed_content (f : Frame) :
    (Node.ofList f.content).lookBehindsFixed
      = f.alternatives.all fun ns => (Node.ofList ns).lookBehindsFixed :=
  lookBehindsFixed_ofList_joinAlternatives f.flags.caseRule f.alternatives

/-- **Expressions with bars between them** are read as the join of their alternatives, if each of
them can be read on its own and the later ones do not see the groups of the earlier ones. -/
theorem parse_alternatives_of_apart {f : Flags} (hv : f.verbose = false) {es : List (List Char)}
    {qs : List Reading} (h : List.Forall₂ (IsReadAs f) es qs) (hne : es ≠ [])
    (hapart : es.Pairwise fun d e => Apart (constructs f d) (constructs f e))
    (hfixed : ∀ q ∈ qs, (Node.ofList q.top.content).lookBehindsFixed = true) :
    ∃ alts, Gathered qs alts ∧
      parse f (alternatives es) = .ok (.ofList (joinAlternatives f.caseRule alts)) := by
  let x : Prior := ⟨[], 0, [], [], [], by simp, by simp⟩
  obtain ⟨R, hR, hbelow, hwhole, htop, hasked, alts, halts, hgathered⟩ :=
    reads_alternatives_after hv h hne hapart (x := x) fun e _ c _ => ⟨fun _ => rfl, fun _ _ => rfl⟩
  have hstart : (Reading.start f).after x = .start f := rfl
  have hcontent : R.top.content = joinAlternatives f.caseRule alts := by
    rw [Frame.content, htop]
    exact congrArg _ halts
  have hjoined : (Node.ofList (joinAlternatives f.caseRule alts)).lookBehindsFixed = true := by
    rw [lookBehindsFixed_ofList_joinAlternatives, List.all_eq_true]
    intro ns hns
    obtain ⟨q, hq, ms, hms, σ, -, rfl⟩ := hgathered.exists_of_mem hns
    have hq := hfixed q hq
    rw [lookBehindsFixed_content] at hq
    rw [← Node.rename_ofList, Node.lookBehindsFixed_rename]
    exact List.all_eq_true.mp hq ms hms
  have hread := (hstart ▸ hR).readAll_eq (Nat.le_refl _)
  refine ⟨alts, hgathered, ?_⟩
  have hfinish : R.finish = .ok (.ofList (joinAlternatives f.caseRule alts)) := by
    rw [← hcontent] at hjoined ⊢
    exact finish_of_closed hbelow hwhole hasked hjoined
  rw [parse]
  exact (congrArg (· >>= Reading.finish) hread).trans hfinish

end SigmaRules.Regex
