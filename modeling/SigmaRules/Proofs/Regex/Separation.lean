/-
SigmaRules/Proofs/Regex/Separation.lean

Alternatives taken apart again.  Where expressions with bars between them make a regular
expression together, each of them is one on its own (`exists_parse_of_alternatives`), if
they keep to themselves: they stay within their bars, have all groups that their conditions
ask for (`SelfContained`), and none refers to a group of one before it (`Separate`).

This is the converse of joining them.  What one construct does after others it does on its
own as well (`exists_apply_of_after`), and so does a text that stays by itself
(`Nests.exists_reads_own`).
-/
import SigmaRules.Proofs.Regex.Nesting

namespace SigmaRules.Regex

open Search

/-! ### References to groups before -/

/-- The group that is referred to. -/
def Construct.referent? : Construct → Option Referent
  | .reference y | .conditional y => some y
  | _ => none

/-- The construct refers to no group that has been read before. -/
structure Prior.Unseen (x : Prior) (c : Construct) : Prop where
  number : c.isNumbered = true → x.groups = 0
  name : ∀ n, c.referent? = some (.name n) → x.names.lookup n = none

namespace Reading

variable {x : Prior} {r q' : Reading} {c : Construct}

theorem begun_after (h : r.begun = true) : (r.after x).begun = true := by
  rw [begun] at h ⊢
  rcases hb : r.below with - | ⟨outer, below⟩
  · -- complete alternatives and pieces are not taken away
    simp only [after, Prior.frame, Prior.stack, hb, List.isEmpty_nil, Bool.true_and,
      Bool.not_eq_true', Bool.and_eq_false_iff, List.isEmpty_eq_false_iff] at h ⊢
    exact h.imp (by simp_all) (by simp)
  · simp [after, Prior.stack, hb]

theorem exists_indexOf_of_after {y : Referent} {j : Nat} (hx : x.Unseen c)
    (hc : c = .reference y ∨ c = .conditional y) (h : (r.after x).indexOf y = .ok j) :
    ∃ i, r.indexOf y = .ok i ∧ j = x.number i := by
  rcases y with n | i
  · have hfree : x.names.lookup n = none := hx.name n (by rcases hc with rfl | rfl <;> rfl)
    rw [indexOf, after, List.lookup_append, lookup_map_values, hfree] at h
    rcases hn : r.names.lookup n with - | i
    · simp [hn] at h
    · refine ⟨i, by simp [indexOf, hn], ?_⟩
      simpa [hn, eq_comm] using h
  · have hnone : x.groups = 0 := hx.number (by rcases hc with rfl | rfl <;> rfl)
    obtain rfl : i = j := Except.ok.inj h
    exact ⟨i, rfl, (x.number_eq_self hnone i).symm⟩

theorem exists_refer_of_after {i : Nat} (h : (r.after x).refer (x.number i) = .ok q') :
    ∃ q, r.refer i = .ok q := by
  rw [refer, closedWidth?_after] at h
  rw [refer]
  rcases hw : r.closedWidth? i with - | w
  · simp [hw] at h
  · exact ⟨_, rfl⟩

theorem exists_openCapture_of_after {name : Option (List Char)}
    (h : openCapture (r.after x) name = .ok q') :
    (∃ q, openCapture r name = .ok q) ∧ ∀ n, name = some n → x.names.lookup n = none := by
  rcases name with - | n
  · exact ⟨⟨_, rfl⟩, by simp⟩
  simp only [openCapture] at h ⊢
  split at h
  · cases h
  case isFalse htaken =>
    have hnone : (r.after x).names.lookup n = none := by
      simpa only [Option.not_isSome_iff_eq_none] using htaken
    rw [after, List.lookup_append, lookup_map_values, Option.or_eq_none_iff,
      Option.map_eq_none_iff] at hnone
    obtain ⟨hfree, hprior⟩ := hnone
    refine ⟨⟨_, by rw [hfree]; rfl⟩, ?_⟩
    rintro m hm
    obtain rfl := Option.some.inj hm
    exact hprior

theorem exists_readBar_of_after (hroot : r.Rooted) (h : readBar (r.after x) = .ok q') :
    ∃ q, readBar r = .ok q := by
  rw [readBar_eq] at h ⊢
  split
  case isFalse => exact ⟨_, rfl⟩
  case isTrue hsecond =>
    simp only [Bool.and_eq_true] at hsecond
    obtain ⟨hconditional, hcomplete⟩ := hsecond
    -- a condition is no expression itself, so it is one after others as well
    have hb : r.below.isEmpty = false := by
      rw [Bool.eq_false_iff]
      intro hb
      rw [hroot.opening_eq (List.isEmpty_iff.mp hb)] at hconditional
      cases hconditional
    have hopening : (r.after x).top.opening.isConditional = true := by
      simp only [after, Prior.frame, hb]
      rcases ho : r.top.opening <;> simp_all [Opening.isConditional, Prior.opening]
    have hsome : (r.after x).top.complete.isEmpty = false := by
      simpa [after, Prior.frame, hb] using hcomplete
    simp [hopening, hsome] at h

theorem exists_readClose_of_after (h : readClose (r.after x) = .ok q') :
    ∃ q, readClose r = .ok q := by
  rcases hb : r.below with - | ⟨outer, below⟩
  · simp [readClose, after, Prior.stack, hb] at h
  rcases ho : r.top.opening <;> simp only [readClose, hb, ho]
  case whole => simp [readClose, after, Prior.stack, Prior.frame, Prior.opening, hb, ho] at h
  case conditional => split <;> exact ⟨_, rfl⟩
  all_goals exact ⟨_, rfl⟩

theorem exists_times_of_after {lo : Nat} {hi : Option Nat} {greed : Greed}
    (h : (r.after x).times lo hi greed = .ok q') : ∃ q, r.times lo hi greed = .ok q := by
  have hpieces : (r.after x).top.pieces = r.top.pieces.map x.piece := rfl
  rw [times, hpieces] at h
  rw [times]
  rcases hp : r.top.pieces with - | ⟨⟨n⟩ | ⟨ns⟩, before⟩ <;> simp only [hp, List.map_cons] at h ⊢
  · cases h
  · simp only [Prior.piece, Node.isAnchor_rename, Node.isTimes_rename] at h
    split at h
    · cases h
    case isFalse hn => exact ⟨_, if_neg hn⟩
  · exact ⟨_, rfl⟩

/-- **What a construct does after others** it does on its own, if it does not refer to them. -/
theorem exists_apply_of_after (hroot : r.Rooted) (hx : x.Unseen c)
    (h : (r.after x).apply c = .ok q') : ∃ q, r.apply c = .ok q ∧ q' = q.after x := by
  -- once it can be applied on its own, what it does after others is known
  have hafter : (∃ q, r.apply c = .ok q) → (∀ on, c = .flags on → r.begun = true) →
      (∀ n, c.name? = some n → x.names.lookup n = none) →
      ∃ q, r.apply c = .ok q ∧ q' = q.after x := by
    rintro ⟨q, hq⟩ hb hname
    exact ⟨q, hq, Except.ok.inj (h.symm.trans (apply_after hb ⟨hx.number, hname⟩ hq))⟩
  cases c with
  | reference y =>
    refine hafter ?_ (by simp) (by simp [Construct.name?])
    obtain ⟨j, hj, h⟩ := exists_of_bind_eq_ok h
    obtain ⟨i, hi, rfl⟩ := exists_indexOf_of_after hx (.inl rfl) hj
    obtain ⟨q, hq⟩ := exists_refer_of_after h
    exact ⟨q, by rw [apply, hi]; exact hq⟩
  | conditional y =>
    refine hafter ?_ (by simp) (by simp [Construct.name?])
    obtain ⟨j, hj, h⟩ := exists_of_bind_eq_ok h
    obtain ⟨i, hi, rfl⟩ := exists_indexOf_of_after hx (.inr rfl) hj
    have hbound : (r.after x).bound.isSome = r.bound.isSome := Option.isSome_map
    rw [hbound, closedWidth?_after] at h
    split at h
    · cases h
    case isFalse hclosed => exact ⟨_, by rw [apply, hi]; exact if_neg hclosed⟩
  | capture name =>
    obtain ⟨hown, hname⟩ := exists_openCapture_of_after h
    exact hafter hown (by simp) hname
  | flags on =>
    rw [apply] at h
    split at h
    · cases h
    case isFalse hb => exact ⟨_, if_neg (mt begun_after hb), (Except.ok.inj h).symm⟩
  | bar => exact hafter (exists_readBar_of_after hroot h) (by simp) (by simp [Construct.name?])
  | close => exact hafter (exists_readClose_of_after h) (by simp) (by simp [Construct.name?])
  | times lo hi greed =>
    exact hafter (exists_times_of_after h) (by simp) (by simp [Construct.name?])
  | _ => exact hafter ⟨_, rfl⟩ (by simp) (by simp [Construct.name?])

end Reading

/-! ### A whole text -/

section Runs

variable {f : Flags} {x : Prior} {r R : Reading}

theorem mem_constructsFrom {fuel : Nat} {t : Token} {ts rest : List Token} {c : Construct}
    (hlex : lex r.top.flags t ts = .ok (c, rest)) : c ∈ constructsFrom (fuel + 1) r (t :: ts) := by
  simp [constructsFrom, hlex]

/-- **A text that stays by itself** is read on its own as it is after others, if it does not refer
to them. -/
theorem Nests.exists_reads_own {fuel : Nat} {fs : List Flags} {ts us : List Token}
    (h : Nests f fs ts) (hus : Ends us) (hroot : r.Rooted) (hstack : r.flagStack = fs)
    (hfuel : ts.length ≤ fuel) (hx : ∀ c ∈ constructsFrom fuel r ts, x.Unseen c)
    (hread : Reads (r.after x) (ts ++ us) R []) :
    ∃ q, Reads r ts q [] ∧ Reads (q.after x) us R [] ∧ q.top.flags = f := by
  induction h generalizing r fuel with
  | done => exact ⟨r, .refl r [], hread, (List.cons_eq_cons.mp hstack).1⟩
  | wrong hwrong =>
    rw [List.cons_append] at hread
    obtain ⟨c, rest, r', hlex, -⟩ := hread.exists_of_cons
    rw [show (r.after x).top.flags = r.top.flags from rfl, (List.cons_eq_cons.mp hstack).1] at hlex
    exact absurd hlex (hwrong us hus _)
  | @step g gs t ts rest c hlex hopen _ ih =>
    rw [List.cons_append] at hread
    obtain ⟨hflags, hbelow⟩ := List.cons_eq_cons.mp hstack
    obtain ⟨c', rest', r', hlex', happly', hrest⟩ := hread.exists_of_cons
    rw [show (r.after x).top.flags = r.top.flags from rfl, hflags] at hlex'
    obtain ⟨rfl, rfl⟩ := Prod.mk.inj (eq_of_lex_append hlex hopen hus hlex')
    obtain ⟨fuel, rfl⟩ := Nat.exists_eq_succ_of_ne_zero (n := fuel) (by simp at hfuel; omega)
    rw [← hflags] at hlex
    obtain ⟨p, happly, rfl⟩ :=
      Reading.exists_apply_of_after hroot (hx c (mem_constructsFrom hlex)) happly'
    have hpstack : p.flagStack = c.nest g gs := by
      rw [Reading.flagStack_apply happly, hflags, hbelow]
    rw [constructsFrom_cons hlex happly] at hx
    have hrestfuel : rest.length ≤ fuel := by
      have hlength := (lex_suffix hlex).length_le
      rw [List.length_cons] at hfuel
      omega
    obtain ⟨q, hq, hend, hqflags⟩ := ih (hroot.apply happly) hpstack hrestfuel
      (fun d hd => hx d (List.mem_cons_of_mem c hd)) hrest
    exact ⟨q, .cons hlex happly hq, hend, hqflags⟩

end Runs

/-! ### Expressions that keep to themselves -/

/-- The expression is a group or starts with an anchor, does not end within an escape, stays by
itself, and has the groups that its conditions ask for. -/
structure SelfContained (f : Flags) (e : List Char) : Prop where
  headed : Headed e
  ended : ∀ ts, tokenize e ≠ ts ++ [.dangling]
  nests : Nests f [f] (tokenize e)
  exist : ∀ q, Reads (.start f) (tokenize e) q [] → ∀ i ∈ q.asked, i ≤ q.groups

/-- The later constructs refer to no groups of the earlier ones. -/
def Separate (earlier later : List Construct) : Prop :=
  ((∀ c ∈ earlier, c.isCapture = false) ∨ ∀ d ∈ later, d.isNumbered = false) ∧
    ∀ c ∈ earlier, ∀ d ∈ later, ∀ n ∈ c.name?, d.referent? ≠ some (.name n)

instance (earlier later : List Construct) : Decidable (Separate earlier later) :=
  inferInstanceAs (Decidable (_ ∧ _))

theorem Prior.unseen_next {x : Prior} {f : Flags} {e : List Char} {q : Reading} (h : IsReadAs f e q)
    {later : List Construct} (hx : ∀ d ∈ later, x.Unseen d)
    (hseparate : Separate (constructs f e) later) :
    ∀ d ∈ later, (x.next q h.numbered h.exist).Unseen d := by
  intro d hd
  constructor
  · intro hnumber
    have hnone : ∀ c ∈ constructs f e, c.isCapture = false :=
      hseparate.1.resolve_right fun hlater => by simp [hlater d hd] at hnumber
    rw [x.groups_next h hnone, (hx d hd).number hnumber]
  · intro n hn
    exact Prior.lookup_names_next h ((hx d hd).name n hn) fun c hc hcn =>
      hseparate.2 c hc d hd n hcn hn

theorem Reading.below_after_eq_nil_iff {x : Prior} {r : Reading} :
    (r.after x).below = [] ↔ r.below = [] := by
  rcases hb : r.below <;> simp [after, Prior.stack, hb]

/-- **Alternatives that are read together** can be read one by one. -/
theorem exists_readings_of_alternatives {f : Flags} {es : List (List Char)} (hne : es ≠ [])
    (hes : ∀ e ∈ es, SelfContained f e)
    (hseparate : es.Pairwise fun d e => Separate (constructs f d) (constructs f e)) {x : Prior}
    (hx : ∀ e ∈ es, ∀ c ∈ constructs f e, x.Unseen c) {R : Reading}
    (hread : Reads ((Reading.start f).after x) (tokenize (alternatives es)) R [])
    (hclosed : R.below = []) :
    ∃ qs, List.Forall₂ (IsReadAs f) es qs ∧
      ∃ alts, R.top.alternatives = x.complete.reverse ++ alts ∧ Gathered qs alts := by
  induction es generalizing x with
  | nil => exact absurd rfl hne
  | cons e es ih =>
    obtain ⟨he, hothers⟩ := List.forall_mem_cons.mp hes
    obtain ⟨hfirst, hrest⟩ := List.pairwise_cons.mp hseparate
    have hown : ∀ {us : List Token}, Ends us →
        Reads ((Reading.start f).after x) (tokenize e ++ us) R [] →
        ∃ q, Reads (.start f) (tokenize e) q [] ∧ Reads (q.after x) us R [] ∧ q.top.flags = f :=
      fun hus hread => he.nests.exists_reads_own hus (.start f) rfl (Nat.le_refl _)
        (hx e (by simp)) hread
    have hasRead : ∀ {q : Reading}, Reads (.start f) (tokenize e) q [] → q.below = [] →
        IsReadAs f e q := fun hq hbelow =>
      ⟨he.headed, he.ended, hq.readAll_eq (Nat.le_refl _), hbelow, he.exist _ hq⟩
    rcases es with - | ⟨e', es⟩
    · rw [alternatives, ← List.append_nil (tokenize e)] at hread
      obtain ⟨q, hq, hend, -⟩ := hown .nil hread
      cases hend
      have hbelow : q.below = [] := Reading.below_after_eq_nil_iff.mp hclosed
      refine ⟨[q], .cons (hasRead hq hbelow) .nil, _, alternatives_after hbelow x, ?_⟩
      have hgathered := Gathered.cons (q := q) x.number_injective .nil
      rwa [List.append_nil] at hgathered
    · rw [tokenize_alternatives he.ended] at hread
      obtain ⟨q, hq, hbar, hflags⟩ := hown (ends_bar _) hread
      -- the bar leaves all groups open, and nothing after it closes one that is open before
      have hbelow : q.below = [] := by
        obtain ⟨r', hlast, htop, hr'⟩ := hbar.exists_of_bar
        have hle := length_below_le_of_alternatives (fun d hd => (hothers d hd).nests)
          (fun d hd => (hothers d hd).ended) (htop.trans hflags) hlast
        rw [hclosed, hr', List.length_nil] at hle
        exact Reading.below_after_eq_nil_iff.mp (List.eq_nil_of_length_eq_zero (Nat.le_zero.mp hle))
      have hisRead := hasRead hq hbelow
      let y := x.next q hisRead.numbered hisRead.exist
      have hy : ∀ d ∈ e' :: es, ∀ c ∈ constructs f d, y.Unseen c := fun d hd =>
        Prior.unseen_next hisRead (hx d (List.mem_cons_of_mem e hd)) (hfirst d hd)
      have hnext : Reads ((Reading.start f).after y) (tokenize (alternatives (e' :: es))) R [] := by
        cases hbar with
        | step hstep _ hlast =>
          rw [step_bar_after hisRead] at hstep
          obtain ⟨rfl, rfl⟩ := Prod.mk.inj (Except.ok.inj hstep)
          exact hlast
      obtain ⟨qs, hqs, alts, halts, hgathered⟩ := ih (by simp) hothers hrest hy hnext
      refine ⟨q :: qs, .cons hisRead hqs,
        q.top.alternatives.map (List.map (Node.rename x.number)) ++ alts, ?_,
        .cons x.number_injective hgathered⟩
      have hcomplete : y.complete.reverse = (q.after x).top.alternatives := by
        simp [y, Prior.next, Frame.alternatives]
      rw [halts, hcomplete, alternatives_after hbelow, List.append_assoc]

/-- **Alternatives that are a regular expression together** are regular expressions one by one, if
they keep to themselves and none refers to a group of one before it. -/
theorem exists_parse_of_alternatives {f : Flags} {es : List (List Char)}
    (hes : ∀ e ∈ es, SelfContained f e)
    (hseparate : es.Pairwise fun d e => Separate (constructs f d) (constructs f e)) {n : Node}
    (h : parse f (alternatives es) = .ok n) : ∀ e ∈ es, ∃ m, parse f e = .ok m := by
  intro e he
  let x : Prior := ⟨[], 0, [], [], [], by simp, by simp⟩
  obtain ⟨R, hread, hfinish⟩ := parse_eq_ok_iff.mp h
  obtain ⟨hclosed, -, rfl, hfixed⟩ := finish_eq_ok hfinish
  obtain ⟨qs, hqs, alts, halts, hgathered⟩ := exists_readings_of_alternatives
    (List.ne_nil_of_mem he) hes hseparate (x := x) (fun _ _ _ _ => ⟨fun _ => rfl, fun _ _ => rfl⟩)
    hread hclosed
  obtain ⟨q, hq, hown⟩ := exists_right_of_mem hqs he
  rw [lookBehindsFixed_content, halts, List.all_append, Bool.and_eq_true] at hfixed
  have hqfixed : (Node.ofList q.top.content).lookBehindsFixed = true := by
    rw [lookBehindsFixed_content, List.all_eq_true]
    intro ms hms
    obtain ⟨σ, -, hmem⟩ := hgathered.exists_mem hq hms
    have hms := List.all_eq_true.mp hfixed.2 _ hmem
    rwa [← Node.rename_ofList, Node.lookBehindsFixed_rename] at hms
  have hfinished := finish_of_closed hown.closed hown.settled.2.1 hown.exist hqfixed
  exact ⟨_, parse_eq_ok_iff.mpr ⟨q, .of_readAll hown.read, hfinished⟩⟩

end SigmaRules.Regex
