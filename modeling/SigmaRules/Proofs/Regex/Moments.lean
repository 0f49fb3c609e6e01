/-
SigmaRules/Proofs/Regex/Moments.lean

An expression is read in a group as on its own, but for three things.  A
closing parenthesis that closes nothing closes the group, flags of the whole
expression cannot be set in it, and a comment that goes on to the end of the
expression takes the end of the group with it.  All of them can be told from
the moments in the reading of the expression on its own.

If no moment is of the first kind, the expression is read in the group if and
only if it is read on its own and no moment is of the two other kinds
(`together`).  The induction is on the number of tokens.  A construct is read
in both alike (`lex_append`, `Reading.apply_within`) or in neither.  What is a
construct only with the end of the group takes some of that end, and then
there are too few parentheses left (`Completes.length_below_le`).
-/
import SigmaRules.Proofs.Regex.Enclosing

namespace SigmaRules.Regex

/-! ### Moments -/

/-- A point in the reading of an expression: what has been read, and the tokens from there on. -/
structure Moment where
  reading : Reading
  tokens : List Token

/-- The moments at which constructs start. -/
def momentsFrom : Nat → Reading → List Token → List Moment
  | _, _, [] => []
  | 0, _, _ :: _ => []
  | fuel + 1, r, t :: ts =>
    ⟨r, t :: ts⟩ :: match step r t ts with
      | .error _ => []
      | .ok (r', rest) => momentsFrom fuel r' rest

/-- The moments of an expression. -/
def moments (f : Flags) (s : List Char) : List Moment :=
  momentsFrom (tokenize s).length (.start f) (tokenize s)

namespace Moment

/-- A parenthesis closes here, and no group is open. -/
def isStrayClose (m : Moment) : Bool :=
  m.tokens.head? == some (.plain ')') && m.reading.below.isEmpty

/-- Flags of the whole expression are set here. -/
def setsFlags (m : Moment) : Bool :=
  match m.tokens with
  | [] => false
  | t :: ts =>
    match lex m.reading.top.flags t ts with
    | .ok (.flags _, _) => true
    | _ => false

/-- A comment starts here that no line feed ends. -/
def isOpenComment (m : Moment) : Bool :=
  m.reading.top.flags.verbose && m.tokens.head? == some (.plain '#') &&
    !m.tokens.contains (.plain '\n')

/-- Nothing starts here that would not do in a group. -/
def isQuiet (m : Moment) : Bool := !m.setsFlags && !m.isOpenComment

end Moment

/-- Nothing in the tokens would not do in a group. -/
def Quiet (fuel : Nat) (r : Reading) (ts : List Token) : Prop :=
  ∀ m ∈ momentsFrom fuel r ts, m.isQuiet = true

section Moments

variable {fuel : Nat} {r r' : Reading} {t : Token} {ts rest : List Token} {c : Construct}

theorem momentsFrom_cons (hlex : lex r.top.flags t ts = .ok (c, rest))
    (happly : r.apply c = .ok r') :
    momentsFrom (fuel + 1) r (t :: ts) = ⟨r, t :: ts⟩ :: momentsFrom fuel r' rest := by
  simp only [momentsFrom, step_eq_ok hlex happly]

theorem mem_momentsFrom_cons : ⟨r, t :: ts⟩ ∈ momentsFrom (fuel + 1) r (t :: ts) :=
  List.mem_cons_self

theorem length_tokens_le {m : Moment} (h : m ∈ momentsFrom fuel r ts) :
    m.tokens.length ≤ ts.length := by
  induction fuel generalizing r ts with
  | zero => rcases ts with - | ⟨t, ts⟩ <;> cases h
  | succ fuel ih =>
    rcases ts with - | ⟨t, ts⟩
    · cases h
    rcases List.mem_cons.mp h with rfl | h
    · exact Nat.le_refl _
    rcases hstep : step r t ts with e | ⟨r', rest⟩
    · simp [hstep] at h
    · simp only [hstep] at h
      obtain ⟨c, hlex, -⟩ := exists_of_step hstep
      exact Nat.le_succ_of_le (Nat.le_trans (ih h) (lex_suffix hlex).length_le)

/-- Whoever closes a group at a moment that is not stray closes one that is open. -/
theorem below_ne_of_close (hlex : lex r.top.flags t ts = .ok (.close, rest)) {us : List Token}
    (h : (Moment.mk r (t :: us)).isStrayClose = false) : r.below ≠ [] := by
  obtain ⟨rfl, -⟩ := eq_close_of_lex hlex
  simpa [Moment.isStrayClose] using h

/-- What is read to its end closes no group that it did not open. -/
theorem Reads.isStrayClose_eq_false {q : Reading} (h : Reads r ts q []) {m : Moment}
    (hm : m ∈ momentsFrom fuel r ts) : m.isStrayClose = false := by
  induction fuel generalizing r ts with
  | zero => rcases ts with - | ⟨t, ts⟩ <;> cases hm
  | succ fuel ih =>
    rcases ts with - | ⟨t, ts⟩
    · cases hm
    obtain ⟨c, rest, r', hlex, happly, hrest⟩ := h.exists_of_cons
    rw [momentsFrom_cons hlex happly] at hm
    rcases List.mem_cons.mp hm with rfl | hm
    · rw [Bool.eq_false_iff]
      intro hstray
      obtain ⟨ht, hb⟩ : t = .plain ')' ∧ r.below = [] := by
        simpa [Moment.isStrayClose] using hstray
      rw [ht, lex_close] at hlex
      obtain ⟨rfl, -⟩ := Prod.mk.inj (Except.ok.inj hlex)
      have hmalformed : readClose r = .error .malformed := by rw [readClose, hb]
      cases hmalformed.symm.trans happly
    · exact ih hrest hm

theorem isOpenComment_iff :
    (Moment.mk r (t :: ts)).isOpenComment = true ↔ OpenComment r.top.flags t ts := by
  simp only [Moment.isOpenComment, List.head?_cons, Bool.and_eq_true, beq_iff_eq, Option.some.injEq,
    Bool.not_eq_true', List.contains_eq_mem, decide_eq_false_iff_not, List.mem_cons, not_or]
  constructor
  · rintro ⟨⟨hverbose, hmark⟩, -, hline⟩
    exact ⟨hmark, hverbose, hline⟩
  · rintro ⟨rfl, hverbose, hline⟩
    exact ⟨⟨hverbose, rfl⟩, by decide, hline⟩

theorem isQuiet_of_lex (hlex : lex r.top.flags t ts = .ok (c, rest)) (hflags : ∀ on, c ≠ .flags on)
    (hcomment : ¬OpenComment r.top.flags t ts) : (Moment.mk r (t :: ts)).isQuiet = true := by
  have hsets : (Moment.mk r (t :: ts)).setsFlags = false := by
    simp only [Moment.setsFlags, hlex]
    cases c with
    | flags on => exact absurd rfl (hflags on)
    | _ => rfl
  have hopen : (Moment.mk r (t :: ts)).isOpenComment = false :=
    Bool.eq_false_iff.mpr fun h => hcomment (isOpenComment_iff.mp h)
  rw [Moment.isQuiet, hsets, hopen]
  rfl

end Moments

/-! ### The end of a group -/

/-- How tokens end in a group, and on their own: with closing parentheses for all groups around,
or with nothing.  A backslash at the end escapes the first of the parentheses. -/
inductive Ending (x : Enclosure) : List Token → List Token → Prop
  | closed : Ending x (List.replicate x.outer.length (.plain ')')) []
  | escaped : Ending x (.escaped ')' :: List.replicate (x.outer.length - 1) (.plain ')'))
      [.dangling]

namespace Ending

variable {x : Enclosure} {v w : List Token}

theorem ends (h : Ending x v w) : Ends v := by
  rcases h with - | -
  · intro c hc
    rw [List.head?_replicate] at hc
    split at hc
    · cases hc
    · exact .inr (Token.plain.inj (Option.some.inj hc)).symm
  · intro c hc
    cases hc

theorem ends_own (h : Ending x v w) : Ends w := by
  rcases h with - | -
  · exact .nil
  · intro c hc
    cases hc

theorem length_eq (h : Ending x v w) : v.length = x.outer.length := by
  have hpos : 0 < x.outer.length := List.length_pos_iff.mpr x.outer_ne
  rcases h with - | -
  · exact List.length_replicate
  · rw [List.length_cons, List.length_replicate]
    omega

theorem head?_ne (h : Ending x v w) : v.head? ≠ some .dangling := by
  rcases h with - | -
  · rw [List.head?_replicate]
    split
    · simp
    · simp
  · simp

theorem no_line (h : Ending x v w) : .plain '\n' ∉ v := by
  rcases h with - | -
  · simp
  · simp

theorem no_line_own (h : Ending x v w) : .plain '\n' ∉ w := by
  rcases h with - | -
  · simp
  · simp

theorem count_lt (h : Ending x v w) (hw : w ≠ []) : v.count (.plain ')') < x.outer.length := by
  have hpos : 0 < x.outer.length := List.length_pos_iff.mpr x.outer_ne
  rcases h with - | -
  · exact absurd rfl hw
  · rw [List.count_cons_of_ne (by decide), List.count_replicate_self]
    omega

end Ending

/-- With closing parentheses after it, an expression ends as it does in a group. -/
theorem exists_ending (x : Enclosure) (s : List Char) : ∃ ts v w, Ending x v w ∧
    tokenize s = ts ++ w ∧
    tokenize (s ++ List.replicate x.outer.length ')') = ts ++ v := by
  obtain ⟨n, hn⟩ : ∃ n, x.outer.length = n + 1 :=
    Nat.exists_eq_succ_of_ne_zero fun h => x.outer_ne (List.length_eq_zero_iff.mp h)
  have hclosers : ∀ n, tokenize (List.replicate n ')') = List.replicate n (.plain ')') := by
    intro n
    induction n with
    | zero => rfl
    | succ n ih => rw [List.replicate_succ, tokenize_cons (by decide), ih, List.replicate_succ]
  have hclosed := Ending.closed (x := x)
  have hescaped := Ending.escaped (x := x)
  rw [hn, Nat.add_sub_cancel] at hescaped
  rw [hn] at hclosed ⊢
  rw [List.replicate_succ]
  rcases tokenize_append_cons (c := ')') (by decide) s (List.replicate n ')') with
    h | ⟨ts, hs, h⟩
  · refine ⟨tokenize s, _, [], hclosed, (List.append_nil _).symm, ?_⟩
    rw [h, hclosers, List.replicate_succ]
  · exact ⟨ts, _, _, hescaped, hs, by rw [h, hclosers]⟩

/-! ### In a group and on its own -/

/-- Tokens are read in a group and on their own alike, or in neither way. -/
inductive Together (x : Enclosure) (v w : List Token) (quiet : Prop) (r : Reading)
    (ts : List Token) : Prop
  | read {q : Reading} (hw : w = []) (hclosed : q.below = [])
      (hflags : q.wholeFlags = r.wholeFlags) (hquiet : quiet) (hown : Reads r ts q [])
      (hin : Reads (r.within x) (ts ++ v) (q.within x) v)
  | unread (hown : quiet → ∀ q, ¬Completes r (ts ++ w) q)
      (hin : ∀ q, ¬Completes (r.within x) (ts ++ v) q)

section Together

variable {x : Enclosure} {v w : List Token} {fuel : Nat} {r r' : Reading} {t : Token}
  {ts rest : List Token} {c : Construct} {quiet : Prop}

/-- At the end of the expression. -/
theorem together_nil (h : Ending x v w) (hquiet : w = [] → quiet) : Together x v w quiet r [] := by
  have houter := r.length_below_within (x := x)
  by_cases hw : w = []
  · subst hw
    by_cases hclosed : r.below = []
    · exact .read rfl hclosed rfl (hquiet rfl) (.refl r []) (.refl _ _)
    · have hopen : 0 < r.below.length := List.length_pos_iff.mpr hclosed
      have hcount : v.count (.plain ')') ≤ v.length := List.count_le_length
      rw [h.length_eq] at hcount
      refine .unread (fun _ => not_completes hopen) (not_completes ?_)
      rw [List.nil_append]
      omega
  · have hlt := h.count_lt hw
    refine .unread (fun _ q hq => ?_) (not_completes ?_)
    · rcases h with - | -
      · exact hw rfl
      · obtain ⟨c, rest, r', hlex, -⟩ := hq.reads.exists_of_cons
        cases hlex
    · rw [List.nil_append]
      omega

/-- What is no construct on its own can be one with the end of the group, but then the group is
not closed. -/
theorem together_of_error (h : Ending x v w) {e : Error} (hlex : lex r.top.flags t ts = .error e) :
    Together x v w quiet r (t :: ts) := by
  refine .unread (fun _ q hq => ?_) fun q hq => ?_
  · obtain ⟨c, rest, r', hmore, -, -⟩ := hq.reads.exists_of_cons
    obtain ⟨hlt, hne⟩ := lex_takes hlex h.ends_own hmore
    rcases h with - | -
    · exact Nat.not_lt_zero _ hlt
    · exact hne rfl
  · obtain ⟨c, rest, r', hmore, happly, hrest⟩ := hq.reads.exists_of_cons
    obtain ⟨hlt, -⟩ := lex_takes hlex h.ends hmore
    have hc : c ≠ .close := by
      rintro rfl
      rw [(eq_close_of_lex hmore).1, lex_close] at hlex
      cases hlex
    have hbelow := Reading.length_below_le happly hc
    have hcount : rest.count (.plain ')') ≤ rest.length := List.count_le_length
    rw [r.length_below_within] at hbelow
    rw [h.length_eq] at hlt
    exact not_completes (by omega) q ⟨hrest, hq.2⟩

/-- A comment that goes on to the end of the expression goes on to the end of the group. -/
theorem together_of_comment (h : Ending x v w) (hcomment : OpenComment r.top.flags t ts)
    (hquiet : quiet → (Moment.mk r (t :: ts ++ w)).isQuiet = true) :
    Together x v w quiet r (t :: ts) := by
  refine .unread (fun hq => ?_) fun q hq => ?_
  · have hopen := isOpenComment_iff.mpr (hcomment.append h.no_line_own)
    simpa [Moment.isQuiet, hopen] using hquiet hq
  · have hopen : OpenComment (r.within x).top.flags t (ts ++ v) := hcomment.append h.no_line
    obtain ⟨c, rest, r', hlex, happly, hrest⟩ := hq.reads.exists_of_cons
    obtain ⟨rfl, rfl⟩ := hopen.eq_nil_of_lex hlex
    obtain rfl := Except.ok.inj happly
    have hpos : 0 < x.outer.length := List.length_pos_iff.mpr x.outer_ne
    have houter := r.length_below_within (x := x)
    refine not_completes ?_ q ⟨hrest, hq.2⟩
    rw [List.count_nil]
    omega

/-- A count before the backslash at the end of the expression is malformed on its own.  In a group
the backslash escapes a parenthesis, and then the group is not closed. -/
theorem together_of_count (h : Ending x v w) (hlex : lex r.top.flags t ts = .ok (c, rest))
    (hcount : AfterCount r.top.flags t ts c rest w)
    (hin : lex (r.within x).top.flags t (ts ++ v) = .ok (c, rest ++ v)) :
    Together x v w quiet r (t :: ts) := by
  refine .unread (fun _ q hq => ?_) fun q hq => ?_
  · obtain ⟨c', rest', r', hmore, -, -⟩ := hq.reads.exists_of_cons
    cases hmore.symm.trans hcount.malformed
  · obtain ⟨c', rest', r', hmore, happly, hrest⟩ := hq.reads.exists_of_cons
    obtain ⟨rfl, rfl⟩ := Prod.mk.inj (Except.ok.inj (hmore.symm.trans hin))
    obtain ⟨lo, hi, greed, rfl⟩ := hcount.count
    have hbelow := Reading.length_below_le happly (by simp)
    have hlt := h.count_lt fun hw => by simpa [hw] using hcount.dangling
    rw [r.length_below_within] at hbelow
    rw [hcount.rest, List.nil_append] at hrest
    exact not_completes (by omega) q ⟨hrest, hq.2⟩

/-- A construct that is read in both ways. -/
theorem Together.cons (hlex : lex r.top.flags t ts = .ok (c, rest))
    (hown : lex r.top.flags t (ts ++ w) = .ok (c, rest ++ w))
    (hin : lex (r.within x).top.flags t (ts ++ v) = .ok (c, rest ++ v))
    (happly : r.apply c = .ok r')
    (hwithin : (r.within x).apply c = .ok (r'.within x)) (hflags : r'.wholeFlags = r.wholeFlags)
    {quiet' : Prop} (hquiet : quiet ↔ quiet') (h : Together x v w quiet' r' rest) :
    Together x v w quiet r (t :: ts) := by
  cases h with
  | read hw hclosed hq hquiet' hown' hin' =>
    exact .read hw hclosed (hq.trans hflags) (hquiet.mpr hquiet') (.cons hlex happly hown')
      (.cons hin hwithin hin')
  | unread hown' hin' =>
    refine .unread (fun hq q h => ?_) fun q h => ?_
    · exact hown' (hquiet.mp hq) q ⟨(Reads.cons_iff hown happly).mp h.reads, h.2⟩
    · exact hin' q ⟨(Reads.cons_iff hin hwithin).mp h.reads, h.2⟩

/-- **Tokens are read in a group** as they are on their own, unless they close a group that they
did not open. -/
theorem together (h : Ending x v w) (hfuel : (ts ++ w).length ≤ fuel) (hr : r.Rooted)
    (hown : ∀ m ∈ momentsFrom fuel r (ts ++ w), m.isStrayClose = false) :
    Together x v w (Quiet fuel r (ts ++ w)) r ts := by
  induction fuel generalizing r ts with
  | zero =>
    obtain ⟨rfl, rfl⟩ :=
      List.append_eq_nil_iff.mp (List.length_eq_zero_iff.mp (Nat.le_zero.mp hfuel))
    exact together_nil h fun _ m hm => by cases hm
  | succ fuel ih =>
    rcases ts with - | ⟨t, ts⟩
    · refine together_nil h ?_
      rintro rfl m hm
      cases hm
    have hfirst : Quiet (fuel + 1) r (t :: ts ++ w) →
        (Moment.mk r (t :: ts ++ w)).isQuiet = true := fun hq => hq _ mem_momentsFrom_cons
    rcases hlex : lex r.top.flags t ts with e | ⟨c, rest⟩
    · exact together_of_error h hlex
    by_cases hcomment : OpenComment r.top.flags t ts
    · exact together_of_comment h hcomment hfirst
    have hlexv : lex (r.within x).top.flags t (ts ++ v) = .ok (c, rest ++ v) :=
      (lex_append hlex h.ends).resolve_right fun hor =>
        hor.elim hcomment fun hcount => h.head?_ne hcount.dangling
    by_cases hcount : AfterCount r.top.flags t ts c rest w
    · exact together_of_count h hlex hcount hlexv
    -- any other construct is the same with what comes after the tokens in either place
    have hlexw := (lex_append hlex h.ends_own).resolve_right fun hor => hor.elim hcomment hcount
    by_cases hflags : ∃ on, c = .flags on
    -- in a group something has begun already, so it is too late for flags
    · obtain ⟨on, rfl⟩ := hflags
      refine .unread (fun hquiet => ?_) fun q hq => ?_
      · simpa [Moment.isQuiet, Moment.setsFlags, hlexw] using hfirst hquiet
      · exact Reads.not_of_error hlexv (if_pos r.begun_within) hq.reads
    have hne : ∀ on, c ≠ .flags on := fun on hc => hflags ⟨on, hc⟩
    have hclose : c = .close → r.below ≠ [] := by
      rintro rfl
      exact below_ne_of_close hlexw (hown _ mem_momentsFrom_cons)
    have hwithin := Reading.apply_within (x := x) hr hne hclose
    rcases happly : r.apply c with e | r' <;> rw [happly] at hwithin
    · exact .unread (fun _ q hq => Reads.not_of_error hlexw happly hq.reads)
        fun q hq => Reads.not_of_error hlexv hwithin hq.reads
    have hquiet : (Moment.mk r (t :: ts ++ w)).isQuiet = true :=
      isQuiet_of_lex hlexw hne fun hopen => hcomment hopen.of_append
    have hmoments := @momentsFrom_cons fuel _ _ _ _ _ _ hlexw happly
    have hrest := (lex_suffix hlexw).length_le
    refine .cons hlex hlexw hlexv happly hwithin (Reading.wholeFlags_apply happly hne) ?_
      (ih (Nat.le_trans hrest (Nat.le_of_succ_le_succ hfuel)) (hr.apply happly) fun m hm => ?_)
    · rw [Quiet, List.cons_append, hmoments, List.forall_mem_cons]
      exact and_iff_right hquiet
    · exact hown m (by rw [List.cons_append, hmoments]; exact List.mem_cons_of_mem _ hm)

end Together

end SigmaRules.Regex
