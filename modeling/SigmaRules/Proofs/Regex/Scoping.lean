/-
SigmaRules/Proofs/Regex/Scoping.lean

An expression that is made a group, or a group with the flags at its start.
The reading of the content goes on in the group (`together`), and when its end
closes the groups, the tree is that of the content, or a group around it
(`IsTransparent`).  So the group is read if and only if the expression is and
nothing in it would not do in a group, and they match alike
(`Enclosed.of_reads`).
-/
import SigmaRules.Proofs.Regex.Alternation
import SigmaRules.Proofs.Regex.Moments
import SigmaRules.Search.Expression

namespace SigmaRules.Regex

open Pattern Search

/-! ### Flags at the start -/

/-- The flags do not keep an expression from being read. -/
structure FlagsFit (on : List Char) : Prop where
  template : 't' ∉ on
  alphabet : ¬('a' ∈ on ∧ 'u' ∈ on)

theorem FlagsFit.nil : FlagsFit [] := ⟨by simp, by simp⟩

/-- What ends a list of flags. -/
def IsStop (stop : Char) : Prop := stop = ')' ∨ stop = ':'

/-- What stands after a question mark and is no flag, or ends a list of flags. -/
def flagMarks : List Char := ['P', ':', '#', '=', '!', '<', '(', '>'] ++ [')', '-']

/-- The letters at the start are not the flag of templates, and have no other meaning. -/
theorem isLeadingFlag_cases {c : Char} (h : isLeadingFlag c = true) : c ≠ 't' ∧ c ∉ flagMarks := by
  have hall : "aiLmsux".toList.all (fun d => d != 't' && !flagMarks.contains d) = true := by decide
  simpa using List.all_eq_true.mp hall c (by simpa [isLeadingFlag] using h)

/-- Flags of one alphabet have no other alphabet among them. -/
theorem FlagsFit.cons {c : Char} {on : List Char} (h : FlagsFit on) (ht : c ≠ 't')
    (hclash : (isAlphabetFlag c && on.any fun d => isAlphabetFlag d && d != c) = false) :
    FlagsFit (c :: on) := by
  refine ⟨fun hmem => ?_, fun hmem => ?_⟩
  · rcases List.mem_cons.mp hmem with rfl | hmem
    · exact ht rfl
    · exact h.template hmem
  · have hother : isAlphabetFlag c = true → ∀ d ∈ on, isAlphabetFlag d = true → d = c := by
      simpa using hclash
    obtain ⟨ha, hu⟩ := hmem
    rcases List.mem_cons.mp ha with rfl | ha'
    · exact absurd (hother rfl 'u' (by simpa using hu) rfl) (by decide)
    · rcases List.mem_cons.mp hu with rfl | hu'
      · exact absurd (hother rfl 'a' ha' rfl) (by decide)
      · exact h.alphabet ⟨ha', hu'⟩

/-- Whether letters are flags does not depend on what ends their list. -/
theorem flagsOn_letters {letters found : List Char}
    (hletters : ∀ c ∈ letters, isLeadingFlag c = true) (hne : found ≠ [] ∨ letters ≠ [])
    (hfit : FlagsFit found) :
    (∀ stop ts, IsStop stop →
      flagsOn found (letters.map .plain ++ .plain stop :: ts) = .error .malformed) ∨
    ∃ on, FlagsFit on ∧ ∀ stop ts, IsStop stop →
      flagsOn found (letters.map .plain ++ .plain stop :: ts) = .ok (on, stop, ts) := by
  induction letters generalizing found with
  | nil =>
    refine .inr ⟨found, hfit, fun stop ts hstop => ?_⟩
    have hfound : found ≠ [] := hne.resolve_right fun h => h rfl
    rcases hstop with rfl | rfl <;> simp [flagsOn, hfound]
  | cons c letters ih =>
    obtain ⟨hc, hletters⟩ := List.forall_mem_cons.mp hletters
    obtain ⟨ht, hmark⟩ := isLeadingFlag_cases hc
    have hgo : ¬(!found.isEmpty && (c == ')' || c == '-' || c == ':')) = true := by
      rw [Bool.and_eq_true, not_and]
      intro _ hstop
      simp only [Bool.or_eq_true, beq_iff_eq] at hstop
      rcases hstop with (rfl | rfl) | rfl <;> exact absurd hmark (by decide)
    by_cases hlocale : (!isFlagLetter c || c == 'L') = true
    · refine .inl fun stop ts _ => ?_
      rw [List.map_cons, List.cons_append, flagsOn, if_neg hgo, if_pos hlocale]
    by_cases hclash : (isAlphabetFlag c && found.any fun d => isAlphabetFlag d && d != c) = true
    · refine .inl fun stop ts _ => ?_
      rw [List.map_cons, List.cons_append, flagsOn, if_neg hgo, if_neg hlocale, if_pos hclash]
    have hmore : ∀ stop ts, flagsOn found ((c :: letters).map .plain ++ .plain stop :: ts)
        = flagsOn (c :: found) (letters.map .plain ++ .plain stop :: ts) := by
      intro stop ts
      rw [List.map_cons, List.cons_append, flagsOn, if_neg hgo, if_neg hlocale, if_neg hclash]
    simp only [hmore]
    exact ih hletters (.inl (List.cons_ne_nil _ _))
      (hfit.cons ht (Bool.eq_false_iff.mpr hclash))

/-- **Flags at the start** are flags of the whole expression or of a group, or malformed in both
places. -/
theorem lex_letters {letters : List Char} (hletters : ∀ c ∈ letters, isLeadingFlag c = true)
    (hne : letters ≠ []) (f : Flags) :
    (∀ stop ts, IsStop stop → lex f (.plain '(') (.plain '?' ::
      (letters.map .plain ++ .plain stop :: ts)) = .error .malformed) ∨
    ∃ on, FlagsFit on ∧
      (∀ ts, lex f (.plain '(') (.plain '?' :: (letters.map .plain ++ .plain ')' :: ts))
        = .ok (.flags on, ts)) ∧
      ∀ ts, lex f (.plain '(') (.plain '?' :: (letters.map .plain ++ .plain ':' :: ts))
        = .ok (.flagged on [], ts) := by
  obtain ⟨c, letters, rfl⟩ := List.exists_cons_of_ne_nil hne
  obtain ⟨-, hmark⟩ := isLeadingFlag_cases (hletters c List.mem_cons_self)
  have hread : ∀ stop ts, lex f (.plain '(') (.plain '?' ::
      ((c :: letters).map .plain ++ .plain stop :: ts))
      = (flagsOn [] ((c :: letters).map .plain ++ .plain stop :: ts)).bind fun x =>
        (afterFlags (x.1, x.2.1) x.2.2).map fun y => (flagConstruct y.1, y.2) := by
    intro stop ts
    have hne : ∀ d ∈ flagMarks, ∀ rest,
        (c :: letters).map .plain ++ .plain stop :: ts ≠ .plain d :: rest := by
      rintro d hd rest heq
      obtain ⟨heq, -⟩ := List.cons_eq_cons.mp heq
      exact hmark (Token.plain.inj heq ▸ hd)
    have hopen : ∀ us, lex f (.plain '(') (.plain '?' :: us) = lexExtension us := fun us => by
      simp [lex, lexPlain]
    rw [hopen, lexExtension_flags fun d hd => hne d (List.mem_append_left _ hd),
      flagChange_plain (hne '-' (by decide))]
    generalize flagsOn [] _ = x
    rcases x with e | x <;> rfl
  rcases flagsOn_letters hletters (.inr hne) .nil with herror | ⟨on, hfit, hon⟩
  · refine .inl fun stop ts hstop => ?_
    rw [hread, herror stop ts hstop]
    rfl
  · refine .inr ⟨on, hfit, fun ts => ?_, fun ts => ?_⟩
    · rw [hread, hon _ ts (.inl rfl)]
      rfl
    · rw [hread, hon _ ts (.inr rfl)]
      simp [Except.bind, afterFlags, hfit.template, Except.map, flagConstruct]

/-! ### The end of the group -/

theorem finish_eq {q : Reading} (hclosed : q.below = []) (hfit : FlagsFit q.wholeFlags) :
    q.finish = if q.asked.any (· > q.groups) || !(Node.ofList q.top.content).lookBehindsFixed
      then .error .malformed else .ok (.ofList q.top.content) := by
  have halphabet : (q.wholeFlags.contains 'a' && q.wholeFlags.contains 'u') = false := by
    simpa using hfit.alphabet
  have htemplate : q.wholeFlags.contains 't' = false := by simpa using hfit.template
  simp only [Reading.finish, hclosed, halphabet, htemplate, List.isEmpty_nil, Bool.not_true,
    Bool.false_and, Bool.false_eq_true, if_false]
  rcases q.asked.any (· > q.groups) <;> rcases (Node.ofList q.top.content).lookBehindsFixed <;> rfl

/-- What has been read in a group is as good as what has been read on its own. -/
structure Reading.SameAs (q own : Reading) : Prop where
  closed : q.below = []
  wholeFlags : q.wholeFlags = []
  asked : q.asked = own.asked
  groups : q.groups = own.groups
  fixed : (Node.ofList q.top.content).lookBehindsFixed
    = (Node.ofList own.top.content).lookBehindsFixed
  search (v : List Char) :
    (Node.ofList q.top.content).search v = (Node.ofList own.top.content).search v

/-- Once it is closed, the group is as good as its content. -/
def Enclosure.IsTransparent (x : Enclosure) : Prop :=
  ∀ own : Reading, own.below = [] → ∃ q,
    Reads (own.within x) (List.replicate x.outer.length (.plain ')')) q [] ∧ q.SameAs own

/-- An expression as a group. -/
def plainEnclosure (f : Flags) : Enclosure where
  opening := .plain
  outer := [{ opening := .whole, flags := f }]
  isConditional_eq := rfl
  outer_ne := List.cons_ne_nil _ _

/-- An expression as a group with flags, and that as a group. -/
def flaggedEnclosure (f : Flags) : Enclosure where
  opening := .scoped
  outer := [{ opening := .plain, flags := f }, { opening := .whole, flags := f }]
  isConditional_eq := rfl
  outer_ne := List.cons_ne_nil _ _

/-- A group in which there is nothing but one piece. -/
theorem content_single (opening : Opening) (flags : Flags) (p : Piece) :
    Frame.content { opening, flags, pieces := [p] } = p.nodes := by
  simp [Frame.content, Frame.current, joinAlternatives]

theorem plainEnclosure_isTransparent (f : Flags) : (plainEnclosure f).IsTransparent := by
  rintro ⟨top, below, groups, widths, names, bound, asked, wholeFlags⟩ rfl
  refine ⟨_, .cons (lex_close _ _) rfl (.refl _ _), ?_⟩
  have hcontent := content_single .whole f (.spliced top.content)
  exact ⟨rfl, rfl, rfl, rfl, congrArg (Node.lookBehindsFixed ∘ Node.ofList) hcontent,
    fun v => congrArg (fun ns => (Node.ofList ns).search v) hcontent⟩

/-- A group that keeps no text is found where its content is. -/
theorem search_group_none (n : Node) (v : List Char) :
    (Node.ofList [.group none n]).search v = n.search v := by
  rw [Bool.eq_iff_iff, Node.search_iff, Node.search_iff]
  simp only [Node.ways_ofList_singleton, Node.ways]

theorem flaggedEnclosure_isTransparent (f : Flags) : (flaggedEnclosure f).IsTransparent := by
  rintro ⟨top, below, groups, widths, names, bound, asked, wholeFlags⟩ rfl
  refine ⟨_, .cons (lex_close _ _) rfl (.cons (lex_close _ _) rfl (.refl _ _)), ?_⟩
  let n : Node := .group none (.ofList top.content)
  have hinner := content_single .plain f (.node n)
  have hcontent := (content_single .whole f (.spliced (Frame.content
    { opening := .plain, flags := f, pieces := [.node n] }))).trans hinner
  have hfixed : (Node.ofList [n]).lookBehindsFixed = (Node.ofList top.content).lookBehindsFixed :=
    Bool.and_true _
  exact ⟨rfl, rfl, rfl, rfl,
    (congrArg (Node.lookBehindsFixed ∘ Node.ofList) hcontent).trans hfixed,
    fun v => (congrArg (fun ns => (Node.ofList ns).search v) hcontent).trans
      (search_group_none _ v)⟩

/-! ### The group and the expression -/

/-- The group is read if the expression is and nothing in it would not do in a group, and then
they match alike. -/
inductive Enclosed (quiet : Prop) (own group : Except Error Node) : Prop
  | read {n m : Node} (hquiet : quiet) (hown : own = .ok n) (hgroup : group = .ok m)
      (hsearch : ∀ v, m.search v = n.search v)
  | unread (hown : quiet → ∀ n, own ≠ .ok n) (hgroup : ∀ n, group ≠ .ok n)

theorem parse_of_reads {f : Flags} {s : List Char} {q : Reading}
    (h : Reads (.start f) (tokenize s) q []) : parse f s = q.finish := by
  have hall : readAll (tokenize s).length { top := { opening := .whole, flags := f } } (tokenize s)
      = .ok q := h.readAll_eq (Nat.le_refl _)
  simp only [parse, bind, Except.bind, hall]

/-- The content `s` is read from the start `r` on its own, and from there in the group. -/
theorem Enclosed.of_reads {x : Enclosure} (hx : x.IsTransparent) {f : Flags} {p e s : List Char}
    {r : Reading} (hr : r.Rooted) (hfit : FlagsFit r.wholeFlags)
    (hown : ∀ q, Reads (.start f) (tokenize p) q [] ↔ Reads r (tokenize s) q [])
    (hgroup : ∀ q, Reads (.start f) (tokenize e) q [] ↔
      Reads (r.within x) (tokenize (s ++ List.replicate x.outer.length ')')) q [])
    {fuel : Nat} (hfuel : (tokenize s).length ≤ fuel)
    (hstray : ∀ m ∈ momentsFrom fuel r (tokenize s), m.isStrayClose = false) :
    Enclosed (Quiet fuel r (tokenize s)) (parse f p) (parse f e) := by
  obtain ⟨ts, v, w, hend, hs, hclosed⟩ := exists_ending x s
  rw [hs] at hfuel hstray hown ⊢
  rw [hclosed] at hgroup
  cases together hend hfuel hr hstray with
  | @read q hw hq hflags hquiet hread hin =>
    subst hw
    obtain rfl : v = List.replicate x.outer.length (.plain ')') := by
      cases hend
      rfl
    obtain ⟨q', hclose, hsame⟩ := hx q hq
    have hparse : parse f p = q.finish :=
      parse_of_reads ((hown q).mpr (by rwa [List.append_nil]))
    have hparse' : parse f e = q'.finish := parse_of_reads ((hgroup q').mpr (hin.trans hclose))
    rw [hparse, hparse', finish_eq hq (hflags ▸ hfit),
      finish_eq hsame.closed (hsame.wholeFlags ▸ .nil), hsame.asked, hsame.groups, hsame.fixed]
    split
    · exact .unread (fun _ _ h => by cases h) fun _ h => by cases h
    · exact .read hquiet rfl rfl hsame.search
  | unread hunread hin =>
    refine .unread (fun hquiet n hn => ?_) fun n hn => ?_
    · obtain ⟨q, hq, hfinish⟩ := parse_eq_ok_iff.mp hn
      exact hunread hquiet q ⟨(hown q).mp hq, (finish_eq_ok hfinish).1⟩
    · obtain ⟨q, hq, hfinish⟩ := parse_eq_ok_iff.mp hn
      exact hin q ⟨(hgroup q).mp hq, (finish_eq_ok hfinish).1⟩

theorem Enclosed.congr {quiet quiet' : Prop} {own group : Except Error Node}
    (hquiet : quiet ↔ quiet') (h : Enclosed quiet own group) : Enclosed quiet' own group := by
  cases h with
  | read hq hown hgroup hsearch => exact .read (hquiet.mp hq) hown hgroup hsearch
  | unread hown hgroup => exact .unread (fun hq => hown (hquiet.mpr hq)) hgroup

/-- A group is read from its content on. -/
theorem reads_grouped_iff {f : Flags} {s : List Char} {q : Reading} :
    Reads (.start f) (tokenize (grouped s)) q [] ↔
      Reads ((Reading.start f).enter .plain f) (tokenize (s ++ [')'])) q [] := by
  have htokens : tokenize (grouped s)
      = .plain '(' :: .plain '?' :: .plain ':' :: tokenize (s ++ [')']) := by
    rw [← tokenize_cons (by decide), ← tokenize_cons (by decide), ← tokenize_cons (by decide)]
    rfl
  rw [htokens]
  exact Reads.cons_iff (c := .plain) (by simp [lex, lexPlain, lexExtension]) rfl

theorem tokenize_letters {letters : List Char} (hletters : ∀ c ∈ letters, isLeadingFlag c = true)
    (s : List Char) : tokenize (letters ++ s) = letters.map .plain ++ tokenize s := by
  induction letters with
  | nil => rfl
  | cons c letters ih =>
    obtain ⟨hc, hletters⟩ := List.forall_mem_cons.mp hletters
    have hne : c ≠ '\\' := by
      rintro rfl
      exact absurd hc (by decide)
    rw [List.cons_append, tokenize_cons hne, ih hletters]
    rfl

/-- The expression closes no group that it did not open. -/
def ClosesOwn (f : Flags) (s : List Char) : Prop := ∀ m ∈ moments f s, m.isStrayClose = false

instance (f : Flags) (s : List Char) : Decidable (ClosesOwn f s) := List.decidableBAll _ _

/-- Flags of the whole expression are set at its start only and can be made those of a group, and
no comment goes on to its end. -/
def Scopeable (f : Flags) (s : List Char) : Prop :=
  ∀ m ∈ moments f s, m.isOpenComment = false ∧
    (m.setsFlags = true → scopeFlags s ≠ s ∧ m.tokens = tokenize s)

instance (f : Flags) (s : List Char) : Decidable (Scopeable f s) := List.decidableBAll _ _

section Scope

variable {f : Flags} {s : List Char}

/-- Without flags at its start that can be made those of a group, an expression is made a group
as it is. -/
theorem enclosed_grouped (h : ClosesOwn f s) (hs : scopeFlags s = s) :
    Enclosed (Scopeable f s) (parse f s) (parse f (grouped s)) := by
  have henclosed : Enclosed (Quiet (tokenize s).length (.start f) (tokenize s)) (parse f s)
      (parse f (grouped s)) :=
    .of_reads (plainEnclosure_isTransparent f) (.start f) .nil (fun _ => .rfl)
      (fun _ => reads_grouped_iff) (Nat.le_refl _) h
  refine henclosed.congr (forall₂_congr fun m hm => ?_)
  simp [Moment.isQuiet, hs, and_comm]

/-- **Flags at the start** of an expression can be made those of a group. -/
theorem enclosed_letters {letters body : List Char}
    (hletters : ∀ c ∈ letters, isLeadingFlag c = true) (hne : letters ≠ [])
    (hs : s = '(' :: '?' :: letters ++ ')' :: body)
    (hscoped : scopeFlags s = '(' :: '?' :: letters ++ ':' :: body ++ [')'])
    (hs' : scopeFlags s ≠ s) (h : ClosesOwn f s) :
    Enclosed (Scopeable f s) (parse f s) (parse f (grouped (scopeFlags s))) := by
  have htokens : ∀ stop rest, stop ≠ '\\' → tokenize ('(' :: '?' :: letters ++ stop :: rest)
      = .plain '(' :: .plain '?' :: (letters.map .plain ++ .plain stop :: tokenize rest) := by
    intro stop rest hstop
    rw [List.cons_append, List.cons_append, tokenize_cons (by decide), tokenize_cons (by decide),
      tokenize_letters hletters, tokenize_cons hstop]
  have hown : tokenize s = .plain '(' :: .plain '?' ::
      (letters.map .plain ++ .plain ')' :: tokenize body) := by
    rw [hs, htokens ')' body (by decide)]
  have hgroup : tokenize (scopeFlags s ++ [')']) = .plain '(' :: .plain '?' ::
      (letters.map .plain ++ .plain ':' :: tokenize (body ++ List.replicate 2 ')')) := by
    rw [hscoped, ← htokens ':' _ (by decide)]
    simp
  rcases lex_letters hletters hne f with herror | ⟨on, hfit, hflags, hflagged⟩
  -- no flags in either place
  · refine .unread (fun _ n hn => ?_) fun n hn => ?_
    · obtain ⟨q, hq, -⟩ := parse_eq_ok_iff.mp hn
      rw [hown] at hq
      obtain ⟨c, rest, r', hlex, -⟩ := hq.exists_of_cons
      cases (herror ')' _ (.inl rfl)).symm.trans hlex
    · obtain ⟨q, hq, -⟩ := parse_eq_ok_iff.mp hn
      rw [reads_grouped_iff, hgroup] at hq
      obtain ⟨c, rest, r', hlex, -⟩ := hq.exists_of_cons
      cases (herror ':' _ (.inr rfl)).symm.trans hlex
  let r : Reading := { Reading.start (f.change on []) with wholeFlags := on ++ [] }
  have happly : (Reading.start f).apply (.flags on) = .ok r := rfl
  have hmoments : moments f s = ⟨.start f, tokenize s⟩ ::
      momentsFrom ((tokenize s).length - 1) r (tokenize body) := by
    rw [moments, hown]
    exact momentsFrom_cons (hflags (tokenize body)) happly
  have hlt : (tokenize body).length < (tokenize s).length := by
    rw [hown]
    simp only [List.length_cons, List.length_append]
    omega
  rw [ClosesOwn, hmoments, List.forall_mem_cons] at h
  have henclosed : Enclosed (Quiet ((tokenize s).length - 1) r (tokenize body)) (parse f s)
      (parse f (grouped (scopeFlags s))) := by
    refine .of_reads (flaggedEnclosure_isTransparent f) (r := r) List.suffix_rfl
      (show FlagsFit (on ++ []) by rwa [List.append_nil]) (fun q => ?_) (fun q => ?_) (by omega) h.2
    · rw [hown]
      exact Reads.cons_iff (hflags _) happly
    · rw [reads_grouped_iff, hgroup]
      exact Reads.cons_iff (hflagged _) rfl
  refine henclosed.congr ?_
  rw [Scopeable, hmoments, List.forall_mem_cons]
  have hfirst : (Moment.mk (.start f) (tokenize s)).isOpenComment = false := by
    rw [hown]
    simp [Moment.isOpenComment]
  refine (forall₂_congr fun m hm => ?_).trans (and_iff_right ⟨hfirst, fun _ => ⟨hs', rfl⟩⟩).symm
  have hshort : m.tokens ≠ tokenize s := fun heq => by
    have hle := length_tokens_le hm
    rw [heq] at hle
    omega
  simp [Moment.isQuiet, hshort, and_comm]

end Scope

end SigmaRules.Regex
