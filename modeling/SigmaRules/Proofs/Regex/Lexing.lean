/-
SigmaRules/Proofs/Regex/Lexing.lean

Constructs are read by steady readers (`lex_cases`), but for two of them.

* A count can be too large.  That is the only failure of another kind, so a
  construct is read or malformed without such counts (`eq_malformed_of_lex`).
* Where blanks are left out, a comment goes on to the end of the line, beyond
  the end of the group (`lex_append`).
-/
import SigmaRules.Proofs.Regex.Base
import SigmaRules.Proofs.Regex.Steady

namespace SigmaRules.Regex

open Text

/-! ### Counts -/

theorem takeGreed_append {us : List Token} (hus : Ends us) (ts : List Token) :
    takeGreed (ts ++ us) = ((takeGreed ts).1, (takeGreed ts).2 ++ us) := by
  by_cases hq : ∃ rest, ts = .plain '?' :: rest
  · obtain ⟨rest, rfl⟩ := hq
    rfl
  by_cases hp : ∃ rest, ts = .plain '+' :: rest
  · obtain ⟨rest, rfl⟩ := hp
    rfl
  have hq' : ∀ rest, ts ≠ .plain '?' :: rest := fun rest heq => hq ⟨rest, heq⟩
  have hp' : ∀ rest, ts ≠ .plain '+' :: rest := fun rest heq => hp ⟨rest, heq⟩
  rw [takeGreed, takeGreed]
  · exact hq'
  · exact hp'
  · exact hus.append_ne (by decide) hq'
  · exact hus.append_ne (by decide) hp'

theorem takeGreed_suffix (ts : List Token) : (takeGreed ts).2 <:+ ts := by
  unfold takeGreed
  split
  · exact List.suffix_cons _ _
  · exact List.suffix_cons _ _
  · exact List.suffix_rfl

theorem steady_lexTimes (lo : Nat) (hi : Option Nat) (ts : List Token) :
    Steady (fun ts => .ok (lexTimes lo hi ts)) ts :=
  .done (a := .times lo hi (takeGreed ts).1) (takeGreed_suffix ts) fun us hus => by
    simp only [lexTimes, takeGreed_append hus]

/-! ### Constructs -/

/-- Without two more octal digits, an escaped digit starts a reference. -/
theorem lexNumber_reference {c : Char} {ts : List Token}
    (h : ∀ a b d, octalDigit? c = some a → (takeDigits octalDigit? 2 ts).1 ≠ [b, d]) :
    lexNumber c ts = .ok (.reference (.number (numberOf 10 ((decimalDigit? c).getD 0 ::
      (takeDigits decimalDigit? 1 ts).1))), (takeDigits decimalDigit? 1 ts).2) := by
  unfold lexNumber
  simp only

theorem steady_lexNumber (c : Char) (ts : List Token) : Steady (lexNumber c) ts := by
  have hoctal : ∀ us, Ends us → takeDigits octalDigit? 2 (ts ++ us)
      = ((takeDigits octalDigit? 2 ts).1, (takeDigits octalDigit? 2 ts).2 ++ us) :=
    fun us hus => takeDigits_append (by decide) (by decide) hus 2 ts
  by_cases h : ∃ a b d, octalDigit? c = some a ∧ (takeDigits octalDigit? 2 ts).1 = [b, d]
  · obtain ⟨a, b, d, ha, hbd⟩ := h
    by_cases hn : numberOf 8 [a, b, d] ≤ 0o377
    · refine .done (a := .literal (numberOf 8 [a, b, d])) (takeDigits_suffix octalDigit? 2 ts)
        fun us hus => ?_
      simp only [lexNumber, ha, hoctal us hus, hbd, if_pos hn]
    · exact .fail fun us hus => by simp only [lexNumber, ha, hoctal us hus, hbd, if_neg hn]
  · have hreference : ∀ a b d, octalDigit? c = some a → (takeDigits octalDigit? 2 ts).1 ≠ [b, d] :=
      fun a b d ha hbd => h ⟨a, b, d, ha, hbd⟩
    refine .done (a := .reference (.number (numberOf 10 ((decimalDigit? c).getD 0 ::
      (takeDigits decimalDigit? 1 ts).1)))) (takeDigits_suffix decimalDigit? 1 ts) fun us hus => ?_
    rw [lexNumber_reference, takeDigits_append (by decide) (by decide) hus 1 ts]
    simpa only [hoctal us hus] using hreference

theorem steady_lexEscape (f : Flags) (c : Char) (ts : List Token) : Steady (lexEscape f c) ts := by
  unfold lexEscape
  split
  case h_5 => exact (steady_octal 2 ts).map fun ds => Construct.literal (numberOf 8 ds)
  case h_6 =>
    rcases classEscape? c with - | ⟨k, negated⟩
    · rcases controlEscape? c with - | n
      · rcases codeEscape_cases c with hcode | ⟨g, hg, hcode⟩
        · simp only [hcode]
          by_cases hdigit : (decimalDigit? c).isSome = true
          · simpa only [if_pos hdigit] using steady_lexNumber c ts
          by_cases hletter : isAsciiLetter c = true
          · exact .fail fun us _ => by simp only [if_neg hdigit, if_pos hletter]
          · exact .done (a := .literal c.toNat) List.suffix_rfl fun us _ => by
              simp only [if_neg hdigit, if_neg hletter]
        · simp only [hcode]
          exact (hg ts).map Construct.literal
      · exact .done List.suffix_rfl fun _ _ => rfl
    · exact .done List.suffix_rfl fun _ _ => rfl
  all_goals exact .done List.suffix_rfl fun _ _ => rfl

theorem steady_referent? (text : List Char) (ts : List Token) :
    Steady (fun ts => (referent? text).map fun x => (Construct.conditional x, ts)) ts := by
  unfold referent?
  split
  · exact .done List.suffix_rfl fun _ _ => rfl
  · split
    · exact .done List.suffix_rfl fun _ _ => rfl
    · exact .fail fun _ _ => rfl

theorem steady_nameIn (stop : Char) (x : List Char → Construct) (ts : List Token) :
    Steady (fun ts => (readName stop ts).bind fun y =>
      if isName y.1 then .ok (x y.1, y.2) else .error .malformed) ts :=
  (steady_readName stop ts).bind fun name => .guard (isName name = true) (x name)

/-- A group with flags, or flags of the whole expression. -/
def flagConstruct : FlagChange → Construct
  | .group on off => .flagged on off
  | .whole on => .flags on

/-- What no other mark starts is a change of flags. -/
theorem lexExtension_flags {ts : List Token}
    (h : ∀ c ∈ ['P', ':', '#', '=', '!', '<', '(', '>'], ∀ rest, ts ≠ .plain c :: rest) :
    lexExtension ts = (flagChange ts).map fun x => (flagConstruct x.1, x.2) := by
  simp only [List.forall_mem_cons] at h
  obtain ⟨hP, hcolon, hhash, heq, hbang, hless, hopen, hgreater, -⟩ := h
  rw [lexExtension]
  · rcases flagChange ts with e | ⟨⟨on, off⟩ | on, rest⟩ <;> rfl
  · exact fun rest => hP _
  · exact fun rest => hP _
  · exact hcolon
  · exact hhash
  · exact heq
  · exact hbang
  · exact fun c rest => hless _
  · exact hopen
  · exact hgreater

/-- After a `P` there is a name, in brackets or after an equality sign. -/
theorem lexExtension_P {ts : List Token} (hname : ∀ rest, ts ≠ .plain '<' :: rest)
    (hreference : ∀ rest, ts ≠ .plain '=' :: rest) :
    lexExtension (.plain 'P' :: ts) = .error .malformed := by
  rw [lexExtension]
  · rfl
  · exact fun rest heq => hname rest (List.cons_eq_cons.mp heq).2
  · exact fun rest heq => hreference rest (List.cons_eq_cons.mp heq).2
  all_goals simp

/-- The `<` of a look-behind stands before a plain token. -/
theorem lexExtension_less {ts : List Token} (h : ∀ c rest, ts ≠ .plain c :: rest) :
    lexExtension (.plain '<' :: ts) = .error .malformed := by
  rw [lexExtension]
  · rfl
  case x_7 => exact fun c rest heq => h c rest (List.cons_eq_cons.mp heq).2
  all_goals simp

/-- Neither a bar nor a closing parenthesis makes a look-behind. -/
theorem lexExtension_less_ends {us : List Token} (hus : Ends us) :
    lexExtension (.plain '<' :: us) = .error .malformed := by
  rcases us with - | ⟨c | c | -, us⟩
  · exact lexExtension_less fun _ _ => by simp
  · rcases hus c rfl with rfl | rfl <;> rfl
  · exact lexExtension_less fun _ _ => by simp
  · exact lexExtension_less fun _ _ => by simp

theorem steady_lexExtension (ts : List Token) : Steady lexExtension ts := by
  by_cases hmark : ∃ c ∈ ['P', ':', '#', '=', '!', '<', '(', '>'], ∃ rest, ts = .plain c :: rest
  · obtain ⟨c, hc, ts, rfl⟩ := hmark
    have hrest : ts <:+ Token.plain c :: ts := List.suffix_cons _ ts
    simp only [List.mem_cons, List.not_mem_nil, or_false] at hc
    rcases hc with rfl | rfl | rfl | rfl | rfl | rfl | rfl | rfl
    · by_cases hname : ∃ rest, ts = .plain '<' :: rest
      · obtain ⟨rest, rfl⟩ := hname
        exact .of_eq ((List.suffix_cons _ rest).trans hrest) (fun _ _ => rfl)
          (steady_nameIn '>' (fun name => .capture (some name)) rest)
      by_cases hreference : ∃ rest, ts = .plain '=' :: rest
      · obtain ⟨rest, rfl⟩ := hreference
        exact .of_eq ((List.suffix_cons _ rest).trans hrest) (fun _ _ => rfl)
          (steady_nameIn ')' (fun name => .reference (.name name)) rest)
      · exact .fail fun us hus => lexExtension_P
          (hus.append_ne (by decide) fun rest heq => hname ⟨rest, heq⟩)
          (hus.append_ne (by decide) fun rest heq => hreference ⟨rest, heq⟩)
    · exact .done hrest fun _ _ => rfl
    · refine .of_eq hrest (fun us _ => ?_) ((steady_skipComment ts).map fun _ => Construct.nothing)
      simp only [List.cons_append, lexExtension]
      rcases skipComment (ts ++ us) with e | rest <;> rfl
    · exact .done hrest fun _ _ => rfl
    · exact .done hrest fun _ _ => rfl
    · by_cases hbehind : ∃ c rest, ts = .plain c :: rest
      · obtain ⟨c, rest, rfl⟩ := hbehind
        exact .of_eq ((List.suffix_cons _ rest).trans hrest) (fun _ _ => rfl)
          (.guard ((c == '=' || c == '!') = true) (.behind (c == '!')) rest)
      · refine .fail fun us hus => ?_
        rcases ts with - | ⟨c | c | -, ts⟩
        · exact lexExtension_less_ends hus
        · exact absurd ⟨c, ts, rfl⟩ hbehind
        · exact lexExtension_less fun _ _ => by simp
        · exact lexExtension_less fun _ _ => by simp
    · refine .of_eq hrest (fun us _ => ?_) ((steady_readName ')' ts).bind steady_referent?)
      simp only [List.cons_append, lexExtension]
      rcases readName ')' (ts ++ us) with e | ⟨text, rest⟩
      · rfl
      · simp only [bind, Except.bind]
        rcases referent? text with e | x <;> rfl
    · exact .done hrest fun _ _ => rfl
  · have hflags : ∀ c ∈ ['P', ':', '#', '=', '!', '<', '(', '>'], ∀ rest, ts ≠ .plain c :: rest :=
      fun c hc rest heq => hmark ⟨c, hc, rest, heq⟩
    have hends : ∀ c ∈ ['P', ':', '#', '=', '!', '<', '(', '>'], c ≠ '|' ∧ c ≠ ')' := by simp
    exact .of_eq List.suffix_rfl (fun us hus => lexExtension_flags fun c hc =>
      hus.append_ne (hends c hc) (hflags c hc)) ((steady_flagChange ts).map flagConstruct)

/-- Nothing after a parenthesis and a question mark closes a group or is a test of one
character. -/
theorem lexExtension_ne {ts rest : List Token} {c : Construct}
    (hc : c = .close ∨ ∃ u, c = .char u) :
    lexExtension ts ≠ .ok (c, rest) := by
  have hne : ∀ d after, (Except.ok (d, after) : Except Error (Construct × List Token))
      = .ok (c, rest) → d = .close ∨ ∃ u, d = .char u := by
    intro d after h
    rwa [(Prod.mk.inj (Except.ok.inj h)).1]
  intro h
  unfold lexExtension at h
  split at h
  case h_1 | h_2 =>
    obtain ⟨⟨name, after⟩, -, h⟩ := exists_of_bind_eq_ok h
    simp only at h
    split at h
    · simpa using hne _ _ h
    · cases h
  case h_4 =>
    obtain ⟨x, -, hx⟩ := exists_of_map_eq_ok h
    simpa using hne _ _ (congrArg Except.ok hx)
  case h_7 =>
    split at h
    · simpa using hne _ _ h
    · cases h
  case h_8 =>
    obtain ⟨⟨text, after⟩, -, h⟩ := exists_of_bind_eq_ok h
    obtain ⟨x, -, h⟩ := exists_of_bind_eq_ok h
    simpa using hne _ _ h
  case h_10 =>
    obtain ⟨⟨change, after⟩, -, h⟩ := exists_of_bind_eq_ok h
    rcases change with ⟨on, off⟩ | on
    · simpa using hne _ _ h
    · simpa using hne _ _ h
  all_goals simpa using hne _ _ h

/-! ### Steps -/

/-- A brace and the count after it, if there is one. -/
def lexBrace (ts : List Token) : Except Error (Construct × List Token) :=
  (readCounts ts).map fun
    | some ((lo, hi), rest) => lexTimes lo hi rest
    | none => (.literal '{'.toNat, ts)

/-- The start of a group, with or without a mark. -/
theorem steady_open (f : Flags) (ts : List Token) : Steady (lexPlain f '(') ts := by
  by_cases h : ∃ rest, ts = .plain '?' :: rest
  · obtain ⟨rest, rfl⟩ := h
    exact .of_eq (List.suffix_cons _ rest) (fun _ _ => rfl) (steady_lexExtension rest)
  · have h' : ∀ rest, ts ≠ .plain '?' :: rest := fun rest heq => h ⟨rest, heq⟩
    refine .done (a := .capture none) List.suffix_rfl fun us hus => ?_
    have hus' := hus.append_ne (c := '?') (by decide) h'
    simp only [lexPlain]

theorem steady_lexPlain (f : Flags) {c : Char} (hc : c ≠ '{') (ts : List Token) :
    Steady (lexPlain f c) ts := by
  by_cases hopen : c = '('
  · subst hopen
    exact steady_open f ts
  unfold lexPlain
  split
  case h_3 => exact absurd rfl hopen
  case h_4 => exact (steady_bracketed { f with ignoreCase := false } ts).map Construct.char
  case h_5 => exact steady_lexTimes 0 (some 1) ts
  case h_6 => exact steady_lexTimes 0 none ts
  case h_7 => exact steady_lexTimes 1 none ts
  case h_8 => exact absurd rfl hc
  all_goals exact .done List.suffix_rfl fun _ _ => rfl

/-! ### Comments to the end of the line -/

theorem skipLine_suffix {ts rest : List Token} (h : skipLine ts = .ok rest) : rest <:+ ts := by
  fun_induction skipLine ts with
  | case1 => exact (Except.ok.inj h) ▸ List.suffix_rfl
  | case2 ts => exact (Except.ok.inj h) ▸ List.suffix_cons _ ts
  | case3 => cases h
  | case4 t ts _ _ ih => exact (ih h).trans (List.suffix_cons t ts)

/-- A comment that does not go on to the end of the tokens ends where it does with any tokens
after them. -/
theorem skipLine_append {ts rest : List Token} (hline : .plain '\n' ∈ ts) (h : skipLine ts = .ok rest)
    (us : List Token) : skipLine (ts ++ us) = .ok (rest ++ us) := by
  fun_induction skipLine ts with
  | case1 => cases hline
  | case2 ts => rw [← Except.ok.inj h]; rfl
  | case3 => cases h
  | case4 t ts hfeed hdangling ih =>
    have hmem := (List.mem_cons.mp hline).resolve_left fun heq => hfeed heq.symm
    rw [List.cons_append, skipLine]
    · exact ih hmem h
    · exact hfeed
    · exact hdangling

theorem eq_nil_of_skipLine {ts rest : List Token} (hline : .plain '\n' ∉ ts)
    (h : skipLine ts = .ok rest) : rest = [] := by
  fun_induction skipLine ts with
  | case1 => exact (Except.ok.inj h).symm
  | case2 => exact absurd List.mem_cons_self hline
  | case3 => cases h
  | case4 t ts _ _ ih => exact ih (fun hmem => hline (List.mem_cons_of_mem t hmem)) h

/-- What a backslash at the very end makes malformed is so with any tokens after it. -/
theorem skipLine_error {ts : List Token} {e : Error} (h : skipLine ts = .error e)
    (us : List Token) : e = .malformed ∧ skipLine (ts ++ us) = .error .malformed := by
  fun_induction skipLine ts with
  | case1 => cases h
  | case2 => cases h
  | case3 => exact ⟨(Except.error.inj h).symm, rfl⟩
  | case4 t ts hfeed hdangling ih =>
    rw [List.cons_append, skipLine]
    · exact ih h
    · exact hfeed
    · exact hdangling

/-! ### All constructs -/

/-- Constructs are read by steady readers, but for counts and for comments to the end of the
line. -/
theorem lex_cases (f : Flags) (t : Token) :
    (∀ ts, Steady (lex f t) ts) ∨ (t = .plain '{' ∧ ∀ ts, lex f t ts = lexBrace ts) ∨
      (t = .plain '#' ∧ f.verbose = true ∧
        ∀ ts, lex f t ts = (skipLine ts).map fun rest => (.nothing, rest)) := by
  rcases t with c | c | -
  · by_cases hblank : (f.verbose && (c == ' ' || (9 ≤ c.toNat && c.toNat ≤ 13))) = true
    · exact .inl fun ts => .done (a := .nothing) List.suffix_rfl fun us _ => if_pos hblank
    by_cases hcomment : (f.verbose && c == '#') = true
    · obtain ⟨hverbose, hhash⟩ := Bool.and_eq_true_iff.mp hcomment
      obtain rfl : c = '#' := by simpa using hhash
      exact .inr (.inr ⟨rfl, hverbose, fun ts => (if_neg hblank).trans (if_pos hcomment)⟩)
    have hplain : ∀ ts, lex f (.plain c) ts = lexPlain f c ts :=
      fun ts => (if_neg hblank).trans (if_neg hcomment)
    by_cases hbrace : c = '{'
    · subst hbrace
      refine .inr (.inl ⟨rfl, fun ts => (hplain ts).trans ?_⟩)
      simp only [lexPlain, lexBrace]
      rcases readCounts ts with e | - | x <;> rfl
    · exact .inl fun ts =>
        .of_eq List.suffix_rfl (fun us _ => hplain _) (steady_lexPlain f hbrace ts)
  · exact .inl fun ts => steady_lexEscape f c ts
  · exact .inl fun ts => .fail fun _ _ => rfl

/-! ### Where counts end -/

theorem takeDigits_decimal_append {us : List Token} (hus : Ends us) (ts : List Token) :
    takeDigits decimalDigit? (ts ++ us).length (ts ++ us)
      = ((takeDigits decimalDigit? ts.length ts).1,
        (takeDigits decimalDigit? ts.length ts).2 ++ us) := by
  rw [takeDigits_append (by decide) (by decide) hus,
    takeDigits_of_length_le (by simp) (Nat.le_refl ts.length)]

theorem takeUpper_append {us : List Token} (hus : Ends us) (los : List Nat) (ts : List Token) :
    takeUpper los (ts ++ us) = ((takeUpper los ts).1, (takeUpper los ts).2 ++ us) := by
  by_cases h : ∃ rest, ts = .plain ',' :: rest
  · obtain ⟨rest, rfl⟩ := h
    exact takeDigits_decimal_append hus rest
  · have h' : ∀ rest, ts ≠ .plain ',' :: rest := fun rest heq => h ⟨rest, heq⟩
    rw [takeUpper, takeUpper]
    · exact h'
    · exact hus.append_ne (by decide) h'

theorem takeUpper_suffix (los : List Nat) (ts : List Token) : (takeUpper los ts).2 <:+ ts := by
  unfold takeUpper
  split
  · exact (takeDigits_suffix _ _ _).trans (List.suffix_cons _ _)
  · exact List.suffix_rfl

/-- The digits of counts do not depend on what comes after the group or the alternative. -/
theorem takeCounts_append {us : List Token} (hus : Ends us) (ts : List Token) :
    takeCounts (ts ++ us) = (takeCounts ts).map fun y => (y.1, y.2 ++ us) := by
  simp only [takeCounts, takeDigits_decimal_append hus, takeUpper_append hus]
  generalize (takeDigits decimalDigit? ts.length ts).1 = los
  generalize takeUpper los (takeDigits decimalDigit? ts.length ts).2 = upper
  obtain ⟨his, rest⟩ := upper
  by_cases hts : ∃ after, ts = .plain '}' :: after
  · obtain ⟨after, rfl⟩ := hts
    rfl
  have hts' : ∀ after, ts ≠ .plain '}' :: after := fun after heq => hts ⟨after, heq⟩
  have hts'' := hus.append_ne (c := '}') (by decide) hts'
  by_cases hrest : ∃ after, rest = .plain '}' :: after
  · obtain ⟨after, rfl⟩ := hrest
    simp only [List.cons_append, Option.map]
  · have hrest' : ∀ after, rest ≠ .plain '}' :: after := fun after heq => hrest ⟨after, heq⟩
    have hrest'' := hus.append_ne (c := '}') (by decide) hrest'
    simp only [Option.map]

theorem takeCounts_suffix {ts rest : List Token} {x : List Nat × List Nat}
    (h : takeCounts ts = some (x, rest)) : rest <:+ ts := by
  have hdigits := takeDigits_suffix decimalDigit? ts.length ts
  have hupper := takeUpper_suffix (takeDigits decimalDigit? ts.length ts).1
    (takeDigits decimalDigit? ts.length ts).2
  simp only [takeCounts] at h
  split at h
  case h_1 => cases h
  case h_2 after hafter =>
    obtain ⟨-, rfl⟩ := Prod.mk.inj (Option.some.inj h)
    rw [hafter] at hupper
    exact ((List.suffix_cons _ _).trans hupper).trans hdigits
  case h_3 => cases h

/-- Counts that are read do not depend on what comes after the group or the alternative, unless
that is a backslash at the very end. -/
theorem readCounts_append {us : List Token} (hus : Ends us) {ts : List Token}
    {x : Option ((Nat × Option Nat) × List Token)} (h : readCounts ts = .ok x) :
    readCounts (ts ++ us) = .ok (x.map fun y => (y.1, y.2 ++ us)) ∨
      us.head? = some .dangling ∧ (∃ counts, x = some (counts, [])) ∧
        readCounts (ts ++ us) = .error .malformed := by
  unfold readCounts at h ⊢
  rw [takeCounts_append hus]
  rcases htake : takeCounts ts with - | ⟨⟨los, his⟩, rest⟩
  · simp only [htake] at h
    exact .inl (by rw [← Except.ok.inj h]; rfl)
  simp only [htake] at h
  simp only [Option.map_some]
  by_cases hdangling : (rest.head? == some .dangling) = true
  · rw [if_pos hdangling] at h
    cases h
  rw [if_neg hdangling] at h
  obtain ⟨counts, hcounts, rfl⟩ := exists_of_map_eq_ok h
  by_cases hmore : ((rest ++ us).head? == some .dangling) = true
  · rcases rest with - | ⟨t, rest⟩
    · exact .inr ⟨beq_iff_eq.mp hmore, ⟨counts, rfl⟩, if_pos hmore⟩
    · exact absurd hmore hdangling
  · refine .inl ?_
    rw [if_neg hmore, hcounts]
    rfl

theorem readCounts_suffix {ts rest : List Token} {x : Nat × Option Nat}
    (h : readCounts ts = .ok (some (x, rest))) : rest <:+ ts := by
  unfold readCounts at h
  rcases hcounts : takeCounts ts with - | ⟨⟨los, his⟩, after⟩
  · simp [hcounts] at h
  simp only [hcounts] at h
  split at h
  · cases h
  · obtain ⟨counts, -, hx⟩ := exists_of_map_eq_ok h
    obtain ⟨-, rfl⟩ := Prod.mk.inj (Option.some.inj hx)
    exact takeCounts_suffix hcounts

/-- Counts that are not read are not read with any tokens after them, either. -/
theorem readCounts_append_error {us : List Token} (hus : Ends us) {ts : List Token} {e : Error}
    (h : readCounts ts = .error e) : ∃ e', readCounts (ts ++ us) = .error e' := by
  unfold readCounts at h ⊢
  rw [takeCounts_append hus]
  rcases htake : takeCounts ts with - | ⟨⟨los, his⟩, rest⟩
  · simp only [htake] at h
    cases h
  simp only [htake] at h
  simp only [Option.map_some]
  by_cases hmore : ((rest ++ us).head? == some .dangling) = true
  · exact ⟨.malformed, if_pos hmore⟩
  rw [if_neg hmore]
  split at h
  case isTrue hdangling =>
    obtain ⟨after, rfl⟩ := List.head?_eq_some_iff.mp (beq_iff_eq.mp hdangling)
    exact absurd rfl hmore
  case isFalse =>
    rcases hcounts : countsOf los his with e' | counts
    · exact ⟨e', rfl⟩
    · simp [hcounts, Except.map] at h

/-! ### What comes after a construct -/

/-- A comment starts here, and no line feed ends it. -/
structure OpenComment (f : Flags) (t : Token) (ts : List Token) : Prop where
  mark : t = .plain '#'
  verbose : f.verbose = true
  line : .plain '\n' ∉ ts

theorem OpenComment.append {f : Flags} {t : Token} {ts us : List Token} (h : OpenComment f t ts)
    (hus : .plain '\n' ∉ us) : OpenComment f t (ts ++ us) :=
  { h with line := fun hmem => (List.mem_append.mp hmem).elim h.line hus }

theorem OpenComment.of_append {f : Flags} {t : Token} {ts us : List Token}
    (h : OpenComment f t (ts ++ us)) : OpenComment f t ts :=
  { h with line := fun hmem => h.line (List.mem_append_left us hmem) }

/-- A backslash at the very end, which makes a count that it follows malformed. -/
structure AfterCount (f : Flags) (t : Token) (ts : List Token) (c : Construct)
    (rest us : List Token) : Prop where
  count : ∃ lo hi greed, c = .times lo hi greed
  rest : rest = []
  dangling : us.head? = some .dangling
  malformed : lex f t (ts ++ us) = .error .malformed

section Lex

variable {f : Flags} {t : Token} {ts rest us : List Token} {c : Construct}

/-- Nothing comes after such a comment. -/
theorem OpenComment.eq_nil_of_lex (h : OpenComment f t ts) (hlex : lex f t ts = .ok (c, rest)) :
    c = .nothing ∧ rest = [] := by
  obtain ⟨rfl, hverbose, hline⟩ := h
  have hskip : lex f (.plain '#') ts = (skipLine ts).map fun rest => (.nothing, rest) := by
    simp [lex, hverbose]
  rw [hskip] at hlex
  obtain ⟨after, hafter, heq⟩ := exists_of_map_eq_ok hlex
  obtain ⟨rfl, rfl⟩ := Prod.mk.inj heq
  exact ⟨rfl, eq_nil_of_skipLine hline hafter⟩

/-- **What is left** after a construct is a suffix of the tokens. -/
theorem lex_suffix (h : lex f t ts = .ok (c, rest)) : rest <:+ ts := by
  rcases lex_cases f t with hsteady | ⟨-, hbrace⟩ | ⟨-, -, hcomment⟩
  · exact (hsteady ts).suffix h
  · rw [hbrace, lexBrace] at h
    obtain ⟨x, hx, hrest⟩ := exists_of_map_eq_ok h
    rcases x with - | ⟨⟨lo, hi⟩, after⟩
    · obtain ⟨-, rfl⟩ := Prod.mk.inj hrest
      exact List.suffix_rfl
    · obtain ⟨-, rfl⟩ := Prod.mk.inj hrest
      exact (takeGreed_suffix after).trans (readCounts_suffix hx)
  · rw [hcomment] at h
    obtain ⟨after, hafter, hrest⟩ := exists_of_map_eq_ok h
    obtain ⟨-, rfl⟩ := Prod.mk.inj hrest
    exact skipLine_suffix hafter

/-- **What comes after** the group or the alternative makes no difference to a construct, but
for a comment that goes on to the end of the line, and for a backslash at the very end after a
count. -/
theorem lex_append (h : lex f t ts = .ok (c, rest)) (hus : Ends us) :
    lex f t (ts ++ us) = .ok (c, rest ++ us) ∨ OpenComment f t ts ∨
      AfterCount f t ts c rest us := by
  rcases lex_cases f t with hsteady | ⟨-, hbrace⟩ | ⟨hhash, hverbose, hcomment⟩
  · exact .inl ((hsteady ts).append h hus)
  · have hlex := h
    rw [hbrace, lexBrace] at h
    obtain ⟨x, hx, hrest⟩ := exists_of_map_eq_ok h
    rcases readCounts_append hus hx with hmore | ⟨hdangling, ⟨⟨lo, hi⟩, rfl⟩, hmore⟩
    · refine .inl ?_
      rw [hbrace, lexBrace, hmore]
      rcases x with - | ⟨⟨lo, hi⟩, after⟩
      · obtain ⟨rfl, rfl⟩ := Prod.mk.inj hrest
        rfl
      · obtain ⟨rfl, rfl⟩ := Prod.mk.inj hrest
        simp only [Except.map, Option.map, lexTimes, takeGreed_append hus]
    · obtain ⟨rfl, rfl⟩ := Prod.mk.inj hrest
      exact .inr (.inr ⟨⟨lo, hi, _, rfl⟩, rfl, hdangling, by rw [hbrace, lexBrace, hmore]; rfl⟩)
  · rw [hcomment] at h ⊢
    obtain ⟨after, hafter, hrest⟩ := exists_of_map_eq_ok h
    obtain ⟨rfl, rfl⟩ := Prod.mk.inj hrest
    by_cases hline : .plain '\n' ∈ ts
    · exact .inl (by rw [skipLine_append hline hafter]; rfl)
    · exact .inr (.inl ⟨hhash, hverbose, hline⟩)

/-- **What more tokens make a construct** of what is none takes some of them, and not just a
backslash at the very end. -/
theorem lex_takes {e : Error} (h : lex f t ts = .error e) (hus : Ends us)
    (hmore : lex f t (ts ++ us) = .ok (c, rest)) : rest.length < us.length ∧ us ≠ [.dangling] := by
  rcases lex_cases f t with hsteady | ⟨-, hbrace⟩ | ⟨-, -, hcomment⟩
  · exact ((hsteady ts).refuses h).takes us hus c rest hmore
  -- counts that are not read are not read whatever comes after them
  · rw [hbrace, lexBrace] at h hmore
    rcases hx : readCounts ts with e' | x
    · obtain ⟨e'', he⟩ := readCounts_append_error hus hx
      simp only [he, Except.map] at hmore
      cases hmore
    · simp only [hx, Except.map] at h
      cases h
  · rw [hcomment] at h hmore
    rcases hx : skipLine ts with e' | x
    · simp only [(skipLine_error hx us).2, Except.map] at hmore
      cases hmore
    · simp only [hx, Except.map] at h
      cases h

/-- **A construct is read or malformed**, but for counts that are too large. -/
theorem eq_malformed_of_lex {e : Error} (h : lex f t ts = .error e) :
    e = .malformed ∨ (t = .plain '{' ∧ readCounts ts = .error e) := by
  rcases lex_cases f t with hsteady | ⟨rfl, hbrace⟩ | ⟨-, -, hcomment⟩
  · exact .inl ((hsteady ts).malformed h)
  · rw [hbrace, lexBrace] at h
    rcases hx : readCounts ts with e' | x
    · simp only [hx, Except.map] at h
      exact .inr ⟨rfl, congrArg Except.error (Except.error.inj h)⟩
    · simp only [hx, Except.map] at h
      cases h
  · rw [hcomment] at h
    rcases hx : skipLine ts with e' | x
    · simp only [hx, Except.map] at h
      exact .inl ((Except.error.inj h).symm.trans (skipLine_error hx []).1)
    · simp only [hx, Except.map] at h
      cases h

end Lex

/-! ### Steps of a run -/

theorem exists_of_step {r q : Reading} {t : Token} {ts rest : List Token}
    (h : step r t ts = .ok (q, rest)) :
    ∃ c, lex r.top.flags t ts = .ok (c, rest) ∧ r.apply c = .ok q := by
  rw [step_eq] at h
  obtain ⟨⟨c, rest'⟩, hlex, h⟩ := exists_of_bind_eq_ok h
  obtain ⟨q', happly, heq⟩ := exists_of_map_eq_ok h
  obtain ⟨rfl, rfl⟩ := Prod.mk.inj heq
  exact ⟨c, hlex, happly⟩

theorem step_eq_ok {r q : Reading} {t : Token} {ts rest : List Token} {c : Construct}
    (hlex : lex r.top.flags t ts = .ok (c, rest)) (happly : r.apply c = .ok q) :
    step r t ts = .ok (q, rest) := by
  rw [step_eq, hlex]
  simp only [Except.bind, applied, happly, Except.map]

namespace Reads

variable {r q : Reading} {t : Token} {ts us : List Token}

/-- A construct, and what is read after it. -/
theorem cons {r' : Reading} {rest : List Token} {c : Construct}
    (hlex : lex r.top.flags t ts = .ok (c, rest)) (happly : r.apply c = .ok r')
    (hrest : Reads r' rest q us) : Reads r (t :: ts) q us :=
  .step (step_eq_ok hlex happly) (lex_suffix hlex).length_le hrest

theorem exists_of_cons (h : Reads r (t :: ts) q []) : ∃ c rest r',
    lex r.top.flags t ts = .ok (c, rest) ∧ r.apply c = .ok r' ∧ Reads r' rest q [] := by
  cases h with
  | step hstep hle hrest =>
    obtain ⟨c, hlex, happly⟩ := exists_of_step hstep
    exact ⟨c, _, _, hlex, happly, hrest⟩

/-- Where the next construct is known, it is read first. -/
theorem cons_iff {r' : Reading} {rest : List Token} {c : Construct}
    (hlex : lex r.top.flags t ts = .ok (c, rest)) (happly : r.apply c = .ok r') :
    Reads r (t :: ts) q [] ↔ Reads r' rest q [] := by
  refine ⟨fun h => ?_, fun h => .cons hlex happly h⟩
  obtain ⟨c', rest', p, hlex', happly', hrest⟩ := h.exists_of_cons
  obtain ⟨rfl, rfl⟩ := Prod.mk.inj (Except.ok.inj (hlex.symm.trans hlex'))
  obtain rfl := Except.ok.inj (happly.symm.trans happly')
  exact hrest

/-- Where it cannot be applied, nothing is read. -/
theorem not_of_error {rest : List Token} {c : Construct} {e : Error}
    (hlex : lex r.top.flags t ts = .ok (c, rest)) (happly : r.apply c = .error e) :
    ¬Reads r (t :: ts) q [] := by
  intro h
  obtain ⟨c', rest', p, hlex', happly', -⟩ := h.exists_of_cons
  obtain ⟨rfl, -⟩ := Prod.mk.inj (Except.ok.inj (hlex.symm.trans hlex'))
  cases happly.symm.trans happly'

theorem of_readAll {fuel : Nat} (h : readAll fuel r ts = .ok q) : Reads r ts q [] := by
  replace h := runsTo_of_readAll h
  induction h with
  | done => exact .refl _ _
  | step hlex happly _ ih => exact .cons hlex happly ih

end Reads

end SigmaRules.Regex
