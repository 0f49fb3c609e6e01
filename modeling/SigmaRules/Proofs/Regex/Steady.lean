/-
SigmaRules/Proofs/Regex/Steady.lean

Readers of tokens are steady (`Steady`): what they leave is a suffix of their
tokens, what they read does not depend on what comes after the group or the
alternative that they read in, and they fail in one way only.

Steady readers one after the other are steady (`Steady.bind`), so the readers
of digits, escapes, bracketed sets, names, comments and flags are.
-/
import SigmaRules.Proofs.Answers
import SigmaRules.Proofs.Regex.Construct

namespace SigmaRules.Regex

open Text

/-- The tokens do not start with a character that stands alone, unless it ends an alternative
or a group. -/
def Ends (us : List Token) : Prop := ∀ c, us.head? = some (.plain c) → c = '|' ∨ c = ')'

theorem Ends.nil : Ends [] := nofun

/-- Tokens that do not start with a mark do not do so with an end after them. -/
theorem Ends.append_ne {us : List Token} (hus : Ends us) {c : Char} (hc : c ≠ '|' ∧ c ≠ ')')
    {ts : List Token} (h : ∀ rest, ts ≠ .plain c :: rest) (rest : List Token) :
    ts ++ us ≠ .plain c :: rest := by
  intro heq
  rcases ts with - | ⟨t, ts⟩
  · obtain rfl : us = .plain c :: rest := heq
    exact (hus c rfl).elim hc.1 hc.2
  · obtain ⟨rfl, -⟩ := List.cons_eq_cons.mp heq
    exact h ts rfl

/-- The reader finds the tokens malformed.  If it does not do so with others after them, it takes
some of those, and not just a backslash at the very end. -/
structure Refuses {α : Type} (g : List Token → Except Error (α × List Token)) (ts : List Token) :
    Prop where
  malformed : g ts = .error .malformed
  takes : ∀ us, Ends us → ∀ a rest, g (ts ++ us) = .ok (a, rest) →
    rest.length < us.length ∧ us ≠ [.dangling]

/-- The reader refuses the tokens, or it reads the same from the front of them wherever they
end. -/
def Steady {α : Type} (g : List Token → Except Error (α × List Token)) (ts : List Token) : Prop :=
  Refuses g ts ∨ ∃ a rest, rest <:+ ts ∧ ∀ us, Ends us → g (ts ++ us) = .ok (a, rest ++ us)

namespace Steady

variable {α β : Type} {g : List Token → Except Error (α × List Token)}
  {h : α → List Token → Except Error (β × List Token)} {ts rest us : List Token} {a : α}

theorem suffix (hg : Steady g ts) (heq : g ts = .ok (a, rest)) : rest <:+ ts := by
  rcases hg with hfail | ⟨b, after, hsuffix, hread⟩
  · rw [hfail.malformed] at heq
    cases heq
  · have hnil := hread [] .nil
    simp only [List.append_nil, heq] at hnil
    obtain ⟨-, rfl⟩ := Prod.mk.inj (Except.ok.inj hnil)
    exact hsuffix

theorem append (hg : Steady g ts) (heq : g ts = .ok (a, rest)) (hus : Ends us) :
    g (ts ++ us) = .ok (a, rest ++ us) := by
  rcases hg with hfail | ⟨b, after, -, hread⟩
  · rw [hfail.malformed] at heq
    cases heq
  · have hnil := hread [] .nil
    simp only [List.append_nil, heq] at hnil
    obtain ⟨rfl, rfl⟩ := Prod.mk.inj (Except.ok.inj hnil)
    exact hread us hus

theorem refuses (hg : Steady g ts) {e : Error} (heq : g ts = .error e) : Refuses g ts := by
  rcases hg with hfail | ⟨b, after, -, hread⟩
  · exact hfail
  · have hnil := hread [] .nil
    simp only [List.append_nil, heq] at hnil
    cases hnil

theorem malformed (hg : Steady g ts) {e : Error} (heq : g ts = .error e) : e = .malformed :=
  Except.error.inj (heq.symm.trans (hg.refuses heq).malformed)

theorem done (hrest : rest <:+ ts) (hread : ∀ us, Ends us → g (ts ++ us) = .ok (a, rest ++ us)) :
    Steady g ts := .inr ⟨a, rest, hrest, hread⟩

/-- Tokens that no others make good. -/
theorem fail (hfail : ∀ us, Ends us → g (ts ++ us) = .error .malformed) : Steady g ts := by
  refine .inl ⟨by simpa using hfail [] .nil, fun us hus a rest h => ?_⟩
  rw [hfail us hus] at h
  cases h

/-- Where the tokens end, there is something to come that is not just a backslash. -/
theorem short (hfail : g [] = .error .malformed)
    (htakes : ∀ us a rest, g us = .ok (a, rest) → rest.length < us.length ∧ us ≠ [.dangling]) :
    Steady g [] := .inl ⟨hfail, fun us _ => htakes us⟩

/-- A reader that goes on as another one does on the tokens that are left. -/
theorem of_eq {g' : List Token → Except Error (α × List Token)} (hrest : rest <:+ ts)
    (hread : ∀ us, Ends us → g (ts ++ us) = g' (rest ++ us)) (hg : Steady g' rest) :
    Steady g ts := by
  rcases hg with hfail | ⟨a, after, hsuffix, hg⟩
  · have hnil := hread [] .nil
    simp only [List.append_nil] at hnil
    refine .inl ⟨hnil.trans hfail.malformed, fun us hus a after h => ?_⟩
    exact hfail.takes us hus a after ((hread us hus).symm.trans h)
  · exact .inr ⟨a, after, hsuffix.trans hrest, fun us hus => (hread us hus).trans (hg us hus)⟩

theorem bind (hg : Steady g ts) (hh : ∀ a rest, Steady (h a) rest) :
    Steady (fun ts => (g ts).bind fun x => h x.1 x.2) ts := by
  rcases hg with hfail | ⟨a, mid, hsuffix, hg⟩
  · refine .inl ⟨by simp only [hfail.malformed, Except.bind], fun us hus b rest hb => ?_⟩
    -- the second reader takes more, if anything
    obtain ⟨⟨a, mid⟩, ha, hb⟩ := exists_of_bind_eq_ok hb
    obtain ⟨hlt, hne⟩ := hfail.takes us hus a mid ha
    exact ⟨Nat.lt_of_le_of_lt ((hh a mid).suffix hb).length_le hlt, hne⟩
  · refine of_eq hsuffix (fun us hus => ?_) (hh a mid)
    simp only [hg us hus, Except.bind]

theorem map (hg : Steady g ts) (f : α → β) :
    Steady (fun ts => (g ts).map fun x => (f x.1, x.2)) ts := by
  rcases hg with hfail | ⟨a, mid, hsuffix, hg⟩
  · refine .inl ⟨by simp only [hfail.malformed, Except.map], fun us hus b rest hb => ?_⟩
    obtain ⟨⟨a, mid⟩, ha, hmid⟩ := exists_of_map_eq_ok hb
    obtain ⟨-, rfl⟩ := Prod.mk.inj hmid
    exact hfail.takes us hus a mid ha
  · refine .inr ⟨f a, mid, hsuffix, fun us hus => ?_⟩
    simp only [hg us hus, Except.map]

/-- A result that is kept or refused. -/
theorem guard (p : Prop) [Decidable p] (a : α) (ts : List Token) :
    Steady (fun ts => if p then .ok (a, ts) else .error .malformed) ts := by
  by_cases hp : p
  · exact .done List.suffix_rfl fun us _ => by rw [if_pos hp]
  · exact .fail fun us _ => by rw [if_neg hp]

/-- A result that there may be. -/
theorem ofOption (o : Option α) (ts : List Token) :
    Steady (fun ts => match o with
      | some a => .ok (a, ts)
      | none => .error .malformed) ts := by
  rcases o with - | a
  · exact .fail fun _ _ => rfl
  · exact .done List.suffix_rfl fun _ _ => rfl

end Steady

/-! ### Digits -/

section Digits

variable {value : Char → Option Nat} {us : List Token}

theorem takeDigits_suffix (value : Char → Option Nat) (n : Nat) (ts : List Token) :
    (takeDigits value n ts).2 <:+ ts := by
  fun_induction takeDigits value n ts with
  | case1 n c ts d _ ds after h ih =>
    rw [h] at ih
    exact ih.trans (List.suffix_cons _ _)
  | case2 => exact List.suffix_rfl
  | case3 => exact List.suffix_rfl

/-- The end of an alternative or a group is no digit. -/
theorem takeDigits_append (hbar : value '|' = none) (hclose : value ')' = none) (hus : Ends us)
    (n : Nat) (ts : List Token) :
    takeDigits value n (ts ++ us)
      = ((takeDigits value n ts).1, (takeDigits value n ts).2 ++ us) := by
  fun_induction takeDigits value n ts with
  | case1 n c ts d hc ds after h ih =>
    rw [h] at ih
    simp only [List.cons_append, takeDigits, hc, ih]
  | case2 n c ts hc => simp only [List.cons_append, takeDigits, hc]
  | case3 n ts hts =>
    rcases n with - | n
    · rfl
    rcases ts with - | ⟨t, ts⟩
    -- at the end of the tokens, the next one is no digit
    · rcases us with - | ⟨c | c | -, us⟩
      · rfl
      · rcases hus c rfl with rfl | rfl
        · simp [takeDigits, hbar]
        · simp [takeDigits, hclose]
      · rfl
      · rfl
    · rcases t with c | c | -
      · exact absurd rfl (hts n c ts rfl)
      · rfl
      · rfl

/-- As many digits as there are tokens are as many as there are. -/
theorem takeDigits_of_length_le {n m : Nat} {ts : List Token} (hn : ts.length ≤ n)
    (hm : ts.length ≤ m) : takeDigits value n ts = takeDigits value m ts := by
  induction ts generalizing n m with
  | nil => rcases n with - | n <;> rcases m with - | m <;> rfl
  | cons t ts ih =>
    rcases n with - | n
    · simp at hn
    rcases m with - | m
    · simp at hm
    rcases t with c | c | -
    · simp only [takeDigits, ih (Nat.le_of_succ_le_succ hn) (Nat.le_of_succ_le_succ hm)]
    · rfl
    · rfl

end Digits

theorem steady_takeDigits {value : Char → Option Nat} (hbar : value '|' = none)
    (hclose : value ')' = none) (n : Nat) (ts : List Token) :
    Steady (fun ts => .ok (takeDigits value n ts)) ts :=
  .done (takeDigits_suffix value n ts) fun _ hus =>
    congrArg Except.ok (takeDigits_append hbar hclose hus n ts)

theorem steady_octal (n : Nat) (ts : List Token) :
    Steady (fun ts => .ok (takeDigits octalDigit? n ts)) ts :=
  steady_takeDigits (by decide) (by decide) n ts

/-! ### Names -/

theorem readName_takes {stop : Char} {ts rest : List Token} {name : List Char}
    (h : readName stop ts = .ok (name, rest)) : rest.length < ts.length ∧ ts ≠ [.dangling] := by
  induction ts generalizing name with
  | nil => cases h
  | cons t ts ih =>
    rw [readName] at h
    split at h
    case isTrue ht =>
      obtain ⟨-, rfl⟩ := Prod.mk.inj (Except.ok.inj h)
      refine ⟨Nat.lt_succ_self _, fun heq => ?_⟩
      obtain ⟨rfl, -⟩ := List.cons_eq_cons.mp heq
      exact absurd ht (by simp)
    case isFalse =>
      obtain ⟨⟨name', after⟩, hname, h⟩ := exists_of_bind_eq_ok h
      obtain ⟨-, rfl⟩ := Prod.mk.inj (Except.ok.inj h)
      obtain ⟨hlt, -⟩ := ih hname
      refine ⟨Nat.lt_succ_of_lt hlt, fun heq => ?_⟩
      obtain ⟨-, rfl⟩ := List.cons_eq_cons.mp heq
      exact absurd hlt (Nat.not_lt_zero _)

theorem steady_readName (stop : Char) (ts : List Token) : Steady (readName stop) ts := by
  induction ts with
  | nil => exact .short rfl fun us name rest h => readName_takes h
  | cons t ts ih =>
    by_cases ht : (t == .plain stop) = true
    · exact .done (List.suffix_cons t ts) fun us _ => if_pos ht
    · refine .of_eq (List.suffix_cons t ts) (fun us _ => ?_) (ih.map fun name => t.text ++ name)
      simp only [List.cons_append, readName, if_neg ht]
      rcases readName stop (ts ++ us) with e | ⟨name, rest⟩ <;> rfl

/-! ### Escapes -/

theorem steady_hexNumber (n : Nat) (ts : List Token) : Steady (hexNumber n) ts :=
  (steady_takeDigits (by decide) (by decide) n ts).bind fun ds =>
    .guard ((ds.length == n) = true) (numberOf 16 ds)

theorem steady_namedCode (ts : List Token) : Steady namedCode ts := by
  by_cases h : ∃ rest, ts = .plain '{' :: rest
  · obtain ⟨rest, rfl⟩ := h
    refine .of_eq (List.suffix_cons _ rest) (fun us _ => ?_)
      ((steady_readName '}' rest).bind fun name => .ofOption (codeNamed? name))
    simp only [List.cons_append, namedCode]
    rcases readName '}' (rest ++ us) with e | ⟨name, after⟩
    · rfl
    · simp only [bind, Except.bind]
      rcases codeNamed? name with - | n <;> rfl
  · have h' : ∀ rest, ts ≠ .plain '{' :: rest := fun rest heq => h ⟨rest, heq⟩
    refine .fail fun us hus => ?_
    rw [namedCode]
    exact hus.append_ne (by decide) h'

/-- Whether an escape writes a code point depends on its letter alone. -/
theorem codeEscape_cases (c : Char) : (∀ ts, codeEscape c ts = none) ∨
    ∃ g : List Token → Except Error (Nat × List Token), (∀ ts, Steady g ts) ∧
      ∀ ts, codeEscape c ts = some (g ts) := by
  unfold codeEscape
  split
  · exact .inr ⟨_, steady_hexNumber 2, fun _ => rfl⟩
  · exact .inr ⟨_, steady_hexNumber 4, fun _ => rfl⟩
  · exact .inr ⟨_, fun ts => (steady_hexNumber 8 ts).bind fun n => .guard (n < 0x110000) n,
      fun _ => rfl⟩
  · exact .inr ⟨_, steady_namedCode, fun _ => rfl⟩
  · exact .inl fun _ => rfl

theorem steady_setEscape (ascii : Bool) (c : Char) (ts : List Token) :
    Steady (setEscape ascii c) ts := by
  unfold setEscape
  rcases controlEscape? c with - | n
  · rcases classEscape? c with - | ⟨k, negated⟩
    · rcases codeEscape_cases c with hcode | ⟨g, hg, hcode⟩
      · simp only [hcode]
        rcases octalDigit? c with - | d
        · by_cases hd : ((decimalDigit? c).isSome || isAsciiLetter c) = true
          · exact .fail fun _ _ => if_pos hd
          · exact .done List.suffix_rfl fun _ _ => if_neg hd
        · exact (steady_octal 2 ts).bind fun ds =>
            .guard (numberOf 8 (d :: ds) ≤ 0o377) (SetItem.single (numberOf 8 (d :: ds)))
      · simp only [hcode]
        exact (hg ts).map SetItem.single
    · exact .done List.suffix_rfl fun _ _ => rfl
  · exact .done List.suffix_rfl fun _ _ => rfl

/-! ### Bracketed sets -/

/-- A member takes a token, which is not a backslash at the end. -/
theorem setMember_takes {ascii : Bool} {ts rest : List Token} {item : SetItem}
    (h : setMember ascii ts = .ok (item, rest)) :
    rest.length < ts.length ∧ ts ≠ [.dangling] := by
  rcases ts with - | ⟨c | c | -, ts⟩
  · cases h
  · obtain ⟨-, rfl⟩ := Prod.mk.inj (Except.ok.inj h)
    exact ⟨Nat.lt_succ_self _, by simp⟩
  · have hle := ((steady_setEscape ascii c ts).suffix h).length_le
    exact ⟨Nat.lt_succ_of_le hle, by simp⟩
  · cases h

theorem steady_setMember (ascii : Bool) (ts : List Token) : Steady (setMember ascii) ts := by
  rcases ts with - | ⟨c | c | -, ts⟩
  · exact .short rfl fun us item rest h => setMember_takes h
  · exact .done (List.suffix_cons _ ts) fun _ _ => rfl
  · exact .of_eq (List.suffix_cons _ ts) (fun _ _ => rfl) (steady_setEscape ascii c ts)
  · exact .fail fun _ _ => rfl

theorem steady_upTo (i j : SetItem) (ts : List Token) :
    Steady (fun ts => (i.upTo j).map fun x => (x, ts)) ts := by
  rcases h : i.upTo j with e | x
  · refine .fail fun _ _ => ?_
    unfold SetItem.upTo at h
    split at h
    · split at h <;> cases h
      rfl
    · cases h
      rfl
  · exact .done List.suffix_rfl fun _ _ => rfl

/-- What follows a member of a set: the end of a range, or other members. -/
def afterMember (ascii : Bool)
    (others : List SetItem → List Token → Except Error (List SetItem × List Token))
    (found : List SetItem) (item : SetItem) : List Token → Except Error (List SetItem × List Token)
  | .plain '-' :: .plain ']' :: rest => .ok (.single 45 :: item :: found, rest)
  | .plain '-' :: rest => do
    let (last, rest) ← setMember ascii rest
    let range ← item.upTo last
    others (range :: found) rest
  | rest => others (item :: found) rest

theorem setMembers_member {ascii : Bool} {fuel : Nat} {found : List SetItem} {ts : List Token}
    (h : found ≠ [] → ∀ rest, ts ≠ .plain ']' :: rest) :
    setMembers ascii (fuel + 1) found ts = (setMember ascii ts).bind fun x =>
      afterMember ascii (setMembers ascii fuel) found x.1 x.2 := by
  rw [setMembers]
  · rcases setMember ascii ts with e | ⟨item, rest⟩
    · rfl
    · rfl
  · intro head tail rest hfound hts
    exact h (by simp [hfound]) rest hts

theorem steady_afterMember {ascii : Bool}
    {others : List SetItem → List Token → Except Error (List SetItem × List Token)}
    (hothers : ∀ found ts, Steady (others found) ts) (found : List SetItem) (item : SetItem)
    (ts : List Token) : Steady (afterMember ascii others found item) ts := by
  by_cases hminus : ∃ rest, ts = .plain '-' :: rest
  · obtain ⟨ts, rfl⟩ := hminus
    by_cases hend : ∃ rest, ts = .plain ']' :: rest
    · obtain ⟨rest, rfl⟩ := hend
      exact .done ((List.suffix_cons _ rest).trans (List.suffix_cons _ _)) fun _ _ => rfl
    · have hend' : ∀ rest, ts ≠ .plain ']' :: rest := fun rest heq => hend ⟨rest, heq⟩
      refine .of_eq (List.suffix_cons _ ts) (fun us hus => ?_) ((steady_setMember ascii ts).bind
        fun last rest => (steady_upTo item last rest).bind fun range => hothers (range :: found))
      rw [List.cons_append, afterMember]
      · rcases setMember ascii (ts ++ us) with e | ⟨last, rest⟩
        · rfl
        · simp only [bind, Except.bind]
          rcases item.upTo last with e | range <;> rfl
      · exact hus.append_ne (by decide) hend'
  · have hminus' : ∀ rest, ts ≠ .plain '-' :: rest := fun rest heq => hminus ⟨rest, heq⟩
    refine .of_eq List.suffix_rfl (fun us hus => ?_) (hothers (item :: found) ts)
    have hne := hus.append_ne (c := '-') (by decide) hminus'
    rw [afterMember]
    · exact fun rest => hne _
    · exact hne

theorem steady_setMembers (ascii : Bool) (fuel : Nat) (found : List SetItem) (ts : List Token) :
    Steady (setMembers ascii fuel found) ts := by
  induction fuel generalizing found ts with
  | zero => exact .fail fun _ _ => rfl
  | succ fuel ih =>
    have hafter : ∀ item rest, Steady (afterMember ascii (setMembers ascii fuel) found item) rest :=
      steady_afterMember (fun found => ih found) found
    have hmember : (found ≠ [] → ∀ rest, ts ≠ .plain ']' :: rest) →
        Steady (setMembers ascii (fuel + 1) found) ts := by
      intro h
      exact .of_eq List.suffix_rfl
        (fun us hus => setMembers_member fun hne => hus.append_ne (by decide) (h hne))
        ((steady_setMember ascii ts).bind hafter)
    rcases found with - | ⟨i, found⟩
    · exact hmember fun h => absurd rfl h
    rcases ts with - | ⟨t, ts⟩
    · exact hmember fun _ _ => (List.cons_ne_nil _ _).symm
    by_cases ht : t = .plain ']'
    · subst ht
      exact .done (List.suffix_cons _ ts) fun _ _ => rfl
    · exact hmember fun _ rest heq => ht (List.cons_eq_cons.mp heq).1

theorem afterMember_mono {ascii : Bool}
    {others more : List SetItem → List Token → Except Error (List SetItem × List Token)}
    {ts : List Token} (h : ∀ {found us x}, us.length ≤ ts.length →
      others found us = .ok x → more found us = .ok x)
    {found : List SetItem} {item : SetItem} {x : List SetItem × List Token}
    (hx : afterMember ascii others found item ts = .ok x) :
    afterMember ascii more found item ts = .ok x := by
  unfold afterMember at hx ⊢
  split at hx
  · exact hx
  · obtain ⟨⟨last, rest⟩, hlast, hx⟩ := exists_of_bind_eq_ok hx
    obtain ⟨range, hrange, hx⟩ := exists_of_bind_eq_ok hx
    have hle := Nat.le_succ_of_le (Nat.le_of_lt (setMember_takes hlast).1)
    simp only [hlast, hrange, bind, Except.bind, h hle hx]
  · exact h (Nat.le_refl _) hx

/-- A member takes a token at least, so fuel beyond the number of tokens makes no difference. -/
theorem setMembers_enough {ascii : Bool} {fuel enough : Nat} {found : List SetItem}
    {ts : List Token} {x : List SetItem × List Token} (h : setMembers ascii fuel found ts = .ok x)
    (hlt : ts.length < enough) : setMembers ascii enough found ts = .ok x := by
  induction fuel generalizing enough found ts x with
  | zero => cases h
  | succ fuel ih =>
    obtain ⟨enough, rfl⟩ : ∃ n, enough = n + 1 := ⟨enough - 1, by omega⟩
    by_cases hclosed : found ≠ [] → ∀ rest, ts ≠ .plain ']' :: rest
    · rw [setMembers_member hclosed] at h ⊢
      obtain ⟨⟨item, rest⟩, hitem, h⟩ := exists_of_bind_eq_ok h
      have hrest := (setMember_takes hitem).1
      simp only [hitem, Except.bind]
      exact afterMember_mono (fun hle h => ih h (by omega)) h
    -- at the closing bracket, there is nothing left to do
    · obtain ⟨hne, hrest⟩ := Classical.not_imp.mp hclosed
      obtain ⟨rest, hts⟩ := Classical.not_forall.mp hrest
      obtain rfl := Classical.not_not.mp hts
      obtain ⟨i, is, rfl⟩ := List.exists_cons_of_ne_nil hne
      exact h

theorem steady_membersTest (f : Flags) (negated : Bool) (ts : List Token) :
    Steady (membersTest f negated) ts := by
  have hsteady := steady_setMembers f.ascii (ts.length + 1) [] ts
  rcases h : setMembers f.ascii (ts.length + 1) [] ts with e | ⟨found, rest⟩
  · obtain rfl := hsteady.malformed h
    refine .inl ⟨by simp only [membersTest, h, Except.map], fun us hus t rest ht => ?_⟩
    obtain ⟨⟨found, after⟩, hfound, hafter⟩ := exists_of_map_eq_ok ht
    obtain ⟨-, rfl⟩ := Prod.mk.inj hafter
    -- to read the set under more fuel does not help, either
    rcases hmore : setMembers f.ascii ((ts ++ us).length + 1) [] ts with e | x
    · exact ((steady_setMembers _ _ _ _).refuses hmore).takes us hus found after hfound
    · rw [setMembers_enough hmore (Nat.lt_succ_self _)] at h
      cases h
  · have hread : ∀ us, Ends us → membersTest f negated (ts ++ us)
        = .ok (testOf f.caseRule negated found.reverse.eraseDups, rest ++ us) := by
      intro us hus
      have hall := setMembers_enough (hsteady.append h hus) (Nat.lt_succ_self _)
      simp only [membersTest, hall, Except.map]
    exact .done (hsteady.suffix h) hread

theorem steady_bracketed (f : Flags) (ts : List Token) : Steady (bracketed f) ts := by
  by_cases h : ∃ rest, ts = .plain '^' :: rest
  · obtain ⟨rest, rfl⟩ := h
    exact .of_eq (List.suffix_cons _ rest) (fun us _ => bracketed_complement f _)
      (steady_membersTest f true rest)
  · have h' : ∀ rest, ts ≠ .plain '^' :: rest := fun rest heq => h ⟨rest, heq⟩
    exact .of_eq List.suffix_rfl (fun us hus => bracketed_plain f (hus.append_ne (by decide) h'))
      (steady_membersTest f false ts)

/-! ### Comments and flags -/

theorem skipComment_takes {ts rest : List Token} (h : skipComment ts = .ok rest) :
    rest.length < ts.length ∧ ts ≠ [.dangling] := by
  fun_induction skipComment ts with
  | case1 => cases h
  | case2 ts =>
    obtain rfl := Except.ok.inj h
    exact ⟨Nat.lt_succ_self _, by simp⟩
  | case3 t ts _ ih =>
    obtain ⟨hlt, -⟩ := ih h
    refine ⟨Nat.lt_succ_of_lt hlt, fun heq => ?_⟩
    obtain ⟨-, rfl⟩ := List.cons_eq_cons.mp heq
    exact absurd hlt (Nat.not_lt_zero _)

theorem steady_skipComment (ts : List Token) :
    Steady (fun ts => (skipComment ts).map fun rest => ((), rest)) ts := by
  induction ts with
  | nil =>
    refine .short rfl fun us _ rest h => ?_
    obtain ⟨after, hafter, heq⟩ := exists_of_map_eq_ok h
    obtain ⟨-, rfl⟩ := Prod.mk.inj heq
    exact skipComment_takes hafter
  | cons t ts ih =>
    by_cases ht : t = .plain ')'
    · subst ht
      exact .done (List.suffix_cons _ ts) fun us _ => rfl
    · refine .of_eq (List.suffix_cons t ts) (fun us _ => ?_) ih
      simp only [List.cons_append]
      rw [skipComment]
      exact fun heq => ht heq

theorem flagsOn_takes {found on : List Char} {ts rest : List Token} {stop : Char}
    (h : flagsOn found ts = .ok (on, stop, rest)) :
    rest.length < ts.length ∧ ts ≠ [.dangling] := by
  induction ts generalizing found with
  | nil => cases h
  | cons t ts ih =>
    rcases t with c | c | -
    · refine ⟨?_, by simp⟩
      rw [flagsOn] at h
      split at h
      · obtain ⟨-, h⟩ := Prod.mk.inj (Except.ok.inj h)
        obtain ⟨-, rfl⟩ := Prod.mk.inj h
        exact Nat.lt_succ_self _
      split at h
      · cases h
      split at h
      · cases h
      · exact Nat.lt_succ_of_lt (ih h).1
    · cases h
    · cases h

theorem steady_flagsOn (found : List Char) (ts : List Token) :
    Steady (fun ts => (flagsOn found ts).map fun x => ((x.1, x.2.1), x.2.2)) ts := by
  induction ts generalizing found with
  | nil =>
    refine .short rfl fun us x rest h => ?_
    obtain ⟨⟨on, stop, after⟩, hon, heq⟩ := exists_of_map_eq_ok h
    obtain ⟨-, rfl⟩ := Prod.mk.inj heq
    exact flagsOn_takes hon
  | cons t ts ih =>
    rcases t with c | c | -
    · by_cases hstop : (!found.isEmpty && (c == ')' || c == '-' || c == ':')) = true
      · exact .done (a := (found, c)) (List.suffix_cons _ ts) fun us _ => by
          simp only [List.cons_append, flagsOn, if_pos hstop, Except.map]
      by_cases hunknown : (!isFlagLetter c || c == 'L') = true
      · exact .fail fun us _ => by
          simp only [List.cons_append, flagsOn, if_neg hstop, if_pos hunknown, Except.map]
      by_cases hclash :
          (isAlphabetFlag c && found.any fun d => isAlphabetFlag d && d != c) = true
      · exact .fail fun us _ => by
          simp only [List.cons_append, flagsOn, if_neg hstop, if_neg hunknown, if_pos hclash,
            Except.map]
      · exact .of_eq (List.suffix_cons _ ts) (fun us _ => by
          simp only [List.cons_append, flagsOn, if_neg hstop, if_neg hunknown, if_neg hclash])
          (ih (c :: found))
    · exact .fail fun _ _ => rfl
    · exact .fail fun _ _ => rfl

theorem steady_flagsOff (found : List Char) (ts : List Token) : Steady (flagsOff found) ts := by
  induction ts generalizing found with
  | nil =>
    -- what ends an alternative or a group is no flag
    refine .fail fun us hus => ?_
    rcases us with - | ⟨c | c | -, us⟩
    · rfl
    · rcases hus c rfl with rfl | rfl
      · simp [flagsOff, isFlagLetter]
      · simp [flagsOff, isFlagLetter]
    · rfl
    · rfl
  | cons t ts ih =>
    rcases t with c | c | -
    · by_cases hstop : (!found.isEmpty && c == ':') = true
      · exact .done (a := found) (List.suffix_cons _ ts) fun us _ => by
          simp only [List.cons_append, flagsOff, if_pos hstop]
      by_cases hunknown : (!isFlagLetter c || c == 'L' || isAlphabetFlag c) = true
      · exact .fail fun us _ => by
          simp only [List.cons_append, flagsOff, if_neg hstop, if_pos hunknown]
      · exact .of_eq (List.suffix_cons _ ts) (fun us _ => by
          simp only [List.cons_append, flagsOff, if_neg hstop, if_neg hunknown]) (ih (c :: found))
    · exact .fail fun _ _ => rfl
    · exact .fail fun _ _ => rfl

/-- A change of flags after the flags that it switches on and the mark after them. -/
def afterFlags (x : List Char × Char) (ts : List Token) : Except Error (FlagChange × List Token) :=
  if x.2 == ')' then .ok (.whole x.1, ts)
  else if x.1.contains 't' then .error .malformed
  else
    (if x.2 == '-' then flagsOff [] ts else .ok ([], ts)).bind fun y =>
      if y.1.contains 't' || x.1.any y.1.contains then .error .malformed
      else .ok (.group x.1 y.1, y.2)

theorem flagChange_minus (ts : List Token) :
    flagChange (.plain '-' :: ts) = afterFlags ([], '-') ts := by
  simp only [flagChange, bind, Except.bind, pure, Except.pure, throw, throwThe,
    MonadExceptOf.throw, afterFlags]
  rcases flagsOff [] ts with e | ⟨off, rest⟩
  · rfl
  · simp

theorem flagChange_plain {ts : List Token} (h : ∀ rest, ts ≠ .plain '-' :: rest) :
    flagChange ts = ((flagsOn [] ts).map fun x => ((x.1, x.2.1), x.2.2)).bind fun x =>
      afterFlags x.1 x.2 := by
  simp only [flagChange, bind, Except.bind, pure, Except.pure, throw, throwThe,
    MonadExceptOf.throw, afterFlags]
  rcases flagsOn [] ts with e | ⟨on, stop, rest⟩
  · rfl
  simp only [Except.map]
  split
  · rfl
  split
  · rfl
  split
  · rcases flagsOff [] rest with e | ⟨off, rest⟩
    · rfl
    · simp only
  · simp only

theorem steady_afterFlags (x : List Char × Char) (ts : List Token) : Steady (afterFlags x) ts := by
  obtain ⟨on, stop⟩ := x
  unfold afterFlags
  by_cases hwhole : (stop == ')') = true
  · exact .done List.suffix_rfl fun us _ => if_pos hwhole
  by_cases ht : on.contains 't' = true
  · exact .fail fun us _ => by simp only [if_neg hwhole, if_pos ht]
  simp only [if_neg hwhole, if_neg ht]
  refine Steady.bind (g := fun ts => if stop == '-' then flagsOff [] ts else .ok ([], ts))
    (h := fun off ts => if off.contains 't' || on.any off.contains then .error .malformed
      else .ok (FlagChange.group on off, ts)) ?_ fun off rest => ?_
  · by_cases hminus : (stop == '-') = true
    · simpa only [if_pos hminus] using steady_flagsOff [] ts
    · exact .done List.suffix_rfl fun us _ => if_neg hminus
  · by_cases hoff : (off.contains 't' || on.any off.contains) = true
    · exact .fail fun us _ => if_pos hoff
    · exact .done List.suffix_rfl fun us _ => if_neg hoff

theorem steady_flagChange (ts : List Token) : Steady flagChange ts := by
  by_cases h : ∃ rest, ts = .plain '-' :: rest
  · obtain ⟨rest, rfl⟩ := h
    exact .of_eq (List.suffix_cons _ rest) (fun us _ => flagChange_minus _)
      (steady_afterFlags ([], '-') rest)
  · have h' : ∀ rest, ts ≠ .plain '-' :: rest := fun rest heq => h ⟨rest, heq⟩
    exact .of_eq List.suffix_rfl (fun us hus => flagChange_plain (hus.append_ne (by decide) h'))
      ((steady_flagsOn [] ts).bind steady_afterFlags)

end SigmaRules.Regex
