/-
SigmaRules/Proofs/Search/BadValues.lean

Placeholders with values that are no regular expressions.  Nothing checks the values of a
search with `expand`: they are made groups, and then read one by one or as one choice.  A
value that is no regular expression keeps the search from matching
(`bad_value_fails_closed`), if it closes only groups that it opened, and if it is read
alone or the values keep apart (`KeepApart`).

Both conditions are needed.  A value can close the group that is made for it and open
another one, and two values can make up for what the other one lacks
(`bad_values_match`).
-/
import SigmaRules.Proofs.Regex.Separation
import SigmaRules.Proofs.Search.SingleRegex

namespace SigmaRules.Search

open Regex

/-! ### What is read -/

theorem parse_of_readRegex {f : Flags} {e : List Char} {n : Node}
    (h : readRegex f e = .ok (some n)) : parse f e = .ok n := by
  rw [readRegex] at h
  split at h
  case h_1 hn =>
    obtain rfl := Option.some.inj (Except.ok.inj h)
    exact hn
  all_goals cases h

/-- Expressions that all match are regular expressions. -/
theorem exists_parse_of_matchesAllOf {value : List Char} {es : List (List Char)}
    (h : matchesAllOf value es = .ok true) :
    ∀ e ∈ es, ∃ n, parse { ignoreCase := true } e = .ok n := by
  induction es with
  | nil => simp
  | cons e es ih =>
    rw [matchesAllOf] at h
    obtain ⟨n, hn, h⟩ := exists_of_bind_eq_ok h
    rcases n with - | n
    · cases h
    · obtain ⟨b, hb, h⟩ := exists_of_bind_eq_ok h
      have hboth : (b && n.search value) = true := Except.ok.inj h
      obtain ⟨rfl, -⟩ := Bool.and_eq_true_iff.mp hboth
      exact List.forall_mem_cons.mpr ⟨⟨n, parse_of_readRegex hn⟩, ih hb⟩

/-- A text that closes only groups that it opened and can be made a group is a regular
expression. -/
theorem exists_parse_of_regexSource {v : String} {m : Node}
    (hown : ClosesOwn { ignoreCase := true } v.toList)
    (h : parse { ignoreCase := true } (regexSource v) = .ok m) :
    ∃ n, parse {} v.toList = .ok n := by
  rw [exists_parse_iff]
  cases enclosed hown with
  | read _ hn _ _ => exact ⟨_, hn⟩
  | unread _ hm => exact absurd h (hm m)

/-- The values as one choice: each stays within its bars and has the groups that its conditions ask
for, and none refers to a group of one before it. -/
structure KeepApart (values : List String) : Prop where
  nests : ∀ v ∈ values, Nests { ignoreCase := true } [{ ignoreCase := true }]
    (tokenize (regexSource v))
  exist : ∀ v ∈ values, ∀ q,
    Reads (.start { ignoreCase := true }) (tokenize (regexSource v)) q [] →
      ∀ i ∈ q.asked, i ≤ q.groups
  separate : values.Pairwise fun v w => Separate (regexConstructs v) (regexConstructs w)

/-- **Values that are read together** are read one by one, if they keep apart. -/
theorem KeepApart.exists_parse {values : List String} (h : KeepApart values) {n : Node}
    (hn : parse { ignoreCase := true } (alternatives (values.map regexSource)) = .ok n) :
    ∀ v ∈ values, ∃ m, parse { ignoreCase := true } (regexSource v) = .ok m := by
  intro v hv
  have hcontained : ∀ w ∈ values, SelfContained { ignoreCase := true } (regexSource w) :=
    fun w hw => ⟨.inr ⟨_, rfl⟩, tokenize_grouped_ne _, h.nests w hw, h.exist w hw⟩
  exact exists_parse_of_alternatives (List.forall_mem_map.mpr hcontained)
    (List.pairwise_map.mpr h.separate) hn _ (List.mem_map_of_mem hv)

/-! ### Searches -/

section Search

variable {s : Search} {ps : Placeholders} {v : String}

/-- A search for regular expressions that matches can read what it looks for. -/
theorem exists_parse_of_succeeds (hre : .re ∈ s.modifiers) {e : Entry}
    (h : s.succeeds e ps = .ok true) :
    ∀ x ∈ s.sources (s.resolve ps), ∃ n, parse { ignoreCase := true } x = .ok n := by
  rw [succeeds] at h
  split at h
  case h_1 => cases h
  case h_2 => cases h
  case h_3 k hk =>
    dsimp only at h
    split at h
    · cases h
    obtain ⟨-, hfit, -⟩ := kind_eq_ok_iff.mp hk
    have hcidr : .cidr ∉ s.modifiers := fun hmem => hfit.one_kind ⟨.inr hre, .inr hmem⟩
    rw [matchesText, has, if_neg (by simpa using hcidr)] at h
    exact exists_parse_of_matchesAllOf h

/-- A search for regular expressions that matches can read each of its values as a group. -/
theorem exists_parse_regexSource (hre : .re ∈ s.modifiers) (hv : v ∈ s.resolve ps)
    (hapart : .all ∈ s.modifiers ∨ s.resolve ps = [v] ∨ KeepApart (s.resolve ps)) {e : Entry}
    (h : s.succeeds e ps = .ok true) :
    ∃ m, parse { ignoreCase := true } (regexSource v) = .ok m := by
  have hread := exists_parse_of_succeeds hre h
  have hexpression : expression s.modifiers s.field = regexSource :=
    funext fun p => if_pos (by simpa using hre)
  rw [sources, hexpression] at hread
  split at hread
  case isTrue => exact hread _ (List.mem_map_of_mem hv)
  case isFalse hall =>
    obtain ⟨n, hn⟩ := hread _ (List.mem_singleton_self _)
    rcases hapart with hmem | hone | hkeep
    · exact absurd (by simpa [has] using hmem) hall
    · rw [hone] at hn
      exact ⟨n, hn⟩
    · exact hkeep.exists_parse hn v hv

/-- **A value that is no regular expression keeps a search from matching.**  Let a search be for
regular expressions, and let one of the values of its placeholders be none.  If this value closes
only groups that it opened, and if `all` is among the modifiers, or it is the only value, or the
values keep apart, then the search does not match.  Its answer is no, unless there is a count in a
value that is too large to be read. -/
theorem bad_value_fails_closed (hre : .re ∈ s.modifiers) (hv : v ∈ s.resolve ps)
    (hbad : ∀ n, parse {} v.toList ≠ .ok n) (hown : ClosesOwn { ignoreCase := true } v.toList)
    (hapart : .all ∈ s.modifiers ∨ s.resolve ps = [v] ∨ KeepApart (s.resolve ps)) (e : Entry) :
    s.succeeds e ps ≠ .ok true ∧ (s.CountsFit ps → s.succeeds e ps = .ok false) := by
  have hno : s.succeeds e ps ≠ .ok true := by
    intro hyes
    obtain ⟨m, hm⟩ := exists_parse_regexSource hre hv hapart hyes
    obtain ⟨n, hn⟩ := exists_parse_of_regexSource hown hm
    exact hbad n hn
  refine ⟨hno, fun hfit => ?_⟩
  obtain ⟨b, hb, -⟩ := exists_succeeds hfit e
  rcases b with - | -
  · exact hb
  · exact absurd hb hno

end Search

/-- The statement at a value that leaves a group open, with another one after it. -/
theorem sample_bad_value :
    let s : Search := ⟨none, [.expand, .re], ["%V%"]⟩
    let ps : Placeholders := [("V", ["(", "b"])]
    "(" ∈ s.resolve ps ∧ (∀ n, parse {} "(".toList ≠ .ok n) ∧
      ClosesOwn { ignoreCase := true } "(".toList ∧ KeepApart (s.resolve ps) ∧
      s.succeeds { message := "b" } ps = .ok false := by
  intro s ps
  have hre : .re ∈ s.modifiers := by decide
  have hv : "(" ∈ s.resolve ps := by decide
  have hbad : ∀ n, parse {} "(".toList ≠ .ok n := nofun
  have hown : ClosesOwn { ignoreCase := true } "(".toList := by decide
  have hapart : KeepApart (s.resolve ps) := by
    have hquiet : ∀ t ts, ¬OpenComment { ignoreCase := true } t ts := fun t ts h =>
      nomatch h.verbose
    have hresolve : s.resolve ps = ["(", "b"] := by decide
    rw [hresolve]
    refine ⟨?_, ?_, by decide⟩
    · -- one group stays open at the end of the first value, and none at that of the second
      intro v hv
      rcases List.mem_pair.mp hv with rfl | rfl
      · exact .step rfl (hquiet _ _) (.step rfl (hquiet _ _) (.step rfl (hquiet _ _) .done))
      · exact .step rfl (hquiet _ _) (.step rfl (hquiet _ _) (.step rfl (hquiet _ _) .done))
    · intro v hv q hq
      have hasked : (readAll (tokenize (regexSource v)).length (.start { ignoreCase := true })
          (tokenize (regexSource v))).map Reading.asked = .ok [] := by
        rcases List.mem_pair.mp hv with rfl | rfl <;> rfl
      rw [hq.readAll_eq (Nat.le_refl _)] at hasked
      simp [Except.ok.inj hasked]
  have hfit : s.CountsFit ps := fun _ => by decide
  exact ⟨hv, hbad, hown, hapart,
    (bad_value_fails_closed hre hv hbad hown (.inr (.inr hapart)) _).2 hfit⟩

/-- A value that closes the group made for it and opens another one is looked for, though it is
no regular expression, and so are two values of which one closes the group of the other. -/
theorem bad_values_match :
    let s : Search := ⟨none, [.expand, .re], ["%V%"]⟩
    let e : Entry := { message := "ab" }
    (∀ n, parse {} "a)(?:b".toList ≠ .ok n) ∧ s.succeeds e [("V", ["a)(?:b"])] = .ok true ∧
      (∀ n, parse {} "(a".toList ≠ .ok n) ∧ (∀ n, parse {} "b)".toList ≠ .ok n) ∧
      s.succeeds e [("V", ["(a", "b)"])] = .ok true := by
  exact ⟨nofun, by decide +kernel, nofun, nofun, by decide +kernel⟩

end SigmaRules.Search
