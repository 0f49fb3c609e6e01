/-
SigmaRules/Proofs/Search/SingleRegex.lean

Searches for one regular expression.  The expression is never read as it is
written: it is made a group first, with the flags at its start as those of the
group.  An expression that closes only groups that it opened is accepted if
and only if it is a regular expression on its own, sets flags of the whole
expression in no other place, and does not end in a comment; and then the
search looks for what the expression says on its own (`check_regex_iff`).

The condition is needed.  An expression that closes the group that is made for
it, and opens another one, is accepted without being a regular expression, and
expressions with flags in two places are not accepted
(`check_regex_differs_from_parse`).
-/
import SigmaRules.Proofs.Regex.Scoping
import SigmaRules.Proofs.Search.RegexList

namespace SigmaRules

namespace Regex

/-- **An expression is made a group**, with the flags at its start as those of the group. -/
theorem enclosed {f : Flags} {s : List Char} (h : ClosesOwn f s) :
    Enclosed (Scopeable f s) (parse f s) (parse f (Search.grouped (Pattern.scopeFlags s))) := by
  by_cases hs : Pattern.scopeFlags s = s
  · rw [hs]
    exact enclosed_grouped h hs
  · obtain ⟨letters, body, hne, hletters, hown, hscoped⟩ :=
      (Search.scopeFlags_cases s).resolve_left hs
    exact enclosed_letters hletters hne hown hscoped hs h

/-- A regular expression closes no group that it did not open. -/
theorem closesOwn_of_parse {f : Flags} {s : List Char} {n : Node} (h : parse f s = .ok n) :
    ClosesOwn f s := by
  obtain ⟨q, hq, -⟩ := parse_eq_ok_iff.mp h
  exact fun m hm => hq.isStrayClose_eq_false hm

end Regex

namespace Search

open Regex

/-- One pattern is accepted if it can be read as a group. -/
theorem check_regex_eq_ok_iff {p : String} :
    check [.re] [p] = .ok .regex ↔ ∃ n, parse {} (regexSource p) = .ok n := by
  have hkind : kind ⟨none, [.re], [p]⟩ = .ok .regex ↔ _ :=
    kind_regexes_iff (by decide) (by decide)
  refine hkind.trans ⟨fun h => h.2.2 p (by simp), fun h => ⟨by simp, rfl, ?_⟩⟩
  simpa using h

/-- **One regular expression is accepted** and closes only groups that it opened if and only if it
is a regular expression on its own and can be made a group.  Then the search for it has an answer
for every text, and that is whether the expression on its own matches somewhere in the text, up to
letter case. -/
theorem check_regex_iff (p : String) :
    (check [.re] [p] = .ok .regex ∧ ClosesOwn { ignoreCase := true } p.toList ↔
      (∃ n, parse {} p.toList = .ok n) ∧ Scopeable { ignoreCase := true } p.toList) ∧
    (check [.re] [p] = .ok .regex → ClosesOwn { ignoreCase := true } p.toList →
      ∃ n, parse { ignoreCase := true } p.toList = .ok n ∧
        ∀ (field : Option String) (e : Entry) (ps : Placeholders),
          succeeds ⟨field, [.re], [p]⟩ e ps
            = .ok (n.search (inspected ⟨field, [.re], [p]⟩ e).toList)) := by
  rw [check_regex_eq_ok_iff, exists_parse_iff, exists_parse_iff]
  by_cases hown : ClosesOwn { ignoreCase := true } p.toList
  case neg =>
    refine ⟨iff_of_false (fun h => hown h.2) ?_, fun _ h => absurd h hown⟩
    rintro ⟨⟨n, hn⟩, -⟩
    exact hown (closesOwn_of_parse hn)
  cases enclosed hown with
  | @read n m hscope hn hm hsearch =>
    refine ⟨iff_of_true ⟨⟨m, hm⟩, hown⟩ ⟨⟨n, hn⟩, hscope⟩, fun _ _ => ⟨n, hn, ?_⟩⟩
    intro field e ps
    have hkind : kind ⟨field, [.re], [p]⟩ = .ok .regex :=
      check_regex_eq_ok_iff.mpr ((exists_parse_iff _).mpr ⟨m, hm⟩)
    rw [succeeds_single (by decide) (by decide) (by decide) (by decide) hkind hm, hsearch]
  | unread hn hm =>
    refine ⟨iff_of_false ?_ ?_, ?_⟩
    · rintro ⟨⟨m, h⟩, -⟩
      exact hm m h
    · rintro ⟨⟨n, h⟩, hscope⟩
      exact hn hscope n h
    · rintro ⟨m, h⟩
      exact absurd h (hm m)

/-- The statement at an expression with flags at its start, a group and a comment. -/
theorem sample_check_regex :
    check [.re] ["(?ix)(a | b)+#c\nd"] = .ok .regex ∧
      ClosesOwn { ignoreCase := true } "(?ix)(a | b)+#c\nd".toList ∧
      Scopeable { ignoreCase := true } "(?ix)(a | b)+#c\nd".toList ∧
      ∃ n, parse { ignoreCase := true } "(?ix)(a | b)+#c\nd".toList = .ok n ∧
        n.search "xABD".toList = true := by
  have haccepted : check [.re] ["(?ix)(a | b)+#c\nd"] = .ok .regex := rfl
  have hown : ClosesOwn { ignoreCase := true } "(?ix)(a | b)+#c\nd".toList := by decide
  obtain ⟨hiff, hsearch⟩ := check_regex_iff "(?ix)(a | b)+#c\nd"
  obtain ⟨-, hscope⟩ := hiff.mp ⟨haccepted, hown⟩
  obtain ⟨n, hn, hanswer⟩ := hsearch haccepted hown
  have hmatch : succeeds ⟨none, [.re], ["(?ix)(a | b)+#c\nd"]⟩ { message := "xABD" } []
      = .ok true := rfl
  exact ⟨haccepted, hown, hscope, n, hn, Except.ok.inj ((hanswer none _ []).symm.trans hmatch)⟩

/-- An expression that closes the group made for it is accepted, though it is none on its own, and
one that sets flags in two places is not accepted, though it is one on its own. -/
theorem check_regex_differs_from_parse :
    check [.re] ["a)(?:b"] = .ok .regex ∧ parse {} "a)(?:b".toList = .error .malformed ∧
      check [.re] ["(?i)(?s)a"] = .error (.invalid (.notRegex "(?i)(?s)a")) ∧
      ∃ n, parse {} "(?i)(?s)a".toList = .ok n := by
  exact ⟨rfl, rfl, rfl, _, rfl⟩

end Search

end SigmaRules
