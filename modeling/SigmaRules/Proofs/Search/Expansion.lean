/-
SigmaRules/Proofs/Search/Expansion.lean

Searches with placeholders.  The modifier `expand` plays no part but to replace the
patterns by the values of the placeholders they name: the search without it, for these
values, is valid and has the same answer (`expansion_is_substitution`).

Nothing checks the values.  Globs need no check; of blocks of addresses, values that are
none are passed over when they are matched, so they may be left out before
(`matchesNetworks_filter`).
-/
import SigmaRules.Proofs.Search.Answering
import SigmaRules.Proofs.Search.Expression

namespace SigmaRules.Search

/-- The values of the placeholders that the patterns name, in the order of the patterns. -/
def namedValues (patterns : List String) (ps : Placeholders) : List String :=
  patterns.flatMap fun p => ps.values (String.ofList (Pattern.placeholderName p.toList))

/-- The values that a search can look for: of blocks of addresses, those that are some. -/
def usableValues (modifiers : List Modifier) (values : List String) : List String :=
  if .cidr ∈ modifiers then values.filter fun v => (Network.Block.ofText? v).isSome else values

/-- Values that are no blocks of addresses do not matter. -/
theorem matchesNetworks_filter (values : List String) (value : String) :
    matchesNetworks (values.filter fun v => (Network.Block.ofText? v).isSome) value
      = matchesNetworks values value := by
  have hsame : (values.filter fun v => (Network.Block.ofText? v).isSome).filterMap
      Network.Block.ofText? = values.filterMap Network.Block.ofText? := by
    rw [List.filterMap_filter]
    refine List.filterMap_congr fun v _ => ?_
    rcases Network.Block.ofText? v <;> rfl
  rw [matchesNetworks, matchesNetworks, hsame]

section Expand

variable {field : Option String} {ms : List Modifier} {patterns : List String}

/-- Patterns are read the same with `expand` as without. -/
theorem expression_expand (field : Option String) (p : String) :
    expression (.expand :: ms) field p = expression ms field p := by
  simp [expression, plainExpression]

theorem sources_expand (values : List String) :
    (Search.mk field (.expand :: ms) patterns).sources values
      = (Search.mk field ms values).sources values := by
  have hexpression : expression (.expand :: ms) field = expression ms field :=
    funext (expression_expand field)
  simp [sources, has, hexpression]

/-- **A search for values matches** what the search with their placeholders does. -/
theorem matchesText_expand (values : List String) (value : String) :
    (Search.mk field (.expand :: ms) patterns).matchesText values value
      = (Search.mk field ms (usableValues ms values)).matchesText (usableValues ms values)
          value := by
  by_cases hcidr : .cidr ∈ ms
  · rw [matchesText_networks (List.mem_cons_of_mem _ hcidr), matchesText_networks hcidr,
      usableValues, if_pos hcidr, matchesNetworks_filter]
  · rw [usableValues, if_neg hcidr, matchesText, matchesText, has, has,
      if_neg (by simpa using hcidr), if_neg (by simpa using hcidr), sources_expand]

theorem resolve_expand (ps : Placeholders) :
    (Search.mk field (.expand :: ms) patterns).resolve ps = namedValues patterns ps := by
  rw [resolve, has, if_pos (by simp)]
  rfl

/-- Without regular expressions, the search for the values is valid if there are some. -/
theorem kind_usableValues {k : PatternKind}
    (hk : (Search.mk field (.expand :: ms) patterns).kind = .ok k) (hre : .re ∉ ms)
    {values : List String} (hne : usableValues ms values ≠ []) :
    (Search.mk field ms (usableValues ms values)).kind = .ok k := by
  obtain ⟨-, hfit, hkind, -⟩ := kind_eq_ok_iff.mp hk
  obtain ⟨-, -, hrest⟩ := ModifiersFit.cons_expand_iff.mp hfit
  have hexpand : .expand ∉ ms := hrest.expand_first
  have hsame : kindOf ms = k := by
    rw [← hkind, kindOf, kindOf, kindFrom_of_ne .glob ms (by simp) (by simp)]
  refine kind_eq_ok_iff.mpr ⟨hne, ⟨hrest.known, ?_, ?_, hrest.one_kind⟩, hsame, fun _ => ?_⟩
  · exact fun hmem => hexpand (List.mem_of_mem_tail hmem)
  · exact fun hmem => absurd hmem hexpand
  · show Readable k (usableValues ms values)
    rw [← hsame, kindOf, kindFrom, if_neg hre]
    split
    case isTrue hcidr =>
      intro v hv
      rw [usableValues, if_pos hcidr] at hv
      exact Option.isSome_iff_exists.mp (List.mem_filter.mp hv).2
    case isFalse => trivial

/-- No values, and none that are of use, are not found. -/
theorem matchesText_expand_nil {values : List String} (hne : values ≠ [])
    (h : usableValues ms values = []) (value : String) :
    (Search.mk field (.expand :: ms) patterns).matchesText values value = .ok false := by
  have hcidr : .cidr ∈ ms := by
    by_contra hcidr
    rw [usableValues, if_neg hcidr] at h
    exact hne h
  rw [matchesText_expand, h, matchesText, has, if_pos (by simpa using hcidr), matchesNetworks]
  split <;> rfl

theorem usableValues_nil : usableValues ms [] = [] := by
  rw [usableValues]
  split <;> rfl

end Expand

/-- **Placeholders are replaced by their values.**  Let a search be valid, and let `expand` be its
first modifier and `re` be none of them.  Of the values of the placeholders that it names, it can
look for all, or for those that are blocks of addresses if `cidr` is among its modifiers.  If there
are none, it does not match.  Otherwise the search for these values without `expand` is valid, and
both have the same answer, with the values of placeholders given to the one only. -/
theorem expansion_is_substitution {s : Search} {k : PatternKind} {ms : List Modifier}
    (hk : s.kind = .ok k) (hmodifiers : s.modifiers = .expand :: ms) (hre : .re ∉ s.modifiers)
    (e : Entry) (ps : Placeholders) :
    let vs := usableValues ms (namedValues s.patterns ps)
    (vs = [] → s.succeeds e ps = .ok false) ∧
      (vs ≠ [] → (Search.mk s.field ms vs).kind = .ok k ∧
        ∃ b, s.succeeds e ps = .ok b ∧ (Search.mk s.field ms vs).succeeds e [] = .ok b) := by
  intro vs
  obtain ⟨field, modifiers, patterns⟩ := s
  obtain rfl : modifiers = .expand :: ms := hmodifiers
  let s : Search := ⟨field, .expand :: ms, patterns⟩
  have hresolve : s.resolve ps = namedValues patterns ps := resolve_expand ps
  constructor
  · intro hvs
    by_cases hnone : namedValues patterns ps = []
    · rw [succeeds, hk]
      exact if_pos (by rw [hresolve, hnone]; rfl)
    · rw [succeeds_eq_of_resolve hk (hresolve ▸ hnone), hresolve]
      exact matchesText_expand_nil hnone hvs _
  · intro hvs
    have hsome : namedValues patterns ps ≠ [] := by
      intro hnone
      exact hvs (by rw [show vs = usableValues ms [] from hnone ▸ rfl, usableValues_nil])
    have hkind := kind_usableValues hk (fun hmem => hre (List.mem_cons_of_mem _ hmem)) hvs
    have hexpand : .expand ∉ ms :=
      (ModifiersFit.cons_expand_iff.mp (kind_eq_ok_iff.mp hk).2.1).2.2.expand_first
    -- without regular expressions there is no count that could not be read
    have hfit : s.CountsFit ps := fun hmem => absurd hmem hre
    obtain ⟨b, hb, -⟩ := exists_succeeds hfit e
    refine ⟨hkind, b, hb, ?_⟩
    calc (Search.mk field ms vs).succeeds e []
        = (Search.mk field ms vs).matchesText vs (s.inspected e) :=
          succeeds_eq_matchesText hkind hvs hexpand e []
      _ = s.matchesText (s.resolve ps) (s.inspected e) := by
          rw [hresolve]
          exact (matchesText_expand _ _).symm
      _ = s.succeeds e ps := (succeeds_eq_of_resolve hk (hresolve ▸ hsome) e).symm
      _ = .ok b := hb

/-- The statement at blocks of addresses: of the values of three placeholders, one is no block, and
one placeholder has no values. -/
theorem sample_expansion :
    let s : Search := ⟨some "Ip", [.expand, .cidr], ["%Home%", "%Away%", "%Work%"]⟩
    let ps : Placeholders := [("Work", ["10.0.0.0/8"]), ("Home", ["router", "::1"])]
    let e : Entry := { fields := [("Ip", "10.1.2.3")] }
    s.kind = .ok .network ∧ .re ∉ s.modifiers ∧
      usableValues [.cidr] (namedValues s.patterns ps) = ["::1", "10.0.0.0/8"] ∧
      s.succeeds e ps = .ok true ∧ s.succeeds e [("Home", ["router"])] = .ok false := by
  intro s ps e
  have hkind : s.kind = .ok .network := rfl
  have hre : .re ∉ s.modifiers := by decide
  have hvalues : usableValues [.cidr] (namedValues s.patterns ps) = ["::1", "10.0.0.0/8"] := by
    decide +kernel
  have hnone : usableValues [.cidr] (namedValues s.patterns [("Home", ["router"])]) = [] := by
    decide +kernel
  have hsome : usableValues [.cidr] (namedValues s.patterns ps) ≠ [] := by
    rw [hvalues]
    exact List.cons_ne_nil _ _
  obtain ⟨-, b, hb, hdirect⟩ := (expansion_is_substitution hkind rfl hre e ps).2 hsome
  have hfound : (Search.mk s.field [.cidr] ["::1", "10.0.0.0/8"]).succeeds e [] = .ok true := by
    decide +kernel
  rw [hvalues, hfound] at hdirect
  exact ⟨hkind, hre, hvalues, hb.trans hdirect.symm,
    (expansion_is_substitution hkind rfl hre e _).1 hnone⟩

end SigmaRules.Search
