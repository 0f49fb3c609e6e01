/-
SigmaRules/Proofs/Search/EveryPattern.lean

Searches with the modifier `all`.  Each pattern is then an expression of its own,
and a search matches if and only if the searches for each single one of its patterns
do (`succeeds_all_iff`).  This goes for patterns of all kinds but one, because
expressions do not see each other: whether they match is asked one by one
(`matchesAllOf_eq_ok`), and every expression of a valid search can be asked
(`exists_matchesAllOf_single`).

Blocks of addresses are no expressions, and `all` changes nothing about them.  A
search for them matches if one of the searches for a single block does
(`matchesNetworks_iff`).
-/
import SigmaRules.Proofs.Search.Answering
import SigmaRules.Proofs.Search.Expression
import SigmaRules.Proofs.Regex.Outline

namespace SigmaRules.Search

open Regex

/-! ### One expression after the other -/

/-- If each expression on its own has an answer, so have all of them together: whether all
match. -/
theorem matchesAllOf_eq_ok {α : Type} {value : List Char} {text : α → List Char}
    {answer : α → Bool} {as : List α}
    (h : ∀ a ∈ as, matchesAllOf value [text a] = .ok (answer a)) :
    matchesAllOf value (as.map text) = .ok (as.all answer) := by
  induction as with
  | nil => rfl
  | cons a as ih =>
    obtain ⟨ha, has⟩ := List.forall_mem_cons.mp h
    rw [matchesAllOf] at ha
    rw [List.map_cons, matchesAllOf, List.all_cons]
    rcases hread : readRegex { ignoreCase := true } (text a) with f | - | n
    · rw [hread] at ha
      cases ha
    -- an expression that is malformed does not match
    · rw [hread] at ha
      have hfalse : false = answer a := Except.ok.inj ha
      rw [← hfalse]
      rfl
    · rw [hread] at ha
      have hn : (true && n.search value) = answer a := Except.ok.inj ha
      rw [Bool.true_and] at hn
      rw [ih has, ← hn, Bool.and_comm]
      rfl

section Valid

variable {s : Search} {k : PatternKind}

/-- The expression of a pattern of a valid search is read, or is malformed. -/
theorem exists_readRegex_expression (hk : s.kind = .ok k) (hexpand : .expand ∉ s.modifiers)
    {p : String} (hp : p ∈ s.patterns) :
    ∃ n, readRegex { ignoreCase := true } (expression s.modifiers s.field p) = .ok n := by
  obtain ⟨-, -, hkind, hread⟩ := kind_eq_ok_iff.mp hk
  by_cases hre : .re ∈ s.modifiers
  · -- the pattern has been read with regard to letter case
    obtain rfl : PatternKind.regex = k := by rw [← hkind, kindOf, kindFrom, if_pos hre]
    obtain ⟨n, hn⟩ := (exists_parse_iff _).mp (hread hexpand p hp)
    refine ⟨some n, ?_⟩
    rw [expression, if_pos (by simpa using hre), readRegex, hn]
  · have hhead := headed_expression s.modifiers s.field p []
    rw [List.append_nil] at hhead
    have hfits := fits_expression (p := p) (fun h => absurd h hre) s.field
    obtain ⟨n, hn, -⟩ := exists_readRegex { ignoreCase := true } hhead hfits
    exact ⟨n, hn⟩

/-- Whether the expression of a pattern of a valid search matches has an answer. -/
theorem exists_matchesAllOf_single (hk : s.kind = .ok k) (hexpand : .expand ∉ s.modifiers)
    {p : String} (hp : p ∈ s.patterns) (value : List Char) :
    ∃ b, matchesAllOf value [expression s.modifiers s.field p] = .ok b := by
  obtain ⟨n, hn⟩ := exists_readRegex_expression hk hexpand hp
  rw [matchesAllOf, hn]
  rcases n with - | n
  · exact ⟨false, rfl⟩
  · exact ⟨true && n.search value, rfl⟩

end Valid

/-! ### Blocks of addresses -/

/-- A text is within one of several blocks if and only if it is within a single one. -/
theorem matchesNetworks_iff (patterns : List String) (value : String) :
    matchesNetworks patterns value = true ↔
      ∃ p ∈ patterns, matchesNetworks [p] value = true := by
  simp only [matchesNetworks]
  rcases Network.Block.ofText? value with - | b
  · simp
  · simp only [List.any_eq_true, List.mem_filterMap, List.mem_singleton]
    constructor
    · rintro ⟨c, ⟨p, hp, hc⟩, hcontains⟩
      exact ⟨p, hp, c, ⟨p, rfl, hc⟩, hcontains⟩
    · rintro ⟨p, hp, c, ⟨q, rfl, hc⟩, hcontains⟩
      exact ⟨c, ⟨q, hp, hc⟩, hcontains⟩

/-! ### Searches -/

/-- **With `all`, every pattern has to match.**  A valid search with `all` and without `expand`
always has an answer.  It matches if and only if, for each of its patterns, the search with the
same field and modifiers and only that pattern does.  Searches for blocks of addresses are the
exception: they match if and only if one of those searches does. -/
theorem succeeds_all_iff {s : Search} {k : PatternKind} (hk : s.kind = .ok k)
    (hall : .all ∈ s.modifiers) (hexpand : .expand ∉ s.modifiers) (e : Entry)
    (ps : Placeholders) :
    ∃ b, s.succeeds e ps = .ok b ∧
      (.cidr ∉ s.modifiers → (b = true ↔
        ∀ p ∈ s.patterns, ({ s with patterns := [p] } : Search).succeeds e ps = .ok true)) ∧
      (.cidr ∈ s.modifiers → (b = true ↔
        ∃ p ∈ s.patterns, ({ s with patterns := [p] } : Search).succeeds e ps = .ok true)) := by
  have hne : s.patterns ≠ [] := (kind_eq_ok_iff.mp hk).1
  have hsingle : ∀ p ∈ s.patterns, ({ s with patterns := [p] } : Search).succeeds e ps
      = s.matchesText [p] (s.inspected e) := by
    intro p hp
    have hkind := kind_single hexpand hk hp
    exact succeeds_eq_matchesText hkind (List.cons_ne_nil p []) hexpand e ps
  rw [succeeds_eq_matchesText hk hne hexpand]
  by_cases hcidr : .cidr ∈ s.modifiers
  · have htext : ∀ qs, s.matchesText qs (s.inspected e)
        = .ok (matchesNetworks qs (s.inspected e)) := by
      intro qs
      rw [matchesText, has, if_pos (by simpa using hcidr)]
    refine ⟨_, htext _, fun h => absurd hcidr h, fun _ => ?_⟩
    rw [matchesNetworks_iff]
    refine exists_congr fun p => and_congr_right fun hp => ?_
    rw [hsingle p hp, htext, Except.ok.injEq]
  · have htext : ∀ qs, s.matchesText qs (s.inspected e)
        = matchesAllOf (s.inspected e).toList (qs.map (expression s.modifiers s.field)) := by
      intro qs
      rw [matchesText, has, if_neg (by simpa using hcidr), sources, has,
        if_pos (by simpa using hall)]
    -- each expression has its answer, and all of them together have the conjunction
    choose! answer hanswer using fun p hp =>
      exists_matchesAllOf_single hk hexpand (p := p) hp (s.inspected e).toList
    refine ⟨s.patterns.all answer, (htext _).trans (matchesAllOf_eq_ok hanswer), fun _ => ?_,
      fun h => absurd h hcidr⟩
    rw [List.all_eq_true]
    refine forall₂_congr fun p hp => ?_
    rw [hsingle p hp, htext, List.map_singleton, hanswer p hp, Except.ok.injEq]

/-- The statement at three patterns, one of them with a dash that stands for any other. -/
theorem sample_succeeds_all :
    let s : Search := ⟨some "CommandLine", [.all, .windash, .contains], ["net", " /add", "user"]⟩
    let e : Entry := { fields := [("CommandLine", "NET user bob -add")] }
    s.kind = .ok .glob ∧ .all ∈ s.modifiers ∧ .expand ∉ s.modifiers ∧
      s.succeeds e [] = .ok true := by
  intro s e
  have hkind : s.kind = .ok .glob := rfl
  have hall : .all ∈ s.modifiers := by decide
  have hexpand : .expand ∉ s.modifiers := by decide
  obtain ⟨b, hb, hiff, -⟩ := succeeds_all_iff hkind hall hexpand e []
  have hsingle : ∀ p ∈ s.patterns,
      ({ s with patterns := [p] } : Search).succeeds e [] = .ok true := by
    decide +kernel
  have hmatch : b = true := (hiff (by decide)).mpr hsingle
  exact ⟨hkind, hall, hexpand, hb.trans (congrArg Except.ok hmatch)⟩

/-- With `cidr` the modifier is passed over: an address is found though it is in one of the blocks
only. -/
theorem all_is_ignored_with_cidr :
    let s : Search := ⟨some "DestinationIp", [.cidr, .all], ["10.0.0.0/8", "192.168.0.0/16"]⟩
    let e : Entry := { fields := [("DestinationIp", "10.1.2.3")] }
    s.kind = .ok .network ∧ s.succeeds e [] = .ok true ∧
      ({ s with patterns := ["192.168.0.0/16"] } : Search).succeeds e [] = .ok false := by
  exact ⟨by decide +kernel, by decide +kernel, by decide +kernel⟩

end SigmaRules.Search
