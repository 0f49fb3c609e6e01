/-
SigmaRules/Proofs/Search/LetterCase.lean

Letter case never changes an answer.  Searches find the name of a field in lower
case and the patterns without regard to letter case, so a rule cannot tell
entries apart that differ in the case of ASCII letters only
(`Rule.matchesEntry_of_recased`), as long as its searches are neither for
regular expressions nor for blocks of addresses.

The expression of such a search is read as nodes that ignore letter case,
whatever its modifiers and its patterns are (`isBlind_expression`).  Hence each of
the expressions that a search looks for finds the same in both texts, and
conditions only see the answers of their searches (`Expr.matchesEntry_congr`).
-/
import SigmaRules.Proofs.Regex.IgnoringCase
import SigmaRules.Proofs.Search.Alignment
import SigmaRules.Proofs.Search.Answering
import SigmaRules.Proofs.Search.Glob
import SigmaRules.Proofs.Text.Recasing

namespace SigmaRules

open Regex Pattern Text

/-! ### Entries -/

/-- The entries have the same number of fields, and their messages, the names of their fields and
the values differ, in order, in nothing but the case of ASCII letters. -/
structure Entry.Recased (d e : Entry) : Prop where
  message : Text.Recased d.message e.message
  fields : List.Forall₂ (fun f g => Text.Recased f.1 g.1 ∧ Text.Recased f.2 g.2) d.fields e.fields

/-- The values of a field differ in the same way. -/
theorem Entry.Recased.get {d e : Entry} (h : d.Recased e) (name : String) :
    Text.Recased (d.get name) (e.get name) := by
  have hfields := h.fields
  simp only [Entry.get]
  generalize d.fields = fs at hfields ⊢
  generalize e.fields = gs at hfields ⊢
  induction hfields with
  | nil => rfl
  | @cons f g fs gs hfg _ ih =>
    rw [List.find?_cons, List.find?_cons, lower_eq_of_recased hfg.1]
    rcases lower g.1 == lower name with - | -
    · exact ih
    · exact hfg.2

namespace Search

/-- The texts that a search inspects differ in the same way. -/
theorem recased_inspected {d e : Entry} (h : d.Recased e) (s : Search) :
    Text.Recased (s.inspected d) (s.inspected e) := by
  rw [inspected, inspected]
  split
  · exact h.get _
  · exact h.message

/-! ### Expressions that ignore letter case -/

theorem ignoresCase_literals (w : List Char) : ∀ n ∈ literals .fold w, n.IgnoresCase := by
  intro n hn
  obtain ⟨c, -, rfl⟩ := List.mem_map.mp hn
  rfl

theorem ignoresCase_globNode (c : Char) : (globNode c).IgnoresCase := by
  rw [globNode]
  split
  · trivial
  · split
    · trivial
    · rfl

theorem ignoresCase_anchored {ns : List Node} (h : ∀ n ∈ ns, n.IgnoresCase)
    (startFree endFree : Bool) :
    ∀ n ∈ startNodes startFree ++ (ns ++ endNodes endFree), n.IgnoresCase := by
  simp only [List.forall_mem_append]
  refine ⟨?_, h, ?_⟩
  · rcases startFree with - | - <;> simp [startNodes, Node.IgnoresCase, Anchor.IgnoresCase]
  · rcases endFree with - | - <;> simp [endNodes, Node.IgnoresCase, Anchor.IgnoresCase]

/-- The text is read as nodes that ignore letter case. -/
def IsBlind (e : List Char) : Prop :=
  ∃ ns, Adds { ignoreCase := true } e ns ∧
    (∀ n ∈ ns, n.lookBehindsFixed = true) ∧ ∀ n ∈ ns, n.IgnoresCase

/-- A choice of texts that stand for themselves ignores letter case. -/
theorem isBlind_escaped (ws : List (List Char)) :
    IsBlind (grouped (alternatives (ws.map escape))) := by
  refine ⟨joinAlternatives .fold (ws.map (literals .fold)),
    Adds.grouped fun w _ => Adds.escape rfl w, ?_, ?_⟩
  · exact lookBehindsFixed_joinAlternatives .fold
      (List.forall_mem_map.mpr fun w _ => lookBehindsFixed_literals .fold w)
  · exact ignoresCase_joinAlternatives (List.forall_mem_map.mpr fun w _ => ignoresCase_literals w)

theorem isBlind_glob (p : List Char) : IsBlind (glob p) :=
  ⟨p.map globNode, Adds.glob p, List.forall_mem_map.mpr fun c _ => lookBehindsFixed_globNode c,
    List.forall_mem_map.mpr fun c _ => ignoresCase_globNode c⟩

theorem IsBlind.anchored {e : List Char} (h : IsBlind e) (startFree endFree : Bool) :
    IsBlind (anchored startFree endFree e) := by
  obtain ⟨ns, hadds, hfixed, hblind⟩ := h
  exact ⟨_, adds_anchored rfl rfl hadds startFree endFree,
    lookBehindsFixed_anchored hfixed startFree endFree,
    ignoresCase_anchored hblind startFree endFree⟩

/-- **The expression of a pattern ignores letter case**, unless it is a regular expression. -/
theorem isBlind_expression {modifiers : List Modifier} (hre : .re ∉ modifiers)
    (field : Option String) (p : String) : IsBlind (expression modifiers field p) := by
  rw [expression, if_neg (by simpa using hre)]
  split
  · exact isBlind_escaped (alignments p.toList)
  -- a pattern in base 64 is written out before it is a choice of dashes or a glob
  · refine IsBlind.anchored ?_ (startFree modifiers field) (endFree modifiers field)
    split
    · exact isBlind_escaped _
    · exact isBlind_glob _

theorem exists_parse_alternatives {es : List (List Char)} (h : ∀ e ∈ es, IsBlind e) :
    ∃ n, parse { ignoreCase := true } (alternatives es) = .ok n ∧ n.IgnoresCase := by
  choose! nodes hadds hfixed hblind using h
  have hparse : parse { ignoreCase := true } (alternatives (es.map id))
      = .ok (Node.ofList (joinAlternatives .fold (es.map nodes))) :=
    parse_alternatives hadds hfixed
  rw [List.map_id] at hparse
  refine ⟨_, hparse, Node.ignoresCase_ofList ?_⟩
  exact ignoresCase_joinAlternatives (List.forall_mem_map.mpr hblind)

/-- All that a search looks for ignores letter case. -/
theorem exists_parse_source {s : Search} (hre : .re ∉ s.modifiers) (patterns : List String) :
    ∀ e ∈ s.sources patterns,
      ∃ n, parse { ignoreCase := true } e = .ok n ∧ n.IgnoresCase := by
  have hblind : ∀ e ∈ patterns.map (expression s.modifiers s.field), IsBlind e :=
    List.forall_mem_map.mpr fun p _ => isBlind_expression hre s.field p
  intro e he
  rw [sources] at he
  split at he
  · have hsingle : ∀ d ∈ [e], IsBlind d := by simpa using hblind e he
    exact exists_parse_alternatives hsingle
  · obtain rfl := List.mem_singleton.mp he
    exact exists_parse_alternatives hblind

/-! ### Searches -/

theorem matchesAllOf_of_recased {v w : String} (hvw : Text.Recased v w) {es : List (List Char)}
    (h : ∀ e ∈ es, ∃ n, parse { ignoreCase := true } e = .ok n ∧ n.IgnoresCase) :
    matchesAllOf v.toList es = matchesAllOf w.toList es := by
  induction es with
  | nil => rfl
  | cons e es ih =>
    obtain ⟨⟨n, hn, hblind⟩, hrest⟩ := List.forall_mem_cons.mp h
    have hsearch : n.search v.toList = n.search w.toList := by
      rw [← Node.search_map lowerCode_toLower hblind, hvw,
        Node.search_map lowerCode_toLower hblind]
    have hread : readRegex { ignoreCase := true } e = .ok (some n) := by rw [readRegex, hn]
    rw [matchesAllOf, matchesAllOf, ih hrest, hread]
    exact congrArg (fun b => matchesAllOf w.toList es >>= fun a => .ok (a && b)) hsearch

/-- **A search answers alike** at entries that differ in letter case only. -/
theorem succeeds_of_recased {s : Search} (hre : .re ∉ s.modifiers) (hcidr : .cidr ∉ s.modifiers)
    {d e : Entry} (h : d.Recased e) (ps : Placeholders) : s.succeeds d ps = s.succeeds e ps := by
  have htext : s.matchesText (s.resolve ps) (s.inspected d)
      = s.matchesText (s.resolve ps) (s.inspected e) := by
    have hno : s.has .cidr = false := by simpa [has] using hcidr
    simp only [matchesText, hno, Bool.false_eq_true, if_false]
    exact matchesAllOf_of_recased (recased_inspected h s) (exists_parse_source hre _)
  simp only [succeeds, htext]

end Search

/-! ### Conditions -/

namespace Expr

variable {d e : Entry} {ps : Placeholders}

mutual

/-- A condition answers alike at two entries if all its searches do. -/
theorem matchesEntry_congr : ∀ x : Expr,
    (∀ s ∈ x.searches, s.succeeds d ps = s.succeeds e ps) →
      x.matchesEntry d ps = x.matchesEntry e ps
  | .search s, h => by
    rw [matchesEntry_search, matchesEntry_search, h s (by simp [searches])]
  | .named name c, h => by
    rw [matchesEntry_named, matchesEntry_named, matchesEntry_congr c h]
  | .not c, h => by
    rw [matchesEntry_not, matchesEntry_not, matchesEntry_congr c h]
  | .and cs, h => by
    rw [matchesEntry_and, matchesEntry_and]
    exact allM_congr (matchesEntry_congr_of cs h)
  | .or cs, h => by
    rw [matchesEntry_or, matchesEntry_or]
    exact anyM_congr (matchesEntry_congr_of cs h)

theorem matchesEntry_congr_of : ∀ xs : List Expr,
    (∀ s ∈ searchesOf xs, s.succeeds d ps = s.succeeds e ps) →
      ∀ x ∈ xs, x.matchesEntry d ps = x.matchesEntry e ps
  | [], _ => by simp
  | c :: cs, h => by
    simp only [searchesOf, List.mem_append] at h
    have hc := matchesEntry_congr c fun s hs => h s (.inl hs)
    have hcs := matchesEntry_congr_of cs fun s hs => h s (.inr hs)
    exact List.forall_mem_cons.mpr ⟨hc, hcs⟩

end

/-- A condition has an answer if all its searches have one. -/
theorem exists_matchesEntry {x : Expr} (h : ∀ s ∈ x.searches, ∃ b, s.succeeds e ps = .ok b) :
    ∃ b, x.matchesEntry e ps = .ok b := by
  obtain ⟨o, ho⟩ := exists_outcome x h
  exact ⟨o.pruned.success, by rw [matchesEntry_eq, outcome_brief ho]; rfl⟩

end Expr

/-! ### Rules -/

/-- **Letter case never changes a verdict.**  If no search of a rule is for regular expressions or
for blocks of addresses, the rule answers for all entries, and it matches both or neither of two
entries that differ in nothing but the case of ASCII letters, in the message, in the names of
fields and in their values, whatever the values of placeholders are. -/
theorem Rule.matchesEntry_of_recased {r : Rule}
    (hr : ∀ s ∈ r.expr.searches, .re ∉ s.modifiers ∧ .cidr ∉ s.modifiers)
    {d e : Entry} (h : d.Recased e) (ps : Placeholders) :
    ∃ b, r.matchesEntry d ps = .ok b ∧ r.matchesEntry e ps = .ok b := by
  have hanswers : ∀ s ∈ r.expr.searches, ∃ b, s.succeeds e ps = .ok b := by
    intro s hs
    have hfit : s.CountsFit ps := fun hre => absurd hre (hr s hs).1
    exact (Search.exists_succeeds hfit e).imp fun _ => And.left
  -- the same answer might still be a fault at both, so that there is one is said apart
  have hsame : r.matchesEntry d ps = r.matchesEntry e ps :=
    Expr.matchesEntry_congr r.expr fun s hs =>
      Search.succeeds_of_recased (hr s hs).1 (hr s hs).2 h ps
  obtain ⟨b, hb⟩ := Expr.exists_matchesEntry hanswers
  exact ⟨b, hsame.trans hb, hb⟩

/-- The statement at a command in mixed case: modifiers, a placeholder and a negation do not tell it
from the one in lower case. -/
theorem sample_matchesEntry_of_recased :
    let r : Rule := { title := "", expr := .and [
      .search ⟨some "image", [.endswith], ["\\whoami.exe"]⟩,
      .search ⟨some "CommandLine", [.all, .windash, .contains], ["/ALL", "user"]⟩,
      .or [.search ⟨none, [.base64offset, .contains], ["no"]⟩,
        .search ⟨none, [.expand], ["%Who%"]⟩],
      .not (.named "filter" (.search ⟨some "User", [.startswith], ["Admin"]⟩))] }
    let d : Entry := { message := "Run by BOB", fields :=
      [("Image", "C:\\WHOAMI.exe"), ("CommandLine", "whoami \u2013all -user"), ("USER", "Bob")] }
    let e : Entry := { message := "run BY bob", fields :=
      [("IMAGE", "c:\\WhoAmI.EXE"), ("commandLINE", "WHOAMI \u2013aLL -USER"), ("user", "bOB")] }
    let ps : Placeholders := [("Who", ["alice", "bob"])]
    (∀ s ∈ r.expr.searches, .re ∉ s.modifiers ∧ .cidr ∉ s.modifiers) ∧ d.Recased e ∧
      r.matchesEntry d ps = .ok true ∧ r.matchesEntry e ps = .ok true := by
  intro r d e ps
  have hr : ∀ s ∈ r.expr.searches, .re ∉ s.modifiers ∧ .cidr ∉ s.modifiers := by
    simp [r, Expr.searches, Expr.searchesOf]
  have hrecased : d.Recased e :=
    ⟨by decide, .cons (by decide) (.cons (by decide) (.cons (by decide) .nil))⟩
  obtain ⟨b, hd, he⟩ := Rule.matchesEntry_of_recased hr hrecased ps
  have hmatch : r.matchesEntry d ps = .ok true := by decide +kernel
  obtain rfl : b = true := Except.ok.inj (hd.symm.trans hmatch)
  exact ⟨hr, hrecased, hmatch, he⟩

end SigmaRules
