/-
SigmaRules/Proofs/Search/Expression.lean

How the expressions of searches are read.  Alternatives fill the group that is
open, whose content is then their join (`reads_alternatives`).  So a group in
parentheses adds the joined alternatives (`Adds.grouped`), and an expression
that is made of alternatives is read as their join (`parse_alternatives`).

A valid search without special modifiers is as good as its expression
(`succeeds_of_parse`).
-/
import SigmaRules.Proofs.Regex.Joining
import SigmaRules.Proofs.Regex.Reading
import SigmaRules.Search.Evaluate

namespace SigmaRules.Regex

open Search

/-! ### Alternatives -/

/-- A bar completes the alternative that is being read. -/
theorem step_bar {r : Reading} (ho : ∀ i, r.top.opening ≠ .conditional i) (rest : List Token) :
    step r (.plain '|') rest = .ok ({ r with top := { r.top with
      complete := r.top.current :: r.top.complete, pieces := [] } }, rest) := by
  have hread : readBar r = .ok { r with top := { r.top with
      complete := r.top.current :: r.top.complete, pieces := [] } } := by
    unfold readBar
    split
    case h_1 i _ _ hi _ => exact absurd hi (ho i)
    case h_2 => rfl
  simp [step, hread, Except.map]

theorem step_close (r : Reading) (rest : List Token) :
    step r (.plain ')') rest = (readClose r).map fun r => (r, rest) := by
  simp [step]

/-- What is in the parentheses of a group without effect is spliced into the
alternative around it. -/
theorem readClose_plain {r : Reading} {outer : Frame} {below : List Frame}
    (hb : r.below = outer :: below) (ho : r.top.opening = .plain) :
    readClose r = .ok (Reading.push { r with top := outer, below } (.spliced r.top.content)) := by
  simp only [readClose, hb, ho]

section Alternatives

variable {f : Flags} {α : Type} {as : List α} {text : α → List Char} {nodes : α → List Node}

/-- Reading alternatives fills the group that is open: its content is the join of
those that are complete and of these. -/
theorem reads_alternatives (hne : as ≠ []) (h : ∀ a ∈ as, Adds f (text a) (nodes a)) {r : Reading}
    {rest : List Char} (hf : r.top.flags = f) (hp : r.top.pieces = [])
    (ho : ∀ i, r.top.opening ≠ .conditional i) (hc : Calm rest) :
    ∃ top : Frame, top.opening = r.top.opening ∧
      top.content = joinAlternatives f.caseRule (r.top.complete.reverse ++ as.map nodes) ∧
      Reads r (tokenize (alternatives (as.map text) ++ rest)) { r with top }
        (tokenize rest) := by
  induction as generalizing r with
  | nil => exact absurd rfl hne
  | cons a as ih =>
    have ha := h a (by simp)
    rcases as with - | ⟨b, as⟩
    · obtain ⟨ps, hps, hread⟩ := ha.reads hf hc
      refine ⟨(r.append ps).top, rfl, ?_, hread⟩
      simp [Frame.content, Frame.current, Reading.append, hp, hps, hf]
    · have hcalm : Calm ('|' :: (alternatives ((b :: as).map text) ++ rest)) :=
        calm_cons (by decide) (by decide) _
      obtain ⟨ps, hps, hread⟩ := ha.reads hf hcalm
      -- the bar completes the first alternative, and the others are read after it
      have hcurrent : (r.append ps).top.current = nodes a := by
        simp [Frame.current, Reading.append, hp, hps]
      let r₁ : Reading := { r with top := { r.top with
        complete := nodes a :: r.top.complete, pieces := [] } }
      have hbar : Reads (r.append ps)
          (.plain '|' :: tokenize (alternatives ((b :: as).map text) ++ rest)) r₁
          (tokenize (alternatives ((b :: as).map text) ++ rest)) :=
        .single ((step_bar (r := r.append ps) ho _).trans (by rw [hcurrent]; rfl))
      obtain ⟨top, hopening, hcontent, hothers⟩ := ih (by simp)
        (fun c hc => h c (List.mem_cons_of_mem a hc)) (r := r₁) hf rfl ho
      refine ⟨top, hopening, by simpa [r₁] using hcontent, ?_⟩
      show Reads r (tokenize ((text a ++ '|' :: alternatives ((b :: as).map text)) ++ rest)) _ _
      rw [List.append_assoc, List.cons_append]
      refine hread.trans ?_
      rw [tokenize_cons (by decide)]
      exact hbar.trans hothers

/-- No alternatives are one that is empty. -/
theorem reads_content (h : ∀ a ∈ as, Adds f (text a) (nodes a)) {r : Reading} {rest : List Char}
    (hf : r.top.flags = f) (hp : r.top.pieces = []) (hr : r.top.complete = [])
    (ho : ∀ i, r.top.opening ≠ .conditional i) (hc : Calm rest) :
    ∃ top : Frame, top.opening = r.top.opening ∧
      top.content = joinAlternatives f.caseRule (as.map nodes) ∧
      Reads r (tokenize (alternatives (as.map text) ++ rest)) { r with top }
        (tokenize rest) := by
  rcases as with - | ⟨a, as⟩
  -- nothing is read, and the content is the empty alternative
  · exact ⟨r.top, rfl, by simp [Frame.content, Frame.current, hp, hr, joinAlternatives],
      .refl _ _⟩
  · obtain ⟨top, hopening, hcontent, hread⟩ := reads_alternatives (by simp) h hf hp ho hc
    exact ⟨top, hopening, by simpa [hr] using hcontent, hread⟩

/-- **A group adds the join of its alternatives.** -/
theorem Adds.grouped (h : ∀ a ∈ as, Adds f (text a) (nodes a)) :
    Adds f (grouped (alternatives (as.map text))) (joinAlternatives f.caseRule (as.map nodes)) := by
  constructor
  · intro rest _
    exact calm_cons (by decide) (by decide) _
  · intro r rest hf hc
    have hcalm : Calm (')' :: rest) := calm_cons (by decide) (by decide) rest
    obtain ⟨top, hopening, hcontent, hread⟩ := reads_content h (r := r.enter .plain f) rfl
      rfl rfl (fun i => by simp [Reading.enter]) hcalm
    refine ⟨[.spliced top.content], by simpa [Piece.nodes] using hcontent, ?_⟩
    -- the mark of a group without effect takes two tokens more
    have hopen : Reads r (.plain '(' :: .plain '?' :: .plain ':' ::
          tokenize (alternatives (as.map text) ++ ')' :: rest)) (r.enter .plain f)
        (tokenize (alternatives (as.map text) ++ ')' :: rest)) := by
      refine .step ?_ ?_ (.refl _ _)
      · simp [step, readExtension, hf]
      · simp only [List.length_cons]
        omega
    have hclose : Reads { r.enter .plain f with top } (.plain ')' :: tokenize rest)
        (r.append [.spliced top.content]) (tokenize rest) := by
      refine .single ?_
      rw [step_close, readClose_plain rfl hopening]
      rfl
    have htext : Search.grouped (alternatives (as.map text)) ++ rest
        = '(' :: '?' :: ':' :: (alternatives (as.map text) ++ ')' :: rest) := by
      simp [Search.grouped]
    rw [htext, tokenize_cons (by decide), tokenize_cons (by decide), tokenize_cons (by decide)]
    refine hopen.trans (hread.trans ?_)
    rw [tokenize_cons (by decide)]
    exact hclose

/-- **An expression of alternatives is read as their join.** -/
theorem parse_alternatives (h : ∀ a ∈ as, Adds f (text a) (nodes a))
    (hl : ∀ a ∈ as, ∀ n ∈ nodes a, n.lookBehindsFixed = true) :
    parse f (alternatives (as.map text))
      = .ok (Node.ofList (joinAlternatives f.caseRule (as.map nodes))) := by
  obtain ⟨top, -, hcontent, hread⟩ := reads_content h
    (r := { top := { opening := .whole, flags := f } }) (by rfl) rfl rfl (fun i => by simp)
    (by simp [Calm] : Calm [])
  rw [List.append_nil] at hread
  have hfixed := lookBehindsFixed_ofList
    (lookBehindsFixed_joinAlternatives f.caseRule (List.forall_mem_map.mpr hl))
  have hall := hread.readAll_eq (Nat.le_refl _)
  simp only [parse, hall, bind, Except.bind]
  simp [Reading.finish, hcontent, hfixed]

end Alternatives

section Single

variable {f : Flags} {e : List Char} {ns : List Node}

/-- A group without bars adds its nodes. -/
theorem Adds.grouped_single (h : Adds f e ns) : Adds f (Search.grouped e) ns := by
  have hgrouped : Adds f (Search.grouped (alternatives ([e].map id)))
      (joinAlternatives f.caseRule ([e].map fun _ => ns)) :=
    Adds.grouped (by simpa using h)
  exact hgrouped

/-- An expression without bars is read as its nodes. -/
theorem Adds.parse_eq (h : Adds f e ns) (hl : ∀ n ∈ ns, n.lookBehindsFixed = true) :
    parse f e = .ok (Node.ofList ns) := by
  have hparse : parse f (alternatives ([e].map id))
      = .ok (Node.ofList (joinAlternatives f.caseRule ([e].map fun _ => ns))) :=
    parse_alternatives (by simpa using h) (by simpa using hl)
  exact hparse

end Single

end SigmaRules.Regex

namespace SigmaRules.Search

open Regex

/-! ### Searches -/

/-- A search that has something to look for matches if that matches the text that it inspects. -/
theorem succeeds_eq_of_resolve {s : Search} {k : PatternKind} (hk : s.kind = .ok k)
    {ps : Placeholders} (hne : s.resolve ps ≠ []) (e : Entry) :
    s.succeeds e ps = s.matchesText (s.resolve ps) (s.inspected e) := by
  rw [succeeds, hk]
  exact if_neg (by simpa using hne)

/-- Without `expand`, patterns are taken as they are. -/
theorem resolve_of_not_expand {s : Search} (h : Modifier.expand ∉ s.modifiers)
    (ps : Placeholders) : s.resolve ps = s.patterns := by
  rw [resolve, has, if_neg (by simpa using h)]

/-- Blocks of addresses are no expressions. -/
theorem matchesText_networks {s : Search} (h : Modifier.cidr ∈ s.modifiers)
    (patterns : List String) (value : String) :
    s.matchesText patterns value = .ok (matchesNetworks patterns value) := by
  rw [matchesText, has, if_pos (by simpa using h)]

/-- A search whose patterns are taken as they are matches if its patterns match the text that it
inspects. -/
theorem succeeds_eq_matchesText {s : Search} {k : PatternKind} (hk : s.kind = .ok k)
    (hne : s.patterns ≠ []) (hexpand : Modifier.expand ∉ s.modifiers) (e : Entry)
    (ps : Placeholders) : s.succeeds e ps = s.matchesText s.patterns (s.inspected e) := by
  have hresolve := resolve_of_not_expand hexpand ps
  rw [succeeds_eq_of_resolve hk (hresolve ▸ hne), hresolve]

/-- A search whose patterns are taken as they are, any of which may match, looks for
their expression in the text that it inspects. -/
theorem succeeds_of_parse {s : Search} {k : PatternKind} {n : Node} (hk : s.kind = .ok k)
    (hne : s.patterns ≠ []) (hexpand : Modifier.expand ∉ s.modifiers)
    (hcidr : Modifier.cidr ∉ s.modifiers) (hall : Modifier.all ∉ s.modifiers)
    (hn : parse { ignoreCase := true }
      (alternatives (s.patterns.map (expression s.modifiers s.field))) = .ok n)
    (e : Entry) (ps : Placeholders) :
    s.succeeds e ps = .ok (n.search (s.inspected e).toList) := by
  have hsources : s.sources s.patterns
      = [alternatives (s.patterns.map (expression s.modifiers s.field))] := by
    simp [sources, has, hall]
  rw [succeeds_eq_matchesText hk hne hexpand]
  simp [matchesText, has, hcidr, hsources, matchesAllOf, readRegex, hn, bind, Except.bind, pure,
    Except.pure]

end SigmaRules.Search
