/-
SigmaRules/Proofs/Report/Explanation.lean

The reasons that a report shows for a match are enough for it.  Whoever knows
only the lines of an explanation knows that the expression matches: any
evaluation in which the searches shown there have the same success again
succeeds, whatever the other searches do (`success_of_reasons`).  The proof
goes for success and for failure at once, since a negation asks its child for
the opposite.

The lines of an explanation are indented, and a line stands below the nearest
line before it that is indented less (`Reason.above`).  What a line shows has
succeeded if it stands below an even number of negations, and failed otherwise
(`even_negations_iff`).
-/
import Mathlib.Algebra.Group.Nat.Even
import SigmaRules.Proofs.Expr.Brief
import SigmaRules.Report.Explanation

namespace SigmaRules

/-! ### Lines above a line -/

namespace Reason

/-- Does the line show a negation? -/
def negates (r : Reason) : Bool := r.part.connective == .not

/-- The lines that a line of the given depth stands below, from the lines before it,
nearest first. -/
def above (depth : Nat) : List Reason → List Reason
  | [] => []
  | r :: before => if r.depth < depth then r :: above r.depth before else above depth before

/-- How many negations a line of the given depth stands below. -/
def negations (depth : Nat) (before : List Reason) : Nat := (above depth before).countP negates

/-- Lines that are not indented less than a line are not above it. -/
theorem above_append {depth : Nat} {rs before : List Reason} (h : ∀ r ∈ rs, depth ≤ r.depth) :
    above depth (rs ++ before) = above depth before := by
  induction rs with
  | nil => rfl
  | cons r rs ih =>
    have hr := h r List.mem_cons_self
    rw [List.cons_append, above, if_neg (by omega), ih fun s hs => h s (List.mem_cons_of_mem r hs)]

/-- What every one of these lines shows has succeeded if the line stands below an
even number of negations, and failed otherwise, if the other lines come before. -/
def Alternate (before rs : List Reason) : Prop :=
  ∀ xs r ys, rs = xs ++ r :: ys →
    (Even (negations r.depth (xs.reverse ++ before)) ↔ r.part.success = true)

namespace Alternate

variable {before rs rs' : List Reason}

theorem nil : Alternate before [] := by
  intro xs r ys h
  simp at h

theorem cons {r : Reason} (hr : Even (negations r.depth before) ↔ r.part.success = true)
    (h : Alternate (r :: before) rs) : Alternate before (r :: rs) := by
  intro xs s ys hsplit
  rcases xs with - | ⟨x, xs⟩
  · obtain ⟨rfl, rfl⟩ := List.cons_eq_cons.mp hsplit
    exact hr
  · obtain ⟨rfl, rfl⟩ := List.cons_eq_cons.mp hsplit
    simpa using h xs s ys rfl

theorem append (h : Alternate before rs) (h' : Alternate (rs.reverse ++ before) rs') :
    Alternate before (rs ++ rs') := by
  induction rs generalizing before with
  | nil => exact h'
  | cons r rs ih =>
    have hr := h [] r rs rfl
    refine cons hr (ih (fun xs s ys hs => ?_) (by simpa using h'))
    simpa using h (r :: xs) s ys (by rw [hs, List.cons_append])

end Alternate

end Reason

namespace Outcome

open Reason

/-! ### Negations -/

mutual

theorem depth_le_of_mem_reasons : ∀ {o : Outcome} {wanted : Bool} {depth : Nat},
    ∀ r ∈ o.reasons wanted depth, depth ≤ r.depth
  | .search s b v, wanted, depth, r, h => by
    rw [reasons] at h
    obtain ⟨-, rfl⟩ := by simpa using h
    exact Nat.le_refl _
  | .named n b o, wanted, depth, r, h => by
    rw [reasons, List.mem_ite_nil_right, List.mem_cons] at h
    obtain ⟨-, rfl | h⟩ := h
    · exact Nat.le_refl _
    · exact Nat.le_of_succ_le (depth_le_of_mem_reasons r h)
  | .not b o, wanted, depth, r, h => by
    rw [reasons, List.mem_ite_nil_right, List.mem_cons] at h
    obtain ⟨-, rfl | h⟩ := h
    · exact Nat.le_refl _
    · exact Nat.le_of_succ_le (depth_le_of_mem_reasons r h)
  | .and b os, wanted, depth, r, h => by
    rw [reasons, List.mem_ite_nil_right, List.mem_cons] at h
    obtain ⟨-, rfl | h⟩ := h
    · exact Nat.le_refl _
    · exact Nat.le_of_succ_le (depth_le_of_mem_allReasons r h)
  | .or b os, wanted, depth, r, h => by
    rw [reasons, List.mem_ite_nil_right, List.mem_cons] at h
    obtain ⟨-, rfl | h⟩ := h
    · exact Nat.le_refl _
    · exact Nat.le_of_succ_le (depth_le_of_mem_allReasons r h)

theorem depth_le_of_mem_allReasons : ∀ {os : List Outcome} {wanted : Bool} {depth : Nat},
    ∀ r ∈ allReasons wanted depth os, depth ≤ r.depth
  | [], wanted, depth, r, h => by simp [allReasons] at h
  | o :: os, wanted, depth, r, h => by
    rw [allReasons, List.mem_append] at h
    rcases h with h | h
    · exact depth_le_of_mem_reasons r h
    · exact depth_le_of_mem_allReasons r h

end

/-- What stands below a line stands below one negation more if the line shows one. -/
theorem negations_cons (depth : Nat) (o : Outcome) (before : List Reason) :
    negations (depth + 1) (⟨depth, o⟩ :: before)
      = negations depth before + if o.connective == .not then 1 else 0 := by
  rw [negations, above, if_pos (Nat.lt_succ_self depth), List.countP_cons]
  rfl

mutual

theorem alternate_reasons : ∀ {o : Outcome} {wanted : Bool} {depth : Nat} {before : List Reason},
    (Even (negations depth before) ↔ wanted = true) → Alternate before (o.reasons wanted depth)
  | .search s b v, wanted, depth, before, h => by
    rw [reasons]
    split
    case isTrue hb =>
      obtain rfl : b = wanted := by simpa using hb
      exact .cons h .nil
    case isFalse => exact .nil
  | .named n b o, wanted, depth, before, h => by
    rw [reasons]
    split
    case isTrue hb =>
      obtain rfl : b = wanted := by simpa using hb
      exact .cons h (alternate_reasons (by rw [negations_cons]; exact h))
    case isFalse => exact .nil
  | .not b o, wanted, depth, before, h => by
    rw [reasons]
    split
    case isTrue hb =>
      obtain rfl : b = wanted := by simpa using hb
      -- the child is asked for the opposite, below one negation more
      refine .cons h (alternate_reasons ?_)
      have hnot : ((Outcome.not b o).connective == .not) = true := rfl
      rw [negations_cons, if_pos hnot, Nat.even_add_one, h, Bool.not_eq_true, Bool.not_eq_true']
    case isFalse => exact .nil
  | .and b os, wanted, depth, before, h => by
    rw [reasons]
    split
    case isTrue hb =>
      obtain rfl : b = wanted := by simpa using hb
      exact .cons h (alternate_allReasons (by rw [negations_cons]; exact h))
    case isFalse => exact .nil
  | .or b os, wanted, depth, before, h => by
    rw [reasons]
    split
    case isTrue hb =>
      obtain rfl : b = wanted := by simpa using hb
      exact .cons h (alternate_allReasons (by rw [negations_cons]; exact h))
    case isFalse => exact .nil

theorem alternate_allReasons : ∀ {os : List Outcome} {wanted : Bool} {depth : Nat}
    {before : List Reason}, (Even (negations depth before) ↔ wanted = true) →
      Alternate before (allReasons wanted depth os)
  | [], wanted, depth, before, h => .nil
  | o :: os, wanted, depth, before, h => by
    rw [allReasons]
    refine .append (alternate_reasons h) (alternate_allReasons ?_)
    -- the lines of the first child are not above those of the others
    rw [negations, above_append fun r hr => depth_le_of_mem_reasons r (List.mem_reverse.mp hr)]
    exact h

end

end Outcome

/-! ### Searches that are shown -/

/-- If the line shows a search, it has the same success on an entry. -/
def Reason.Recurs (e : Entry) (ps : Placeholders) (r : Reason) : Prop :=
  match r.part with
  | .search s b _ => s.succeeds e ps = .ok b
  | _ => True

namespace Expr

open Outcome

/-- A run over children starts with the first one, which may be the last as well. -/
theorem exists_of_outcomes_cons {σ : Setting} {settles : Bool} {c : Expr} {cs : List Expr}
    {os : List Outcome} (h : outcomes σ settles (c :: cs) = .ok os) :
    ∃ o, c.outcome σ = .ok o ∧
      ((os = [o] ∧ σ.brief = true ∧ o.success = settles) ∨
        ∃ rest, outcomes σ settles cs = .ok rest ∧ os = o :: rest) := by
  rw [outcomes] at h
  rcases hc : c.outcome σ with f | o
  · simp [hc] at h
  · simp only [hc] at h
    refine ⟨o, rfl, ?_⟩
    split at h
    case isTrue hstop =>
      obtain ⟨hbrief, hs⟩ := Bool.and_eq_true_iff.mp hstop
      exact .inl ⟨(Except.ok.inj h).symm, hbrief, by simpa using hs⟩
    case isFalse =>
      obtain ⟨rest, hrest, rfl⟩ := exists_of_map_eq_ok h
      exact .inr ⟨rest, hrest, rfl⟩

variable {e₁ e₂ : Entry} {ps₁ ps₂ : Placeholders} {brief : Bool}

mutual

/-- **The reasons are enough**: if an evaluation comes out as wanted, so does any other
one in which the searches that are reasons for it have the same success. -/
theorem success_of_reasons : ∀ {x : Expr} {o p : Outcome} {wanted : Bool} {depth : Nat},
    x.outcome ⟨e₁, ps₁, false⟩ = .ok o → o.success = wanted →
      (∀ r ∈ o.reasons wanted depth, r.Recurs e₂ ps₂) →
      x.outcome ⟨e₂, ps₂, brief⟩ = .ok p → p.success = wanted
  | .search s, o, p, wanted, depth, ho, hs, hr, hp => by
    rw [outcome] at ho hp
    obtain ⟨b, hb, rfl⟩ := exists_of_map_eq_ok ho
    obtain ⟨c, hc, rfl⟩ := exists_of_map_eq_ok hp
    obtain rfl : b = wanted := hs
    have hagain : s.succeeds e₂ ps₂ = .ok b :=
      hr ⟨depth, .search s b (s.inspected e₁)⟩ (by simp [reasons])
    exact Except.ok.inj (hc.symm.trans hagain)
  | .named name c, o, p, wanted, depth, ho, hs, hr, hp => by
    rw [outcome] at ho hp
    obtain ⟨o', hc, rfl⟩ := exists_of_map_eq_ok ho
    obtain ⟨p', hc', rfl⟩ := exists_of_map_eq_ok hp
    obtain rfl : o'.success = wanted := hs
    have hbelow : ∀ r ∈ o'.reasons o'.success (depth + 1), r.Recurs e₂ ps₂ :=
      fun r h => hr r (by simp [reasons, h])
    have hsame : p'.success = o'.success := success_of_reasons hc rfl hbelow hc'
    exact hsame
  | .not c, o, p, wanted, depth, ho, hs, hr, hp => by
    rw [outcome] at ho hp
    obtain ⟨o', hc, rfl⟩ := exists_of_map_eq_ok ho
    obtain ⟨p', hc', rfl⟩ := exists_of_map_eq_ok hp
    obtain rfl : (!o'.success) = wanted := hs
    have hbelow : ∀ r ∈ o'.reasons o'.success (depth + 1), r.Recurs e₂ ps₂ :=
      fun r h => hr r (by simp [reasons, h])
    have hsame : p'.success = o'.success := success_of_reasons hc rfl hbelow hc'
    simp [hsame]
  | .and cs, o, p, wanted, depth, ho, hs, hr, hp => by
    rw [outcome] at ho hp
    obtain ⟨os, hcs, rfl⟩ := exists_of_map_eq_ok ho
    obtain ⟨qs, hcs', rfl⟩ := exists_of_map_eq_ok hp
    obtain rfl : os.all success = wanted := hs
    have hbelow : ∀ r ∈ allReasons (os.all success) (depth + 1) os, r.Recurs e₂ ps₂ :=
      fun r h => hr r (by simp [reasons, h])
    show qs.all success = os.all success
    rcases hall : os.all success with - | -
    · rw [hall] at hbelow
      simpa using exists_of_allReasons hcs (by simpa using hall) hbelow hcs'
    · rw [hall] at hbelow
      simpa using forall_of_allReasons hcs (by simpa using hall) hbelow hcs'
  | .or cs, o, p, wanted, depth, ho, hs, hr, hp => by
    rw [outcome] at ho hp
    obtain ⟨os, hcs, rfl⟩ := exists_of_map_eq_ok ho
    obtain ⟨qs, hcs', rfl⟩ := exists_of_map_eq_ok hp
    obtain rfl : os.any success = wanted := hs
    have hbelow : ∀ r ∈ allReasons (os.any success) (depth + 1) os, r.Recurs e₂ ps₂ :=
      fun r h => hr r (by simp [reasons, h])
    show qs.any success = os.any success
    rcases hany : os.any success with - | -
    · rw [hany] at hbelow
      simpa using forall_of_allReasons hcs (by simpa using hany) hbelow hcs'
    · rw [hany] at hbelow
      simpa using exists_of_allReasons hcs (by simpa using hany) hbelow hcs'

/-- If all children come out as wanted, they do so again. -/
theorem forall_of_allReasons : ∀ {xs : List Expr} {os qs : List Outcome} {settles wanted : Bool}
    {depth : Nat}, outcomes ⟨e₁, ps₁, false⟩ settles xs = .ok os →
      (∀ o ∈ os, o.success = wanted) →
      (∀ r ∈ allReasons wanted depth os, r.Recurs e₂ ps₂) →
      outcomes ⟨e₂, ps₂, brief⟩ settles xs = .ok qs → ∀ q ∈ qs, q.success = wanted
  | [], os, qs, settles, wanted, depth, ho, hs, hr, hq => by
    obtain rfl : [] = qs := Except.ok.inj hq
    simp
  | c :: cs, os, qs, settles, wanted, depth, ho, hs, hr, hq => by
    obtain ⟨o, hc, ⟨-, hbrief, -⟩ | ⟨os, hcs, rfl⟩⟩ := exists_of_outcomes_cons ho
    · cases hbrief
    rw [allReasons] at hr
    obtain ⟨q, hc', hrest⟩ := exists_of_outcomes_cons hq
    have hfirst : q.success = wanted :=
      success_of_reasons hc (hs o List.mem_cons_self)
        (fun r h => hr r (List.mem_append_left _ h)) hc'
    rcases hrest with ⟨rfl, -⟩ | ⟨qs, hcs', rfl⟩
    · simpa using hfirst
    · have hothers : ∀ q ∈ qs, q.success = wanted :=
        forall_of_allReasons hcs (fun p hp => hs p (List.mem_cons_of_mem o hp))
          (fun r h => hr r (List.mem_append_right _ h)) hcs'
      simpa using ⟨hfirst, hothers⟩

/-- If one of the children settles the question, one of them does so again. -/
theorem exists_of_allReasons : ∀ {xs : List Expr} {os qs : List Outcome} {settles : Bool}
    {depth : Nat}, outcomes ⟨e₁, ps₁, false⟩ settles xs = .ok os →
      (∃ o ∈ os, o.success = settles) →
      (∀ r ∈ allReasons settles depth os, r.Recurs e₂ ps₂) →
      outcomes ⟨e₂, ps₂, brief⟩ settles xs = .ok qs → ∃ q ∈ qs, q.success = settles
  | [], os, qs, settles, depth, ho, hs, hr, hq => by
    obtain rfl : [] = os := Except.ok.inj ho
    simp at hs
  | c :: cs, os, qs, settles, depth, ho, hs, hr, hq => by
    obtain ⟨o, hc, ⟨-, hbrief, -⟩ | ⟨os, hcs, rfl⟩⟩ := exists_of_outcomes_cons ho
    · cases hbrief
    rw [allReasons] at hr
    obtain ⟨q, hc', hrest⟩ := exists_of_outcomes_cons hq
    -- a brief evaluation may stop at an earlier child than the one that settled it before
    rcases hrest with ⟨rfl, -, hq⟩ | ⟨qs, hcs', rfl⟩
    · exact ⟨q, by simp, hq⟩
    obtain ⟨p, hp, hps⟩ := hs
    rcases List.mem_cons.mp hp with rfl | hp
    · exact ⟨q, by simp,
        success_of_reasons hc hps (fun r h => hr r (List.mem_append_left _ h)) hc'⟩
    · obtain ⟨q', hq', hs'⟩ :=
        exists_of_allReasons hcs ⟨p, hp, hps⟩ (fun r h => hr r (List.mem_append_right _ h)) hcs'
      exact ⟨q', List.mem_cons_of_mem q hq', hs'⟩

end

end Expr

/-! ### Explanations -/

/-- **What a report shows is enough.**  Let a full evaluation of an expression succeed,
and take the lines that explain it.  For any entry and placeholders for which the
searches shown there have the same success, every evaluation that comes to an end
succeeds, and if the searches that are not shown answer at all, the expression
matches.  What stands below an even number of negations that are shown has succeeded,
and what stands below an odd number has failed. -/
theorem reasons_suffice (x : Expr) (e₁ : Entry) (ps₁ : Placeholders) (o : Outcome) (t t' : Tally)
    (depth : Nat) (hx : x.evaluate ⟨e₁, ps₁, false⟩ t = .ok (o, t')) (hs : o.success = true) :
    (∀ (e₂ : Entry) (ps₂ : Placeholders), (∀ r ∈ o.reasons true depth, r.Recurs e₂ ps₂) →
      (∀ brief u p u', x.evaluate ⟨e₂, ps₂, brief⟩ u = .ok (p, u') → p.success = true) ∧
      ((∀ s ∈ x.searches, ∃ b, s.succeeds e₂ ps₂ = .ok b) →
        x.matchesEntry e₂ ps₂ = .ok true)) ∧
    ∀ before r after, o.reasons true depth = before ++ r :: after →
      (Even (Reason.negations r.depth before.reverse) ↔ r.part.success = true) := by
  have houtcome : ∀ {σ u p u'}, x.evaluate σ u = .ok (p, u') → x.outcome σ = .ok p := by
    intro σ u p u' h
    rw [Expr.evaluate_eq] at h
    obtain ⟨q, hq, hpq⟩ := exists_of_map_eq_ok h
    exact hq.trans (congrArg Except.ok (congrArg Prod.fst hpq))
  refine ⟨fun e₂ ps₂ hr => ⟨fun brief u p u' hp => ?_, fun hall => ?_⟩, ?_⟩
  · exact Expr.success_of_reasons (houtcome hx) hs hr (houtcome hp)
  · obtain ⟨p, hp⟩ := Expr.exists_outcome x hall
    have hsuccess : p.success = true := Expr.success_of_reasons (houtcome hx) hs hr hp
    rw [Expr.matchesEntry_eq, Expr.outcome_brief hp, Except.map, Outcome.success_pruned, hsuccess]
  · have halternate : Reason.Alternate [] (o.reasons true depth) :=
      Outcome.alternate_reasons (by simp [Reason.negations, Reason.above])
    intro before r after hsplit
    simpa using halternate before r after hsplit

/-- The statement where a search that is not shown turns out differently, and a search
that has failed is shown below a negation. -/
theorem sample_reasons_suffice :
    let a : Search := ⟨none, [], ["a"]⟩
    let b : Search := ⟨none, [], ["b"]⟩
    let c : Search := ⟨none, [], ["c"]⟩
    let x : Expr := .and [.or [.search a, .search c], .not (.and [.search a, .search b])]
    let e₁ : Entry := { message := "xA" }
    let e₂ : Entry := { message := "AC" }
    c.succeeds e₁ [] = .ok false ∧ c.succeeds e₂ [] = .ok true ∧
    ∃ o t, x.evaluate ⟨e₁, [], false⟩ {} = .ok (o, t) ∧ o.success = true ∧
      (∀ r ∈ o.reasons true 1, r.Recurs e₂ []) ∧ x.matchesEntry e₂ [] = .ok true ∧
      ∃ before r after, o.reasons true 1 = before ++ r :: after ∧
        r.part = .search b false "xA" ∧
        (Even (Reason.negations r.depth before.reverse) ↔ r.part.success = true) := by
  -- the answers of the searches on both entries
  have ha₁ : (Search.mk none [] ["a"]).succeeds { message := "xA" } [] = .ok true := rfl
  have hb₁ : (Search.mk none [] ["b"]).succeeds { message := "xA" } [] = .ok false := rfl
  have hc₁ : (Search.mk none [] ["c"]).succeeds { message := "xA" } [] = .ok false := rfl
  have ha₂ : (Search.mk none [] ["a"]).succeeds { message := "AC" } [] = .ok true := rfl
  have hb₂ : (Search.mk none [] ["b"]).succeeds { message := "AC" } [] = .ok false := rfl
  have hc₂ : (Search.mk none [] ["c"]).succeeds { message := "AC" } [] = .ok true := rfl
  intro a b c x e₁ e₂
  let o : Outcome := .and true [.or true [.search a true "xA", .search c false "xA"],
    .not true (.and false [.search a true "xA", .search b false "xA"])]
  have hx : x.evaluate ⟨e₁, [], false⟩ {} = .ok (o, o.tallied {}) := by
    have ho : x.outcome ⟨e₁, [], false⟩ = .ok o := by
      simp [x, o, a, b, c, e₁, Expr.outcome, Expr.outcomes, ha₁, hb₁, hc₁, Except.map,
        Search.inspected, Search.fieldName?]
    rw [Expr.evaluate_eq, ho, Except.map]
  have hr : ∀ r ∈ o.reasons true 1, r.Recurs e₂ [] := by
    simp [o, a, b, e₂, Outcome.reasons, Outcome.allReasons, Reason.Recurs, ha₂, hb₂]
  have hall : ∀ s ∈ x.searches, ∃ b, s.succeeds e₂ [] = .ok b := by
    simp [x, a, b, c, e₂, Expr.searches, Expr.searchesOf, ha₂, hb₂, hc₂]
  obtain ⟨hsame, hparity⟩ := reasons_suffice x e₁ [] o {} (o.tallied {}) 1 hx rfl
  refine ⟨hc₁, hc₂, o, _, hx, rfl, hr, (hsame e₂ [] hr).2 hall, ?_⟩
  let before : List Reason := [⟨1, o⟩, ⟨2, .or true [.search a true "xA", .search c false "xA"]⟩,
    ⟨3, .search a true "xA"⟩,
    ⟨2, .not true (.and false [.search a true "xA", .search b false "xA"])⟩,
    ⟨3, .and false [.search a true "xA", .search b false "xA"]⟩]
  exact ⟨before, ⟨4, .search b false "xA"⟩, [], rfl, rfl, hparity _ _ _ rfl⟩

end SigmaRules
