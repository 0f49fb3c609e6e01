/-
SigmaRules/Proofs/Regex/Renaming.lean

Groups under other numbers.  An expression whose groups are numbered in
another way matches as before: its ways are those of the expression, with the
groups that they passed under the new numbers (`Node.ways_rename`).  All that
is asked of the numbers is that different groups keep different ones.

What is read off a tree does not depend on the numbers, and alternatives are
joined as before (`map_rename_joinAlternatives`).
-/
import Mathlib.Data.List.Basic
import SigmaRules.Proofs.Regex.Joining
import SigmaRules.Proofs.Regex.Transport

namespace SigmaRules.Regex

open Function

variable (σ : Nat → Nat)

/-! ### Renamed trees -/

namespace Node

/-- The tree with other numbers for its groups. -/
@[simp] def rename : Node → Node
  | .empty => .empty
  | .char t => .char t
  | .anchor a => .anchor a
  | .seq a b => .seq a.rename b.rename
  | .alt a b => .alt a.rename b.rename
  | .group i b => .group (i.map σ) b.rename
  | .atomic b => .atomic b.rename
  | .ahead negated b => .ahead negated b.rename
  | .behind negated w b => .behind negated w b.rename
  | .backref rule i w => .backref rule (σ i) w
  | .conditional i y n => .conditional (σ i) y.rename n.rename
  | .times lo hi greed b => .times lo hi greed b.rename

theorem rename_rename (τ : Nat → Nat) (n : Node) :
    (n.rename σ).rename τ = n.rename (τ ∘ σ) := by
  induction n with
  | group i b ih => rw [rename, rename, rename, ih, Option.map_map]
  | _ => simp_all

@[simp] theorem isLeaf_rename (n : Node) : (n.rename σ).isLeaf = n.isLeaf := by
  cases n <;> rfl

@[simp] theorem isAnchor_rename (n : Node) : (n.rename σ).isAnchor = n.isAnchor := by
  cases n <;> rfl

@[simp] theorem isTimes_rename (n : Node) : (n.rename σ).isTimes = n.isTimes := by
  cases n <;> rfl

@[simp] theorem width_rename (n : Node) : (n.rename σ).width = n.width := by
  induction n <;> simp_all [width]

@[simp] theorem lookBehindsFixed_rename (n : Node) :
    (n.rename σ).lookBehindsFixed = n.lookBehindsFixed := by
  induction n <;> simp_all [lookBehindsFixed]

theorem rename_ofList (ns : List Node) : (ofList ns).rename σ = ofList (ns.map (rename σ)) := by
  induction ns with
  | nil => rfl
  | cons n ns ih => rw [List.map_cons, ofList_cons, ofList_cons, rename, ih]

theorem rename_oneOf (ns : List Node) : (oneOf ns).rename σ = oneOf (ns.map (rename σ)) := by
  induction ns with
  | nil => rfl
  | cons n ns ih =>
    rcases ns with - | ⟨m, ns⟩
    · rfl
    · simp only [List.map_cons, oneOf, rename] at ih ⊢
      rw [ih]

variable {σ}

/-- A leaf that is the same under other numbers was the same before. -/
theorem rename_eq_iff (hσ : Injective σ) {m n : Node} (hn : n.isLeaf = true) :
    m.rename σ = n.rename σ ↔ m = n := by
  cases n <;> cases m <;> simp_all [isLeaf, hσ.eq_iff]

end Node

/-! ### Renamed alternatives -/

theorem oneCharItems?_rename (ns : List Node) :
    oneCharItems? (ns.map (Node.rename σ)) = oneCharItems? ns := by
  rcases ns with - | ⟨n, - | ⟨m, ns⟩⟩
  · rfl
  · cases n <;> rfl
  · cases n <;> simp [oneCharItems?]

variable {σ}

theorem commonStart_rename (hσ : Injective σ) (first : List Node) (others : List (List Node)) :
    commonStart (first.map (Node.rename σ)) (others.map (List.map (Node.rename σ)))
      = ((commonStart first others).1.map (Node.rename σ),
          (commonStart first others).2.map (List.map (Node.rename σ))) := by
  induction first generalizing others with
  | nil => rfl
  | cons n rest ih =>
    have hheads :
        (n.isLeaf && others.all fun o => (o.map (Node.rename σ)).head? == some (n.rename σ))
        = (n.isLeaf && others.all fun o => o.head? == some n) := by
      rcases hn : n.isLeaf with - | -
      · rfl
      · congr 2
        funext o
        rcases o with - | ⟨m, o⟩
        · rfl
        · simp [Node.rename_eq_iff hσ hn]
    have htails : (others.map (List.map (Node.rename σ))).map List.tail
        = (others.map List.tail).map (List.map (Node.rename σ)) := by
      simp
    rw [List.map_cons, commonStart, commonStart, Node.isLeaf_rename, List.all_map]
    simp only [Function.comp_def, hheads, htails, ih]
    split <;> rfl

/-- Alternatives are joined as before. -/
theorem map_rename_joinAlternatives (hσ : Injective σ) (rule : CaseRule) (alts : List (List Node)) :
    (joinAlternatives rule alts).map (Node.rename σ)
      = joinAlternatives rule (alts.map (List.map (Node.rename σ))) := by
  rcases alts with - | ⟨first, - | ⟨second, others⟩⟩
  · rfl
  · rfl
  have hstart := commonStart_rename hσ first (second :: others)
  simp only [List.map_cons] at hstart ⊢
  rw [joinAlternatives, joinAlternatives, hstart]
  · rcases commonStart first (second :: others) with ⟨shared, tails⟩
    have hitems : (tails.map (List.map (Node.rename σ))).mapM oneCharItems?
        = tails.mapM oneCharItems? := by
      rw [List.mapM_map]
      exact congrArg (List.mapM · tails) (funext (oneCharItems?_rename σ))
    simp only [hitems]
    rcases tails.mapM oneCharItems? with - | items
    · simp [Node.rename_oneOf, Node.rename_ofList, Function.comp_def]
    · simp
  · simp
  · simp

/-! ### Renamed groups of a state -/

namespace State

variable (σ)

/-- The state with other numbers for the groups that have been passed. -/
def rename (s : State) : State :=
  { s with opened := s.opened.map (Prod.map σ id), closed := s.closed.map (Prod.map σ id) }

@[simp] theorem pos_rename (s : State) : (s.rename σ).pos = s.pos := rfl

@[simp] theorem after_rename (s : State) : (s.rename σ).after = s.after := rfl

theorem back?_rename (s : State) (n : Nat) :
    (s.rename σ).back? n = (s.back? n).map (rename σ) := by
  rw [back?, back?]
  split <;> simp_all [rename]

theorem openGroup_rename (s : State) (i : Nat) :
    (s.rename σ).openGroup (σ i) = (s.openGroup i).rename σ := rfl

variable {σ}

theorem lookup_map_rename (hσ : Injective σ) {α : Type} (l : List (Nat × α)) (i : Nat) :
    (l.map (Prod.map σ id)).lookup (σ i) = l.lookup i := by
  induction l with
  | nil => rfl
  | cons x l ih =>
    rw [List.map_cons, List.lookup_cons, List.lookup_cons, ih]
    simp [hσ.eq_iff, beq_eq_decide]

theorem closeGroup_rename (hσ : Injective σ) (s : State) (i : Nat) :
    (s.rename σ).closeGroup (σ i) = (s.closeGroup i).rename σ := by
  simp only [closeGroup, rename, lookup_map_rename hσ]
  split <;> rfl

theorem hasMatched_rename (hσ : Injective σ) (s : State) (i : Nat) :
    (s.rename σ).hasMatched (σ i) = s.hasMatched i := by
  simp only [hasMatched, rename, lookup_map_rename hσ]

theorem groupText?_rename (hσ : Injective σ) (s : State) (i : Nat) :
    (s.rename σ).groupText? (σ i) = s.groupText? i := by
  rw [groupText?, groupText?, hasMatched_rename hσ]
  simp only [rename, lookup_map_rename hσ]

end State

theorem Anchor.holds_rename (a : Anchor) (s : State) : a.holds (s.rename σ) = a.holds s := by
  cases a <;> rfl

/-! ### Renamed ways -/

theorem State.carrier_rename (σ : Nat → Nat) : State.Carrier (State.rename σ) where
  pos s := s.pos_rename σ
  length_after s := congrArg List.length (s.after_rename σ)
  back? s n := s.back?_rename σ n
  withGroups _ _ := rfl

/-- From renamed states the ways are those from the states, renamed. -/
def Ways.Renames (σ : Nat → Nat) (f f' : Ways) : Prop :=
  ∀ s, f' (s.rename σ) = (f s).map (State.rename σ)

namespace Node

/-- **An expression under other numbers** matches in the same ways. -/
theorem ways_rename (hσ : Injective σ) (n : Node) : Ways.Renames σ n.ways (n.rename σ).ways := by
  have hg := State.carrier_rename σ
  induction n with
  | empty => exact fun s => rfl
  | char t =>
    intro s
    rw [rename, ways_char, ways_char, State.after_rename]
    rcases s.after with - | ⟨c, rest⟩
    · rfl
    · simp only
      split <;> rfl
  | anchor a =>
    intro s
    rw [rename, ways_anchor, ways_anchor, a.holds_rename]
    split <;> rfl
  | seq a b iha ihb => exact seq_carried iha ihb
  | alt a b iha ihb => exact alt_carried iha ihb
  | group i b ih =>
    intro s
    rcases i with - | i
    · exact ih s
    · rw [rename, Option.map_some, ways, ways, State.openGroup_rename, ih, List.map_map,
        List.map_map]
      exact List.map_congr_left fun s' _ => State.closeGroup_rename hσ s' i
  | atomic b ih => exact atomic_carried ih
  | ahead negated b ih => exact ahead_carried hg ih negated
  | behind negated width b ih => exact behind_carried hg ih negated width
  | backref rule i w =>
    intro s
    rw [rename, ways, ways, State.groupText?_rename hσ, State.after_rename]
    rcases s.groupText? i with - | t
    · rfl
    · simp only
      split <;> rfl
  | conditional i y n ihy ihn =>
    intro s
    rw [rename, ways, ways, State.hasMatched_rename hσ]
    split
    · exact ihy s
    · exact ihn s
  | times lo hi greed b ih => exact times_carried hg ih lo hi greed

end Node

end SigmaRules.Regex
