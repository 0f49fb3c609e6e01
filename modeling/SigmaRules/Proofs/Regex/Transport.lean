/-
SigmaRules/Proofs/Regex/Transport.lean

Ways carried along a map of states.  If a map keeps the place in the text, and
how much text there is on both sides of it (`State.Carrier`), and if the
ways of some expressions go with the map (`Ways.Carried`), then so do those of
what is made of these expressions.  This is one lemma for each construct that
does not look at the text itself and not at the groups.

The maps in question rename groups, or change the characters of the text.
-/
import Mathlib.Data.List.Basic
import SigmaRules.Proofs.Regex.Ways

namespace SigmaRules.Regex

/-! ### Maps of states -/

/-- A map of states that keeps places, and goes with what look-around does to states. -/
structure State.Carrier (g : State → State) : Prop where
  pos (s : State) : (g s).pos = s.pos
  length_after (s : State) : (g s).after.length = s.after.length
  back? (s : State) (n : Nat) : (g s).back? n = (s.back? n).map g
  withGroups (s t : State) : (g s).withGroups (g t) = g (s.withGroups t)

/-- From the states that the map leads to, the ways are those from the states themselves, mapped. -/
def Ways.Carried (g : State → State) (f f' : Ways) : Prop := ∀ s, f' (g s) = (f s).map g

/-- What the matcher ends in, run alone, goes with the map. -/
def Matcher.Carried (g : State → State) (m m' : Matcher) : Prop :=
  ∀ s, m' (g s) some = (m s some).map g

/-- What is kept under keys is found under them when the values are mapped. -/
theorem lookup_map_values {α β γ : Type} [BEq α] (g : β → γ) (l : List (α × β)) (a : α) :
    (l.map (Prod.map id g)).lookup a = (l.lookup a).map g := by
  induction l with
  | nil => rfl
  | cons y l ih =>
    rw [List.map_cons, List.lookup_cons, List.lookup_cons, ih]
    simp only [Prod.map_fst, Prod.map_snd, id]
    split <;> rfl

variable {g : State → State}

/-! ### Rounds -/

namespace Ways.Carried

variable {f f' : Ways}

theorem flatMap {k k' : Ways} (hk : Carried g k k') (ss : List State) :
    (ss.map g).flatMap k' = (ss.flatMap k).map g := by
  rw [List.flatMap_map, List.map_flatMap]
  exact List.flatMap_congr fun s _ => hk s

theorem exactly (h : Carried g f f') (n : Nat) :
    Carried g (exactlyWays f n) (exactlyWays f' n) := by
  intro s
  induction n generalizing s with
  | zero => rfl
  | succ n ih => rw [exactlyWays, exactlyWays, h s, flatMap ih]

theorem greedy (hg : State.Carrier g) (h : Carried g f f') (fuel : Nat) (limit last : Option Nat) :
    Carried g (greedyWays f fuel limit last) (greedyWays f' fuel limit last) := by
  intro s
  induction fuel generalizing s limit last with
  | zero => rfl
  | succ fuel ih =>
    rw [greedyWays, greedyWays, hg.pos]
    split
    · rfl
    · rw [h s, flatMap (ih _ _), List.map_append]
      rfl

theorem lazy (hg : State.Carrier g) (h : Carried g f f') (fuel : Nat) (limit last : Option Nat) :
    Carried g (lazyWays f fuel limit last) (lazyWays f' fuel limit last) := by
  intro s
  induction fuel generalizing s limit last with
  | zero => rfl
  | succ fuel ih =>
    rw [lazyWays, lazyWays, hg.pos, List.map_cons]
    congr 1
    split
    · rfl
    · rw [h s, flatMap (ih _ _)]

end Ways.Carried

namespace Matcher.Carried

variable {m m' : Matcher}

theorem exactlyFinal (h : Carried g m m') (n : Nat) (s : State) :
    exactlyFinal m' n (g s) = (exactlyFinal m n s).map g := by
  induction n generalizing s with
  | zero => rfl
  | succ n ih =>
    rw [Regex.exactlyFinal, Regex.exactlyFinal, h s]
    rcases m s some with - | s'
    · rfl
    · exact ih s'

theorem possessively (hg : State.Carrier g) (h : Carried g m m') (fuel : Nat) (limit : Option Nat)
    (s : State) : possessively m' fuel limit (g s) = g (possessively m fuel limit s) := by
  induction fuel generalizing s limit with
  | zero => rfl
  | succ fuel ih =>
    rw [Regex.possessively, Regex.possessively, h s]
    split
    · rfl
    rcases m s some with - | s'
    · rfl
    · simp only [Option.map_some, hg.pos, ih]
      split <;> rfl

end Matcher.Carried

/-! ### Constructs -/

namespace Node

theorem run_some_eq_head? (n : Node) (s : State) : n.run s some = (n.ways s).head? := by
  rw [run_eq_findSome?]
  rcases n.ways s with - | ⟨s', ss⟩ <;> rfl

variable {a a' b b' : Node}

/-- What a node runs on its own goes with the map if its ways do. -/
theorem run_carried (h : Ways.Carried g b.ways b'.ways) : Matcher.Carried g b.run b'.run := by
  intro s
  rw [run_some_eq_head?, run_some_eq_head?, h s, List.head?_map]

theorem seq_carried (ha : Ways.Carried g a.ways a'.ways) (hb : Ways.Carried g b.ways b'.ways) :
    Ways.Carried g (seq a b).ways (seq a' b').ways := by
  intro s
  rw [ways_seq, ways_seq, ha s, hb.flatMap]

theorem alt_carried (ha : Ways.Carried g a.ways a'.ways) (hb : Ways.Carried g b.ways b'.ways) :
    Ways.Carried g (alt a b).ways (alt a' b').ways := by
  intro s
  rw [ways_alt, ways_alt, ha s, hb s, List.map_append]

theorem atomic_carried (h : Ways.Carried g b.ways b'.ways) :
    Ways.Carried g (atomic b).ways (atomic b').ways := by
  intro s
  rw [ways, ways, run_carried h s]
  rcases b.run s some with - | s' <;> rfl

theorem ahead_carried (hg : State.Carrier g) (h : Ways.Carried g b.ways b'.ways) (negated : Bool) :
    Ways.Carried g (ahead negated b).ways (ahead negated b').ways := by
  intro s
  rw [ways, ways, run_carried h s]
  rcases b.run s some with - | s'
  · rcases negated with - | - <;> rfl
  · rcases negated with - | -
    · exact congrArg (fun t => [t]) (hg.withGroups s s')
    · rfl

theorem behind_carried (hg : State.Carrier g) (h : Ways.Carried g b.ways b'.ways) (negated : Bool)
    (width : Nat) :
    Ways.Carried g (behind negated width b).ways (behind negated width b').ways := by
  intro s
  have hback : (((g s).back? width).bind fun s' => b'.run s' some)
      = ((s.back? width).bind fun s' => b.run s' some).map g := by
    rw [hg.back?]
    rcases s.back? width with - | s'
    · rfl
    · exact run_carried h s'
  rw [ways, ways, hback]
  rcases (s.back? width).bind fun s' => b.run s' some with - | s'
  · rcases negated with - | - <;> rfl
  · rcases negated with - | -
    · exact congrArg (fun t => [t]) (hg.withGroups s s')
    · rfl

theorem times_carried (hg : State.Carrier g) (h : Ways.Carried g b.ways b'.ways) (lo : Nat)
    (hi : Option Nat) (greed : Greed) :
    Ways.Carried g (times lo hi greed b).ways (times lo hi greed b').ways := by
  intro s
  rcases greed with - | - | -
  · rw [ways, ways, h.exactly lo s, Ways.Carried.flatMap]
    intro s'
    simp only [hg.length_after]
    exact h.greedy hg _ _ _ s'
  · rw [ways, ways, h.exactly lo s, Ways.Carried.flatMap]
    intro s'
    simp only [hg.length_after]
    exact h.lazy hg _ _ _ s'
  · rw [ways, ways, (run_carried h).exactlyFinal]
    rcases exactlyFinal b.run lo s with - | s'
    · rfl
    · simp only [Option.map_some, hg.length_after, (run_carried h).possessively hg]
      rfl

end Node

end SigmaRules.Regex
