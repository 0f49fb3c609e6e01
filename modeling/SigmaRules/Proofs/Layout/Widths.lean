/-
SigmaRules/Proofs/Layout/Widths.lean

The widths of the columns of a table.  Columns are only made narrower if there is no room
for them, and then until there is: as long as the sum is too large, a step takes something
from the widest columns (`total_narrow_lt`), so the loop ends with widths for which there
is room (`total_widthsWithin_le`).  Where there is room, columns stay as wide as they are
(`widthsWithin_of_le`), and filling up the table makes them no narrower
(`forall₂_le_widenTo`).
-/
import Mathlib.Data.List.Forall2
import Mathlib.Order.Lattice
import SigmaRules.Layout.Table

namespace SigmaRules.Layout

@[simp] theorem total_nil : total [] = 0 := rfl

@[simp] theorem total_cons (w : Nat) (ws : List Nat) : total (w :: ws) = w + total ws := rfl

theorem total_eq_zero {ws : List Nat} (h : ∀ w ∈ ws, w = 0) : total ws = 0 := by
  induction ws with
  | nil => rfl
  | cons v ws ih =>
    obtain ⟨hv, hws⟩ := List.forall_mem_cons.mp h
    rw [total_cons, hv, ih hws]

theorem le_total_of_mem {w : Nat} {ws : List Nat} (h : w ∈ ws) : w ≤ total ws := by
  induction ws with
  | nil => cases h
  | cons v ws ih =>
    rw [total_cons]
    rcases List.mem_cons.mp h with rfl | h
    · exact Nat.le_add_right w _
    · exact (ih h).trans (Nat.le_add_left _ v)

theorem le_foldr_max {ns : List Nat} {n : Nat} (least : Nat) (h : n ∈ ns) :
    n ≤ ns.foldr max least := by
  induction ns with
  | nil => cases h
  | cons m ns ih =>
    rw [List.foldr_cons]
    rcases List.mem_cons.mp h with rfl | h
    · exact le_max_left n _
    · exact (ih h).trans (le_max_right m _)

theorem foldr_max_mem {ns : List Nat} (h : 0 < ns.foldr max 0) : ns.foldr max 0 ∈ ns := by
  induction ns with
  | nil => cases h
  | cons n ns ih =>
    rw [List.foldr_cons] at h ⊢
    rcases le_total (ns.foldr max 0) n with hle | hle
    · rw [max_eq_left hle]
      exact List.mem_cons_self
    · rw [max_eq_right hle] at h ⊢
      exact List.mem_cons_of_mem n (ih h)

/-! ### Narrower columns -/

theorem nearestQuotient_one (m : Nat) : nearestQuotient m 1 = m := by
  simp [nearestQuotient, Nat.mod_one]

theorem total_takeFrom_le (rest : Nat) (ws : List (Nat × Nat)) :
    total (takeFrom rest ws) ≤ total (ws.map (·.1)) := by
  induction ws generalizing rest with
  | nil => exact le_rfl
  | cons x ws ih =>
    obtain ⟨w, most⟩ := x
    rw [takeFrom, List.map_cons, total_cons]
    split <;> rw [total_cons]
    · exact Nat.add_le_add_left (ih rest) w
    · exact Nat.add_le_add (Nat.sub_le ..) (ih _)

/-- Something is taken if there is something to take, and a column that can give it. -/
theorem total_takeFrom_lt {rest : Nat} (hrest : 0 < rest) {ws : List (Nat × Nat)}
    (hle : ∀ x ∈ ws, x.2 ≤ x.1) (hgives : ∃ x ∈ ws, x.2 ≠ 0) :
    total (takeFrom rest ws) < total (ws.map (·.1)) := by
  induction ws with
  | nil => simp at hgives
  | cons x ws ih =>
    obtain ⟨w, most⟩ := x
    obtain ⟨hmost, hle⟩ := List.forall_mem_cons.mp hle
    rw [takeFrom, List.map_cons, total_cons]
    by_cases hzero : most = 0
    · rw [if_pos hzero, total_cons]
      have hgives : ∃ x ∈ ws, x.2 ≠ 0 := by simpa [hzero] using hgives
      exact Nat.add_lt_add_left (ih hle hgives) w
    rw [if_neg hzero, total_cons]
    set part := min most (nearestQuotient rest (1 + (ws.filter fun x => x.2 != 0).length)) with hpart
    rcases Nat.eq_zero_or_pos part with hnone | hsome
    -- the share is rounded to nothing, so there are other columns that can give
    · have hgives : ∃ x ∈ ws, x.2 ≠ 0 := by
        by_contra hno
        have hempty : (ws.filter fun x => x.2 != 0) = [] :=
          List.filter_eq_nil_iff.mpr fun x hx hgives => hno ⟨x, hx, by simpa using hgives⟩
        rw [hempty, List.length_nil, Nat.add_zero, nearestQuotient_one] at hpart
        omega
      rw [hnone, Nat.sub_zero, Nat.sub_zero]
      exact Nat.add_lt_add_left (ih hle hgives) w
    · have hless : w - part < w := by
        have hw : part ≤ w := (min_le_left _ _).trans hmost
        omega
      exact Nat.add_lt_add_of_lt_of_le hless (total_takeFrom_le _ ws)

theorem takeFrom_of_forall {rest : Nat} {ws : List (Nat × Nat)} (h : ∀ x ∈ ws, x.2 = 0) :
    takeFrom rest ws = ws.map (·.1) := by
  induction ws with
  | nil => rfl
  | cons x ws ih =>
    obtain ⟨hx, hws⟩ := List.forall_mem_cons.mp h
    rw [takeFrom, if_pos hx, ih hws, List.map_cons]

/-- **A step makes the sum of the widths smaller** as long as there is no room for them. -/
theorem total_narrow_lt {room : Nat} {widths : List Nat} (h : room < total widths) :
    total (narrow room widths) < total widths := by
  set first := widths.foldr max 0 with hfirst
  set second := (widths.filter (· != first)).foldr max 0 with hsecond
  have hpos : 0 < first := by
    by_contra hno
    refine absurd h (Nat.not_lt.mpr ((Nat.le_of_eq ?_).trans (Nat.zero_le room)))
    refine total_eq_zero fun w hw => ?_
    exact Nat.le_zero.mp ((le_foldr_max 0 hw).trans (Nat.le_of_not_lt hno))
  have hless : second < first := by
    rcases Nat.eq_zero_or_pos second with hzero | hmem
    · rwa [hzero]
    · have hin : second ∈ widths.filter (· != first) := foldr_max_mem hmem
      obtain ⟨hw, hne⟩ := List.mem_filter.mp hin
      exact lt_of_le_of_ne (le_foldr_max 0 hw) (by simpa using hne)
  have hmap : (widths.map fun w => (w, if w = first then min (total widths - room) (first - second)
      else 0)).map (·.1) = widths := by
    rw [List.map_map]
    exact List.map_id widths
  rw [narrow, ← hfirst, ← hsecond]
  conv_rhs => rw [← hmap]
  refine total_takeFrom_lt (Nat.sub_pos_of_lt h) (fun x hx => ?_) ?_
  · obtain ⟨w, -, rfl⟩ := List.mem_map.mp hx
    by_cases hw : w = first
    · simp only [hw, if_true]
      omega
    · simp [hw]
  · refine ⟨_, List.mem_map_of_mem (foldr_max_mem hpos), ?_⟩
    simp only [← hfirst, if_true]
    omega

/-- There is room for widths that are made narrower. -/
theorem total_narrowTo_le (room : Nat) (widths : List Nat) :
    total (narrowTo room widths) ≤ room := by
  induction widths using narrowTo.induct room with
  | case1 widths hless ih => rwa [narrowTo, if_pos hless]
  | case2 widths hless =>
    rw [narrowTo, if_neg hless]
    exact Nat.le_of_not_lt fun h => hless (total_narrow_lt h)

/-- **There is room for the columns of a table.** -/
theorem total_widthsWithin_le (room : Nat) (natural : List Nat) :
    total (widthsWithin room natural) ≤ room :=
  total_narrowTo_le ..

/-- **Columns stay as wide as they are** where there is room for them. -/
theorem widthsWithin_of_le {room : Nat} {natural : List Nat} (h : total natural ≤ room) :
    widthsWithin room natural = natural := by
  have hmin : natural.map (min room) = natural := by
    conv_rhs => rw [← List.map_id natural]
    exact List.map_congr_left fun w hw => min_eq_right ((le_total_of_mem hw).trans h)
  have hnarrow : narrow room natural = natural := by
    rw [narrow, takeFrom_of_forall, List.map_map]
    · exact List.map_id natural
    · intro x hx
      obtain ⟨w, -, rfl⟩ := List.mem_map.mp hx
      simp [Nat.sub_eq_zero_of_le h]
  rw [widthsWithin, hmin, narrowTo, hnarrow, if_neg (lt_irrefl _)]

/-! ### Wider columns -/

theorem forall₂_trans {α β γ : Type} {R : α → β → Prop} {S : β → γ → Prop} {T : α → γ → Prop}
    {as : List α} {bs : List β} {cs : List γ} (h : List.Forall₂ R as bs)
    (h' : List.Forall₂ S bs cs) (htrans : ∀ a b c, R a b → S b c → T a c) :
    List.Forall₂ T as cs := by
  induction h generalizing cs with
  | nil =>
    cases h'
    exact .nil
  | cons hab _ ih =>
    obtain ⟨c, cs, hbc, hrest, rfl⟩ := List.forall₂_cons_left_iff.mp h'
    exact .cons (htrans _ _ _ hab hbc) (ih hrest)

theorem length_share (rest : Nat) (widths : List Nat) :
    (share rest widths).length = widths.length := by
  induction widths generalizing rest with
  | nil => rfl
  | cons w widths ih => rw [share, List.length_cons, ih, List.length_cons]

/-- Columns are only made wider. -/
theorem forall₂_le_widenTo (least : Nat) (widths : List Nat) :
    List.Forall₂ (· ≤ ·) widths (widenTo least widths) := by
  have hadd : ∀ more : List Nat, more.length = widths.length →
      List.Forall₂ (· ≤ ·) widths (List.zipWith (· + ·) widths more) := by
    induction widths with
    | nil => exact fun _ _ => .nil
    | cons w widths ih =>
      intro more hmore
      rcases more with - | ⟨m, more⟩
      · cases hmore
      · exact .cons (Nat.le_add_right w m) (ih more (Nat.succ_inj.mp hmore))
  rw [widenTo]
  split
  · exact hadd _ (length_share _ widths)
  · exact List.forall₂_same.mpr fun _ _ => le_rfl

end SigmaRules.Layout
