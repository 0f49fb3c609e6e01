/-
SigmaRules/Proofs/Answers.lean

Computations that may fail.  If a computation in steps gives an answer, each of
its steps does, and these lemmas say which answers they are.  For a list that is worked
on item by item they are paired with the items (`list_eq_ok_iff`).

Two computations agree if they fail in the same way or have related answers, and
steps that agree make computations that do (`Agree.bind`).

Where failures are problems and faults, a computation is bounded by the faults that
it may stop with and by the answers that it may give (`Meets`).  Steps pass their
bounds on (`Meets.bind`); problems are always allowed.
-/
import Mathlib.Data.List.Forall2
import SigmaRules.Fault

namespace SigmaRules

variable {ε α β γ δ : Type}

theorem bind_eq_ok_iff {x : Except ε α} {f : α → Except ε β} {b : β} :
    x >>= f = .ok b ↔ ∃ a, x = .ok a ∧ f a = .ok b := by
  rcases x with e | a
  · simp [bind, Except.bind]
  · simp [bind, Except.bind]

theorem exists_of_bind_eq_ok {x : Except ε α} {f : α → Except ε β} {b : β}
    (h : x >>= f = .ok b) : ∃ a, x = .ok a ∧ f a = .ok b := bind_eq_ok_iff.mp h

theorem map_eq_ok_iff {x : Except ε α} {f : α → β} {b : β} :
    x.map f = .ok b ↔ ∃ a, x = .ok a ∧ f a = b := by
  rcases x with e | a
  · simp [Except.map]
  · simp [Except.map]

theorem exists_of_map_eq_ok {x : Except ε α} {f : α → β} {b : β} (h : x.map f = .ok b) :
    ∃ a, x = .ok a ∧ f a = b := map_eq_ok_iff.mp h

theorem mapError_eq_ok_iff {f : ε → δ} {x : Except ε α} {a : α} :
    x.mapError f = .ok a ↔ x = .ok a := by
  rcases x with e | b
  · simp [Except.mapError]
  · simp [Except.mapError]

theorem orStop_eq_ok_iff {x : Except Fault α} {a : α} :
    (Failure.orStop x : Except (Failure δ) α) = .ok a ↔ x = .ok a := mapError_eq_ok_iff

/-- A list is worked on item by item, and there is an answer if there is one for each item. -/
theorem list_eq_ok_iff (F : List α → Except ε (List β)) (g : α → Except ε β) (hnil : F [] = .ok [])
    (hcons : ∀ a as, F (a :: as) = g a >>= fun b => F as >>= fun bs => .ok (b :: bs))
    {as : List α} {bs : List β} : F as = .ok bs ↔ List.Forall₂ (fun a b => g a = .ok b) as bs := by
  induction as generalizing bs with
  | nil => simp [hnil, eq_comm]
  | cons a as ih =>
    rw [hcons]
    constructor
    · intro h
      obtain ⟨b, hb, h⟩ := exists_of_bind_eq_ok h
      obtain ⟨cs, hcs, h⟩ := exists_of_bind_eq_ok h
      obtain rfl : b :: cs = bs := Except.ok.inj h
      exact .cons hb (ih.mp hcs)
    · intro h
      obtain ⟨b, cs, hb, hcs, rfl⟩ := List.forall₂_cons_left_iff.mp h
      rw [hb, ih.mpr hcs]
      rfl

section Paired

variable {R : α → β → Prop} {as : List α} {bs : List β}

theorem exists_left_of_mem (h : List.Forall₂ R as bs) {b : β} (hb : b ∈ bs) :
    ∃ a ∈ as, R a b := by
  induction h with
  | nil => cases hb
  | @cons a _ as _ hab _ ih =>
    rcases List.mem_cons.mp hb with rfl | hb
    · exact ⟨a, List.mem_cons_self, hab⟩
    · obtain ⟨c, hc, hcb⟩ := ih hb
      exact ⟨c, List.mem_cons_of_mem a hc, hcb⟩

theorem exists_right_of_mem (h : List.Forall₂ R as bs) {a : α} (ha : a ∈ as) :
    ∃ b ∈ bs, R a b :=
  exists_left_of_mem h.flip ha

/-- If what stands on the left can be followed on the right, step by step, so can a list. -/
theorem exists_paired {P : α → γ → Prop} {Q : β → δ → Prop} {S : γ → δ → Prop} {cs : List γ}
    (h : List.Forall₂ R as bs) (hstep : ∀ a b c, R a b → P a c → ∃ d, Q b d ∧ S c d)
    (hcs : List.Forall₂ P as cs) : ∃ ds, List.Forall₂ Q bs ds ∧ List.Forall₂ S cs ds := by
  induction h generalizing cs with
  | nil =>
    cases hcs
    exact ⟨[], .nil, .nil⟩
  | @cons a b as bs hab _ ih =>
    obtain ⟨c, cs, hc, hrest, rfl⟩ := List.forall₂_cons_left_iff.mp hcs
    obtain ⟨d, hd, hcd⟩ := hstep a b c hab hc
    obtain ⟨ds, hds, hcds⟩ := ih hrest
    exact ⟨d :: ds, .cons hd hds, .cons hcd hcds⟩

end Paired

theorem mapM_eq_of_forall₂ {f : α → Option γ} {g : β → Option γ} {as : List α} {bs : List β}
    (h : List.Forall₂ (fun a b => f a = g b) as bs) : as.mapM f = bs.mapM g := by
  induction h with
  | nil => rfl
  | cons hab _ ih => rw [List.mapM_cons, List.mapM_cons, hab, ih]

theorem orElse_eq_some_iff {x y : Option α} {a : α} :
    (x <|> y) = some a ↔ x = some a ∨ x = none ∧ y = some a := by
  rcases x with - | b <;> simp

theorem mapM_eq_some_iff {f : α → Option β} {as : List α} {bs : List β} :
    as.mapM f = some bs ↔ List.Forall₂ (fun a b => f a = some b) as bs := by
  induction as generalizing bs with
  | nil => simp [eq_comm]
  | cons a as ih =>
    rw [List.mapM_cons, List.forall₂_cons_left_iff]
    simp only [← ih]
    rcases f a with - | b
    · simp
    · rcases as.mapM f with - | cs <;> simp [eq_comm]

/-- A list has answers if each of its items has one. -/
theorem exists_mapM_eq_ok {f : α → Except ε β} {R : α → β → Prop} {as : List α}
    (h : ∀ a ∈ as, ∃ b, f a = .ok b ∧ R a b) :
    ∃ bs, as.mapM f = .ok bs ∧ List.Forall₂ R as bs := by
  induction as with
  | nil => exact ⟨[], rfl, .nil⟩
  | cons a as ih =>
    obtain ⟨⟨b, hb, hab⟩, has⟩ := List.forall_mem_cons.mp h
    obtain ⟨bs, hbs, hrest⟩ := ih has
    refine ⟨b :: bs, ?_, .cons hab hrest⟩
    rw [List.mapM_cons, hb, hbs]
    rfl

/-- Where all items have to pass a test, all of the list has to. -/
theorem mapM_eq_ite {f : α → Except ε β} {p : α → Bool} {g : α → β} {failure : ε}
    (h : ∀ a, f a = if p a then .ok (g a) else .error failure) (as : List α) :
    as.mapM f = if as.all p then .ok (as.map g) else .error failure := by
  induction as with
  | nil => rfl
  | cons a as ih =>
    rw [List.mapM_cons, h, ih, List.all_cons]
    rcases p a with - | -
    · rfl
    · rcases as.all p with - | - <;> rfl

/-- Where each item has an answer or fails in one way, so does the list. -/
theorem mapM_cases {f : α → Except ε β} {failure : ε} {as : List α}
    (h : ∀ a ∈ as, (∃ b, f a = .ok b) ∨ f a = .error failure) :
    (∃ bs, as.mapM f = .ok bs) ∨ as.mapM f = .error failure := by
  induction as with
  | nil => exact .inl ⟨[], rfl⟩
  | cons a as ih =>
    obtain ⟨ha, has⟩ := List.forall_mem_cons.mp h
    rw [List.mapM_cons]
    rcases ha with ⟨b, hb⟩ | hb
    · rcases ih has with ⟨bs, hbs⟩ | hbs
      · exact .inl ⟨b :: bs, by rw [hb, hbs]; rfl⟩
      · exact .inr (by rw [hb, hbs]; rfl)
    · exact .inr (by rw [hb]; rfl)

section Congruence

variable {f g : α → Except ε Bool} {as : List α}

theorem allM_congr (h : ∀ a ∈ as, f a = g a) : as.allM f = as.allM g := by
  induction as with
  | nil => rfl
  | cons a as ih =>
    obtain ⟨ha, has⟩ := List.forall_mem_cons.mp h
    rw [List.allM, List.allM, ha, ih has]

theorem anyM_congr (h : ∀ a ∈ as, f a = g a) : as.anyM f = as.anyM g := by
  induction as with
  | nil => rfl
  | cons a as ih =>
    obtain ⟨ha, has⟩ := List.forall_mem_cons.mp h
    rw [List.anyM, List.anyM, ha, ih has]

end Congruence

theorem map_eq_of_mapM {f : α → Option β} {xs : List α} {ys : List β}
    (h : xs.mapM f = some ys) : xs.map f = ys.map some := by
  induction xs generalizing ys with
  | nil =>
    obtain rfl : [] = ys := Option.some.inj h
    rfl
  | cons x xs ih =>
    rw [List.mapM_cons] at h
    rcases hx : f x with - | y
    · simp [hx] at h
    rcases hxs : xs.mapM f with - | zs
    · simp [hx, hxs] at h
    obtain rfl : y :: zs = ys := by simpa [hx, hxs] using h
    rw [List.map_cons, List.map_cons, hx, ih hxs]

/-- Both computations fail in the same way, or their answers are related. -/
inductive Agree (R : α → β → Prop) : Except ε α → Except ε β → Prop
  | error (e : ε) : Agree R (.error e) (.error e)
  | ok {a : α} {b : β} (h : R a b) : Agree R (.ok a) (.ok b)

namespace Agree

variable {R : α → β → Prop} {S : γ → δ → Prop} {x : Except ε α} {y : Except ε β}

theorem bind {f : α → Except ε γ} {g : β → Except ε δ} (h : Agree R x y)
    (hfg : ∀ a b, R a b → Agree S (f a) (g b)) : Agree S (x.bind f) (y.bind g) := by
  rcases h with e | h
  · exact error e
  · exact hfg _ _ h

theorem exists_ok {b : β} (h : Agree R x (.ok b)) : ∃ a, x = .ok a ∧ R a b := by
  rcases h with e | h
  exact ⟨_, rfl, h⟩

end Agree

/-- The computation gives an answer of a kind, reports a problem, or stops with a fault
of a kind. -/
def Meets (S : Fault → Prop) (P : α → Prop) : Except (Failure ε) α → Prop
  | .ok a => P a
  | .error (.invalid _) => True
  | .error (.fault f) => S f

namespace Meets

variable {S : Fault → Prop} {P : α → Prop} {Q : β → Prop} {x : Except (Failure ε) α}

theorem bind {f : α → Except (Failure ε) β} (h : Meets S P x) (hf : ∀ a, P a → Meets S Q (f a)) :
    Meets S Q (x >>= f) := by
  rcases x with (p | e) | a
  · trivial
  · exact h
  · exact hf a h

theorem map {f : α → β} (h : Meets S P x) (hf : ∀ a, P a → Q (f a)) : Meets S Q (x.map f) := by
  rcases x with (p | e) | a
  · trivial
  · exact h
  · exact hf a h

/-- From outside, a problem is another problem, and faults are the same. -/
theorem within {f : ε → γ} (h : Meets S P x) : Meets S P (Failure.within f x) := by
  rcases x with (p | e) | a
  · trivial
  · exact h
  · exact h

/-- What only reports problems stops with no fault. -/
theorem mapError {f : γ → ε} (y : Except γ α) :
    Meets S (fun _ => True) (y.mapError fun p => Failure.invalid (f p)) := by
  rcases y with p | a
  · trivial
  · trivial

theorem mono {S' : Fault → Prop} {P' : α → Prop} (h : Meets S P x) (hS : ∀ f, S f → S' f)
    (hP : ∀ a, P a → P' a) : Meets S' P' x := by
  rcases x with (p | e) | a
  · trivial
  · exact hS e h
  · exact hP a h

/-- A list is worked on item by item, and the first item that fails counts. -/
theorem list (F : List α → Except (Failure ε) (List β)) (g : α → Except (Failure ε) β)
    (hnil : F [] = .ok [])
    (hcons : ∀ a as, F (a :: as) = g a >>= fun b => F as >>= fun bs => .ok (b :: bs))
    {as : List α} (h : ∀ a ∈ as, Meets S (fun _ => True) (g a)) :
    Meets S (fun _ => True) (F as) := by
  induction as with
  | nil =>
    rw [hnil]
    trivial
  | cons a as ih =>
    obtain ⟨ha, has⟩ := List.forall_mem_cons.mp h
    rw [hcons]
    exact ha.bind fun b _ => (ih has).bind fun bs _ => trivial

/-- Every computation meets the faults that it stops with. -/
theorem self (x : Except (Failure ε) α) :
    Meets (fun f => x = .error (.fault f)) (fun a => x = .ok a) x := by
  rcases x with (p | e) | a
  · trivial
  · rfl
  · rfl

/-- An answer is the one that the computation gives, whatever faults it may stop with. -/
theorem answer (x : Except (Failure ε) α) : Meets (fun _ => True) (fun a => x = .ok a) x :=
  (self x).mono (fun _ _ => trivial) fun _ => id

end Meets

/-- The fault that a computation stops with. -/
def fault? : Except (Failure ε) α → Option Fault
  | .error (.fault f) => some f
  | _ => none

theorem eq_fault_of_fault? {x : Except (Failure ε) α} {f : Fault} (h : fault? x = some f) :
    x = .error (.fault f) := by
  rcases x with (p | e) | a
  · cases h
  · rw [Option.some.inj h]
  · cases h

end SigmaRules
