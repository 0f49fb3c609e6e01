/-
SigmaRules/Search/Modifier.lean

The modifiers that stand after the name of a field.  Main statement: a
modifier's name names it (`ofName_name`, `name_ofName`).
-/

namespace SigmaRules

/-- The names of modifiers. -/
def knownModifiers : List String :=
  ["all", "base64", "base64offset", "cidr", "contains", "endswith", "expand", "re", "startswith",
    "windash"]

/-- A modifier of a search. -/
inductive Modifier
  /-- All patterns have to match, not just one. -/
  | all
  /-- The patterns are looked for in base 64. -/
  | base64
  /-- The patterns are looked for in base 64 at any alignment. -/
  | base64offset
  /-- The patterns are blocks of addresses. -/
  | cidr
  /-- The patterns may match anywhere. -/
  | contains
  /-- The patterns match at the end. -/
  | endswith
  /-- The patterns are placeholders. -/
  | expand
  /-- The patterns are regular expressions. -/
  | re
  /-- The patterns match at the start. -/
  | startswith
  /-- Hyphens that introduce flags stand for all dashes that do. -/
  | windash
  /-- A name that is no modifier's. -/
  | unknown (name : String) (h : name ∉ knownModifiers)
  deriving DecidableEq, Repr

namespace Modifier

/-- The modifiers and their names. -/
def vocabulary : List (String × Modifier) :=
  [("all", .all), ("base64", .base64), ("base64offset", .base64offset), ("cidr", .cidr),
    ("contains", .contains), ("endswith", .endswith), ("expand", .expand), ("re", .re),
    ("startswith", .startswith), ("windash", .windash)]

theorem lookup_eq_none_iff {name : String} :
    vocabulary.lookup name = none ↔ name ∉ knownModifiers := by
  simp [vocabulary, knownModifiers, List.lookup_eq_none_iff]

/-- The modifier of a name. -/
def ofName (name : String) : Modifier :=
  match h : vocabulary.lookup name with
  | some m => m
  | none => .unknown name (lookup_eq_none_iff.mp h)

/-- The name of a modifier. -/
def name : Modifier → String
  | .all => "all"
  | .base64 => "base64"
  | .base64offset => "base64offset"
  | .cidr => "cidr"
  | .contains => "contains"
  | .endswith => "endswith"
  | .expand => "expand"
  | .re => "re"
  | .startswith => "startswith"
  | .windash => "windash"
  | .unknown name _ => name

/-- Is the modifier one that searches know? -/
def isKnown : Modifier → Bool
  | .unknown .. => false
  | _ => true

theorem lookup_name {m : Modifier} (h : m.isKnown = true) : vocabulary.lookup m.name = some m := by
  cases m with
  | unknown name _ => cases h
  | _ => rfl

/-- The name of a modifier names it. -/
theorem ofName_name (m : Modifier) : ofName m.name = m := by
  rw [ofName]
  split
  case h_1 n hn =>
    by_cases hm : m.isKnown = true
    · exact Option.some.inj (hn.symm.trans (lookup_name hm))
    · cases m with
      | unknown name h => exact absurd (hn.symm.trans (lookup_eq_none_iff.mpr h)) nofun
      | _ => exact absurd rfl hm
  case h_2 hnone =>
    cases m with
    | unknown name _ => rfl
    | _ => cases hnone

/-- A name is the name of the modifier that it names. -/
theorem name_ofName (s : String) : (ofName s).name = s := by
  have hnames : ∀ v ∈ vocabulary, v.2.name = v.1 := by decide
  rw [ofName]
  split
  case h_1 m hm =>
    obtain ⟨before, after, hsplit, -⟩ := List.lookup_eq_some_iff.mp hm
    exact hnames (s, m) (by simp [hsplit])
  case h_2 => rfl

end Modifier

end SigmaRules
