/-
SigmaRules/Proofs/Detection/Order.lean

The order in which the entries of mappings are written does not matter.  Values that
differ only in that (`Reordered`), at whatever depth, make detections of which either both
are accepted or none, and which never give different answers about an entry.  If it is only
the outermost mapping that is ordered otherwise, even what is built is the same
(`build_of_reordered`).

The order of the outermost mapping is lost where search identifiers are sorted by their names
(`namedValues_of_perm`); this takes names that are distinct.  The order of a mapping within it
is kept in the children of a conjunction, which all have to match.
-/
import Mathlib.Data.List.Perm.Basic
import Mathlib.Data.String.Basic
import SigmaRules.Proofs.Condition.Tables
import SigmaRules.Proofs.Detection.Building

namespace SigmaRules.Detection

open Document

/-- The values differ only in the order of the entries of mappings, in them or anywhere
within them. -/
inductive Reordered : Value → Value → Prop
  | refl (v : Value) : Reordered v v
  | pair {a b c d : Value} : Reordered a b → Reordered c d → Reordered (.pair a c) (.pair b d)
  | list {vs ws : List Value} : List.Forall₂ Reordered vs ws → Reordered (.list vs) (.list ws)
  /-- The values of entries differ so, and then the entries change places. -/
  | map {es fs gs : Entries} : es.map Prod.fst = fs.map Prod.fst →
      List.Forall₂ Reordered (es.map Prod.snd) (fs.map Prod.snd) → fs.Perm gs →
      Reordered (.map es) (.map gs)

/-- The keys of a mapping are spelled differently from each other. -/
def DistinctNames (es : Entries) : Prop := (es.map fun e => e.1.plain).Nodup

variable {v w : Value} {vs ws : List Value} {es fs gs : Entries} {name : String} {x y : Expr}

/-! ### Entries that correspond -/

/-- The entries have the same keys or names, and values that are reordered. -/
def Corresponding {κ : Type} (e f : κ × Value) : Prop := e.1 = f.1 ∧ Reordered e.2 f.2

theorem forall₂_corresponding_iff : List.Forall₂ Corresponding es fs ↔
    es.map Prod.fst = fs.map Prod.fst ∧
      List.Forall₂ Reordered (es.map Prod.snd) (fs.map Prod.snd) := by
  induction es generalizing fs with
  | nil => cases fs <;> simp
  | cons e es ih =>
    cases fs with
    | nil => simp
    | cons f fs => simp [ih, Corresponding, and_assoc, and_left_comm]

/-- Mappings are reordered if their entries can be paired after one of them is permuted. -/
theorem reordered_map_iff : Reordered (.map es) (.map gs) ↔
    ∃ fs, List.Forall₂ Corresponding es fs ∧ fs.Perm gs := by
  constructor
  · intro h
    cases h with
    | refl => exact ⟨es, List.forall₂_same.mpr fun e _ => ⟨rfl, .refl e.2⟩, .refl es⟩
    | map hkeys hvalues hperm => exact ⟨_, forall₂_corresponding_iff.mpr ⟨hkeys, hvalues⟩, hperm⟩
  · rintro ⟨fs, hes, hperm⟩
    obtain ⟨hkeys, hvalues⟩ := forall₂_corresponding_iff.mp hes
    exact .map hkeys hvalues hperm

/-- Pairing after a permutation is as good as pairing before it. -/
theorem reordered_map_of_perm (hperm : es.Perm fs) (h : List.Forall₂ Corresponding fs gs) :
    Reordered (.map es) (.map gs) := by
  obtain ⟨hs, hes, hperm'⟩ := List.perm_comp_forall₂ hperm h
  exact reordered_map_iff.mpr ⟨hs, hes, hperm'⟩

namespace Reordered

theorem of_perm (h : es.Perm fs) : Reordered (.map es) (.map fs) :=
  .map rfl (List.forall₂_same.mpr fun v _ => .refl v) h

/-- The relation looks the same from both sides. -/
theorem symm (h : Reordered v w) : Reordered w v := by
  -- the values within a list or a mapping are turned around along with it
  refine @Reordered.rec (fun v w _ => Reordered w v) (fun vs ws _ => List.Forall₂ Reordered ws vs)
    (fun v => .refl v) (fun _ _ hab hcd => .pair hab hcd) (fun _ hvs => .list hvs) ?_ .nil
    (fun _ _ hvw hvs => .cons hvw hvs) v w h
  intro es fs gs hkeys _ hperm hvalues
  exact reordered_map_of_perm hperm.symm (forall₂_corresponding_iff.mpr ⟨hkeys.symm, hvalues⟩)

theorem isScalar_eq (h : Reordered v w) : v.isScalar = w.isScalar := by
  cases h <;> rfl

theorem eq_of_isScalar (h : Reordered v w) (hv : v.isScalar = true) : v = w := by
  cases h with
  | refl => rfl
  | pair | list | map => cases hv

theorem asText?_eq (h : Reordered v w) : v.asText? = w.asText? := by
  cases h <;> rfl

theorem texts_eq (h : Reordered v w) : v.texts = w.texts := by
  cases h with
  | list h => rw [Value.texts, Value.texts, mapM_eq_of_forall₂ (h.imp fun _ _ => asText?_eq)]
  | _ => rfl

theorem eq_or_not_scalars (h : List.Forall₂ Reordered vs ws) :
    vs = ws ∨ (vs.all Value.isScalar = false ∧ ws.all Value.isScalar = false) := by
  induction h with
  | nil => exact .inl rfl
  | @cons v w vs ws hvw _ ih =>
    rw [List.all_cons, List.all_cons, ← hvw.isScalar_eq]
    rcases hv : v.isScalar with - | -
    · exact .inr ⟨rfl, rfl⟩
    · obtain rfl := hvw.eq_of_isScalar hv
      exact ih.imp (congrArg (v :: ·)) id

/-- Values that are searched for are scalars, in which there is nothing to reorder. -/
theorem scalars?_eq (h : Reordered v w) : scalars? v = scalars? w := by
  cases h with
  | list h =>
    rcases eq_or_not_scalars h with rfl | ⟨hvs, hws⟩
    · rfl
    · rw [scalars?, scalars?, hvs, hws]
      rfl
  | _ => rfl

end Reordered

/-! ### What values are built to -/

/-- The expressions concur, and look for the same words if they only look for words. -/
structure Exchangeable (x y : Expr) : Prop where
  concur : x.Concur y
  words : plainKeywords? x = plainKeywords? y

theorem Exchangeable.refl (x : Expr) : Exchangeable x x := ⟨.refl x, rfl⟩

theorem exists_ofFields_of_reordered {ss : List Search} (h : Reordered (.map es) (.map gs))
    (hss : ofFields es = .ok ss) : ∃ ts, ofFields gs = .ok ts ∧ ss.Perm ts := by
  obtain ⟨fs, hes, hperm⟩ := reordered_map_iff.mp h
  have hfields : ∀ e f s, Corresponding e f → ofField e.1 e.2 = .ok s →
      ∃ t, ofField f.1 f.2 = .ok t ∧ s = t := by
    intro e f s ⟨hkey, hvalue⟩ hs
    rw [ofField, hkey, hvalue.scalars?_eq] at hs
    exact ⟨s, hs, rfl⟩
  obtain ⟨ts, hts, heq⟩ := exists_paired hes hfields (ofFields_eq_ok_iff.mp hss)
  rw [List.forall₂_eq_eq_eq] at heq
  obtain rfl := heq
  obtain ⟨us, hus, hperm'⟩ := List.perm_comp_forall₂ hperm.symm hts
  exact ⟨us, ofFields_eq_ok_iff.mpr hus, hperm'.symm⟩

/-- The fields of a mapping are children of a conjunction, and one field stands for itself. -/
theorem exists_ofMap_of_reordered (h : Reordered (.map es) (.map gs)) (hx : ofMap es = .ok x) :
    ∃ y, ofMap gs = .ok y ∧ Exchangeable x y := by
  obtain ⟨ss, hss, hcases⟩ := ofMap_eq_ok_iff.mp hx
  obtain ⟨ts, hts, hperm⟩ := exists_ofFields_of_reordered h hss
  rcases hcases with ⟨s, rfl, rfl⟩ | ⟨h2, rfl⟩
  · obtain rfl := List.singleton_perm.mp hperm
    exact ⟨_, ofMap_eq_ok_iff.mpr ⟨_, hts, .inl ⟨s, rfl, rfl⟩⟩, .refl _⟩
  · exact ⟨_, ofMap_eq_ok_iff.mpr ⟨ts, hts, .inr ⟨hperm.length_eq ▸ h2, rfl⟩⟩,
      Expr.Concur.and (hperm.map _), rfl⟩

theorem exists_ofItem_of_reordered (h : Reordered v w) (hx : ofItem name v = .ok x) :
    ∃ y, ofItem name w = .ok y ∧ Exchangeable x y := by
  cases h with
  | refl => exact ⟨x, hx, .refl x⟩
  | pair | list => cases hx
  | map hkeys hvalues hperm => exact exists_ofMap_of_reordered (.map hkeys hvalues hperm) hx

theorem concur_anyOf {xs ys : List Expr} (h : List.Forall₂ Exchangeable xs ys) :
    (anyOf xs).Concur (anyOf ys) := by
  have hwords := mapM_eq_of_forall₂ (h.imp fun _ _ hxy => hxy.words)
  rw [anyOf, anyOf, hwords]
  rcases ys.mapM plainKeywords? with - | pss
  · exact Expr.Concur.or (h.imp fun _ _ hxy => hxy.concur)
  · exact Expr.Concur.refl _

theorem exists_ofValue_of_reordered (h : Reordered v w) (hx : ofValue name v = .ok x) :
    ∃ y, ofValue name w = .ok y ∧ x.Concur y := by
  cases h with
  | refl => exact ⟨x, hx, .refl x⟩
  | pair => cases hx
  | map hkeys hvalues hperm =>
    obtain ⟨y, hy, hxy⟩ := exists_ofMap_of_reordered (.map hkeys hvalues hperm) hx
    exact ⟨y, hy, hxy.concur⟩
  | list hvs =>
    obtain ⟨xs, hxs, hcases⟩ := ofValue_list_iff.mp hx
    have hitems : ∀ v w x, Reordered v w → ofItem name v = .ok x →
        ∃ y, ofItem name w = .ok y ∧ Exchangeable x y :=
      fun _ _ _ => exists_ofItem_of_reordered
    obtain ⟨ys, hys, hxys⟩ := exists_paired hvs hitems (ofItems_eq_ok_iff.mp hxs)
    have hys := ofItems_eq_ok_iff.mpr hys
    rcases hcases with rfl | ⟨h2, rfl⟩
    · obtain ⟨y, ys', hxy, hnil, rfl⟩ := List.forall₂_cons_left_iff.mp hxys
      cases hnil
      exact ⟨y, ofValue_list_iff.mpr ⟨_, hys, .inl rfl⟩, hxy.concur⟩
    · exact ⟨_, ofValue_list_iff.mpr ⟨ys, hys, .inr ⟨hxys.length_eq ▸ h2, rfl⟩⟩, concur_anyOf hxys⟩

/-! ### Search identifiers -/

section InsertNamed

variable {m n : String} {named named' : List (String × Value)}

theorem insertNamed_of_lt (h : m < n) :
    insertNamed m v ((n, w) :: named) = (m, v) :: (n, w) :: named := by
  rw [insertNamed, if_pos h]

theorem insertNamed_self : insertNamed n v ((n, w) :: named) = (n, v) :: named := by
  rw [insertNamed, if_neg (lt_irrefl n), if_pos rfl]

theorem insertNamed_of_gt (h : n < m) :
    insertNamed m v ((n, w) :: named) = (n, w) :: insertNamed m v named := by
  rw [insertNamed, if_neg h.not_gt, if_neg h.ne']

theorem insertNamed_comm_of_lt (h : m < n) (v w : Value) :
    insertNamed m v (insertNamed n w named) = insertNamed n w (insertNamed m v named) := by
  induction named with
  | nil =>
    have hn : insertNamed n w [] = [(n, w)] := rfl
    have hm : insertNamed m v [] = [(m, v)] := rfl
    rw [hn, hm, insertNamed_of_lt h, insertNamed_of_gt h, hn]
  | cons i named ih =>
    obtain ⟨k, u⟩ := i
    rcases lt_trichotomy n k with hn | rfl | hn
    · rw [insertNamed_of_lt hn, insertNamed_of_lt h, insertNamed_of_lt (h.trans hn),
        insertNamed_of_gt h, insertNamed_of_lt hn]
    · rw [insertNamed_self, insertNamed_of_lt h, insertNamed_of_lt h, insertNamed_of_gt h,
        insertNamed_self]
    rw [insertNamed_of_gt hn]
    rcases lt_trichotomy m k with hm | rfl | hm
    · rw [insertNamed_of_lt hm, insertNamed_of_lt hm, insertNamed_of_gt h, insertNamed_of_gt hn]
    · rw [insertNamed_self, insertNamed_self, insertNamed_of_gt h]
    · rw [insertNamed_of_gt hm, insertNamed_of_gt hm, insertNamed_of_gt hn, ih]

/-- Values of different names may be written in any order. -/
theorem insertNamed_comm (h : m ≠ n) (v w : Value) :
    insertNamed m v (insertNamed n w named) = insertNamed n w (insertNamed m v named) := by
  rcases lt_or_gt_of_ne h with h | h
  · exact insertNamed_comm_of_lt h v w
  · exact (insertNamed_comm_of_lt h w v).symm

theorem forall₂_insertNamed (h : List.Forall₂ Corresponding named named') (hvw : Reordered v w) :
    List.Forall₂ Corresponding (insertNamed m v named) (insertNamed m w named') := by
  induction h with
  | nil => exact .cons ⟨rfl, hvw⟩ .nil
  | @cons i j named named' hij hrest ih =>
    obtain ⟨n, u⟩ := i
    obtain ⟨n', u'⟩ := j
    obtain rfl : n = n' := hij.1
    rcases lt_trichotomy m n with h | rfl | h
    · rw [insertNamed_of_lt h, insertNamed_of_lt h]
      exact .cons ⟨rfl, hvw⟩ (.cons hij hrest)
    · rw [insertNamed_self, insertNamed_self]
      exact .cons ⟨rfl, hvw⟩ hrest
    · rw [insertNamed_of_gt h, insertNamed_of_gt h]
      exact .cons hij ih

end InsertNamed

/-- Entries whose names are distinct may be written in any order. -/
theorem namedValues_of_perm (hperm : es.Perm fs) (hdistinct : DistinctNames es) :
    namedValues es = namedValues fs := by
  rw [namedValues, namedValues]
  refine (hperm.filter _).foldl_eq' (fun e he f hf named => ?_) []
  by_cases heq : e = f
  · rw [heq]
  · have hnames : e.1.plain ≠ f.1.plain := fun h =>
      heq (List.inj_on_of_nodup_map hdistinct (List.mem_of_mem_filter he)
        (List.mem_of_mem_filter hf) h)
    exact insertNamed_comm hnames.symm f.2 e.2

theorem forall₂_namedValues (h : List.Forall₂ Corresponding es fs) :
    List.Forall₂ Corresponding (namedValues es) (namedValues fs) := by
  have hkept : List.Forall₂ Corresponding (es.filter fun e => isIdentifier e.1)
      (fs.filter fun e => isIdentifier e.1) :=
    List.rel_filter (fun e f hef => by dsimp only; rw [hef.1]) h
  refine List.rel_foldl (fun _ _ hnamed e f hef => ?_) .nil hkept
  rw [hef.1]
  exact forall₂_insertNamed hnamed hef.2

/-! ### Names of a block -/

/-- Reordering keeps the keys. -/
theorem perm_keys (h : Reordered (.map es) (.map gs)) :
    (es.map Prod.fst).Perm (gs.map Prod.fst) := by
  obtain ⟨fs, hes, hperm⟩ := reordered_map_iff.mp h
  rw [(forall₂_corresponding_iff.mp hes).1]
  exact hperm.map _

theorem distinctNames_iff (h : (es.map Prod.fst).Perm (fs.map Prod.fst)) :
    DistinctNames es ↔ DistinctNames fs := by
  have hnames := (h.map Value.plain).nodup_iff
  rwa [List.map_map, List.map_map] at hnames

theorem has_eq (h : (es.map Prod.fst).Perm (fs.map Prod.fst)) (key : Value) :
    Entries.has es key = Entries.has fs key := by
  have hany := h.any_eq (f := (·.sameKey key))
  rwa [List.any_map, List.any_map] at hany

theorem namesAreWritable_eq (h : (es.map Prod.fst).Perm (fs.map Prod.fst)) :
    namesAreWritable es = namesAreWritable fs := by
  have hall := (h.filter isIdentifier).all_eq (f := Value.isWritable)
  rwa [List.filter_map, List.all_map, List.filter_map, List.all_map] at hall

theorem sameKey_text_iff : v.sameKey (.text name) = true ↔ v = .text name := by
  cases v <;> simp [Value.sameKey]

/-- A name stands for the value that is written under it, wherever that is. -/
theorem get?_text_iff (hdistinct : DistinctNames es) :
    Entries.get? es (.text name) = some v ↔ (.text name, v) ∈ es := by
  simp only [Entries.get?, Option.map_eq_some_iff]
  constructor
  · rintro ⟨e, he, rfl⟩
    have hkey : e.1.sameKey (.text name) = true := by simpa using List.find?_some he
    rw [← sameKey_text_iff.mp hkey]
    exact List.mem_of_find?_eq_some he
  · intro hmem
    rcases he : es.find? fun e => e.1.sameKey (.text name) with - | e
    · exact absurd (sameKey_text_iff.mpr rfl) (List.find?_eq_none.mp he _ hmem)
    · have hkey : e.1 = .text name := sameKey_text_iff.mp (by simpa using List.find?_some he)
      have heq := List.inj_on_of_nodup_map hdistinct (List.mem_of_find?_eq_some he) hmem
        (congrArg Value.plain hkey)
      exact ⟨e, he, congrArg Prod.snd heq⟩

theorem get?_of_perm (hperm : es.Perm fs) (hdistinct : DistinctNames es) :
    Entries.get? es (.text name) = Entries.get? fs (.text name) := by
  have hdistinct' := (distinctNames_iff (hperm.map _)).mp hdistinct
  ext v
  rw [get?_text_iff hdistinct, get?_text_iff hdistinct', hperm.mem_iff]

theorem rel_get? (h : List.Forall₂ Corresponding es fs) (key : Value) :
    Option.Rel Reordered (Entries.get? es key) (Entries.get? fs key) := by
  induction h with
  | nil => exact .none
  | @cons e f es fs hef _ ih =>
    rw [Entries.get?, Entries.get?, List.find?_cons, List.find?_cons, hef.1]
    rcases f.1.sameKey key with - | -
    · exact ih
    · exact .some hef.2

theorem elim_texts_eq {a b : Option Value} (h : Option.Rel Reordered a b) :
    a.elim [] Value.texts = b.elim [] Value.texts := by
  cases h with
  | none => rfl
  | some hvw => exact hvw.texts_eq

theorem conditions_of_reordered (h : Reordered (.map es) (.map gs)) (hdistinct : DistinctNames es) :
    conditions es = conditions gs := by
  obtain ⟨fs, hes, hperm⟩ := reordered_map_iff.mp h
  have hdistinct' : DistinctNames fs :=
    (distinctNames_iff (.of_eq (forall₂_corresponding_iff.mp hes).1)).mp hdistinct
  rw [conditions, conditions, ← get?_of_perm hperm hdistinct']
  exact elim_texts_eq (rel_get? hes (.text conditionKey))

/-! ### Blocks -/

/-- The values of search identifiers are found in the order of their names, wherever they are
written. -/
theorem namedValues_of_reordered (h : Reordered (.map es) (.map gs))
    (hdistinct : DistinctNames es) :
    List.Forall₂ Corresponding (namedValues es) (namedValues gs) := by
  obtain ⟨fs, hes, hperm⟩ := reordered_map_iff.mp h
  have hdistinct' : DistinctNames fs :=
    (distinctNames_iff (.of_eq (forall₂_corresponding_iff.mp hes).1)).mp hdistinct
  rw [← namedValues_of_perm hperm hdistinct']
  exact forall₂_namedValues hes

theorem exists_identifiers_of_corresponding {named named' : List (String × Value)}
    {t : Condition.Identifiers} (h : List.Forall₂ Corresponding named named')
    (ht : identifiers named = .ok t) : ∃ u, identifiers named' = .ok u ∧ t.Alike u := by
  have hstep : ∀ (i i' : String × Value) (j : String × Expr), Corresponding i i' →
      (∃ x, ofValue i.1 i.2 = .ok x ∧ (i.1, Expr.named i.1 x) = j) →
      ∃ j', (∃ y, ofValue i'.1 i'.2 = .ok y ∧ (i'.1, Expr.named i'.1 y) = j') ∧
        j.1 = j'.1 ∧ j.2.Concur j'.2 := by
    rintro i i' _ ⟨hname, hvalue⟩ ⟨x, hx, rfl⟩
    obtain ⟨y, hy, hxy⟩ := exists_ofValue_of_reordered hvalue hx
    exact ⟨_, ⟨y, hname ▸ hy, rfl⟩, hname, hxy.named _ _⟩
  obtain ⟨u, hu, htu⟩ := exists_paired h hstep (identifiers_eq_ok_iff.mp ht)
  exact ⟨u, identifiers_eq_ok_iff.mpr hu, htu⟩

theorem exists_build_of_reordered (h : Reordered (.map es) (.map gs)) (hdistinct : DistinctNames es)
    (hx : build (.map es) = .ok x) : ∃ y, build (.map gs) = .ok y ∧ x.Concur y := by
  obtain ⟨t, xs, htimeframe, hnames, ht, hxs, hcases⟩ := build_map_iff.mp hx
  obtain ⟨u, hu, htu⟩ := exists_identifiers_of_corresponding
    (namedValues_of_reordered h hdistinct) ht
  obtain ⟨ys, hys, hxys⟩ := exists_paired (List.forall₂_same.mpr fun c _ => rfl)
    (fun c c' x (hc : c = c') hx => hc ▸ Condition.exists_parse_of_alike htu hx)
    (ofConditions_eq_ok_iff.mp hxs)
  have hys := ofConditions_eq_ok_iff.mpr hys
  rw [has_eq (perm_keys h)] at htimeframe
  rw [namesAreWritable_eq (perm_keys h)] at hnames
  rw [conditions_of_reordered h hdistinct] at hys
  rcases hcases with rfl | ⟨h2, rfl⟩
  · obtain ⟨y, ys', hxy, hnil, rfl⟩ := List.forall₂_cons_left_iff.mp hxys
    cases hnil
    exact ⟨y, build_map_iff.mpr ⟨u, _, htimeframe, hnames, hu, hys, .inl rfl⟩, hxy⟩
  · have hlength : 2 ≤ ys.length := hxys.length_eq ▸ h2
    exact ⟨.or ys, build_map_iff.mpr ⟨u, ys, htimeframe, hnames, hu, hys, .inr ⟨hlength, rfl⟩⟩,
      .or hxys⟩

theorem build_of_perm (hperm : es.Perm fs) (hdistinct : DistinctNames es) :
    build (.map es) = build (.map fs) := by
  have hblank : (Value.map es).isBlank = (Value.map fs).isBlank := by
    rw [Value.isBlank, Value.isBlank, Bool.eq_iff_iff, List.isEmpty_iff, List.isEmpty_iff]
    exact ⟨fun h => (h ▸ hperm).symm.eq_nil, fun h => (h ▸ hperm).eq_nil⟩
  simp only [build, hblank, has_eq (hperm.map _), get?_of_perm hperm hdistinct,
    identifierValues_eq, namesAreWritable_eq (hperm.map _), namedValues_of_perm hperm hdistinct]

/-- **The order of keys does not matter.** -/
theorem build_of_reordered (h : Reordered (.map es) (.map fs)) (hdistinct : DistinctNames es) :
    ((∃ x, build (.map es) = .ok x) ↔ ∃ y, build (.map fs) = .ok y) ∧
      (∀ x y, build (.map es) = .ok x → build (.map fs) = .ok y → ∀ e ps a b,
        x.matchesEntry e ps = .ok a → y.matchesEntry e ps = .ok b → a = b) ∧
      (es.Perm fs → build (.map es) = build (.map fs)) := by
  have hdistinct' := (distinctNames_iff (perm_keys h)).mp hdistinct
  refine ⟨⟨?_, ?_⟩, ?_, fun hperm => build_of_perm hperm hdistinct⟩
  · rintro ⟨x, hx⟩
    obtain ⟨y, hy, -⟩ := exists_build_of_reordered h hdistinct hx
    exact ⟨y, hy⟩
  · rintro ⟨y, hy⟩
    obtain ⟨x, hx, -⟩ := exists_build_of_reordered h.symm hdistinct' hy
    exact ⟨x, hx⟩
  · intro x y hx hy e ps a b ha hb
    obtain ⟨y', hy', hxy⟩ := exists_build_of_reordered h hdistinct hx
    obtain rfl : y = y' := Except.ok.inj (hy.symm.trans hy')
    exact hxy e ps a b ha hb

/-- The statement at blocks of which both mappings are ordered otherwise.  What is built is not the
same, but does not disagree. -/
theorem sample_build_of_reordered :
    let image : Value × Value := (.text "Image|endswith", .text "\\whoami.exe")
    let user : Value × Value := (.text "User", .list [.text "root", .int 0])
    let condition : Value × Value := (.text "condition", .text "not process")
    let es : Entries := [(.text "process", .map [image, user]), condition]
    let fs : Entries := [condition, (.text "process", .map [user, image])]
    let search₁ : Expr := .search ⟨some "Image", [.endswith], ["\\whoami.exe"]⟩
    let search₂ : Expr := .search ⟨some "User", [], ["root", "0"]⟩
    let x : Expr := .not (.named "process" (.and [search₁, search₂]))
    let y : Expr := .not (.named "process" (.and [search₂, search₁]))
    build (.map es) = .ok x ∧ build (.map fs) = .ok y ∧ x ≠ y ∧
      ∀ e ps a b, x.matchesEntry e ps = .ok a → y.matchesEntry e ps = .ok b → a = b := by
  intro image user condition es fs search₁ search₂ x y
  have hprocess : Reordered (.map [image, user]) (.map [user, image]) := .of_perm (.swap ..)
  have hentries : List.Forall₂ Corresponding es
      [(.text "process", .map [user, image]), condition] :=
    .cons ⟨rfl, hprocess⟩ (.cons ⟨rfl, .refl _⟩ .nil)
  have hreordered := reordered_map_iff.mpr ⟨_, hentries, .swap ..⟩
  have hdistinct : DistinctNames es := by unfold DistinctNames; decide
  have hx : build (.map es) = .ok x := by rfl
  have hy : build (.map fs) = .ok y := by rfl
  exact ⟨hx, hy, by decide, (build_of_reordered hreordered hdistinct).2.1 x y hx hy⟩

end SigmaRules.Detection
