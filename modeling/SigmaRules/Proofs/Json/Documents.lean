/-
SigmaRules/Proofs/Json/Documents.lean

Documents are read back from their JSON, up to what JSON has no words for
(`readItems_write`): days, moments and bytes come back as texts, sets and pairs as
lists, and a number that is not finite as null.  Of the entries of a mapping whose keys
are written alike the last one is left.

A text writes a value if the reader takes the text, with any end after it, for that
value (`Writes`).  Lists and mappings write what they hold if their parts do
(`writes_list`, `writes_map`).
-/
import SigmaRules.Proofs.Json.Numbers

namespace SigmaRules.Json

open Document Number Text

/-- The text writes the value: whatever end stands after the text, the reader takes just
the text, for the value. -/
structure Writes (t : List Char) (v : Value) : Prop where
  /-- The text does not start with a space or with the end of a list. -/
  head : ∃ c more, t = c :: more ∧ isSpace (some c) = false ∧ c ≠ ']'
  read : ∀ {fuel : Nat} {rest : List Item}, t.length ≤ fuel → Ends rest →
    readValue {} fuel (items t ++ rest) = .ok (v, rest)

/-- The text writes the entry of a mapping. -/
def WritesEntry (t : List Char) (e : Value × Value) : Prop :=
  ∃ name s, e.1 = .text name ∧ t = (stringText name).toList ++ ':' :: s ∧ Writes s e.2

theorem skipSpace_cons {c : Char} (h : isSpace (some c) = false) (rest : List Item) :
    skipSpace (some c :: rest) = some c :: rest := by
  rw [skipSpace, List.dropWhile_cons_of_neg (by rw [h]; decide)]

/-- A text writes a value if it does so with fuel for its first character. -/
theorem writes_cons {c : Char} {more : List Char} {v : Value} (hspace : isSpace (some c) = false)
    (hend : c ≠ ']')
    (h : ∀ {fuel : Nat} {rest : List Item}, more.length ≤ fuel → Ends rest →
      readValue {} (fuel + 1) (some c :: (items more ++ rest)) = .ok (v, rest)) :
    Writes (c :: more) v where
  head := ⟨c, more, rfl, hspace, hend⟩
  read {fuel rest} hfuel hrest := by
    obtain ⟨fuel, rfl⟩ : ∃ k, fuel = k + 1 := ⟨fuel - 1, by rw [List.length_cons] at hfuel; omega⟩
    exact h (Nat.le_of_succ_le_succ hfuel) hrest

/-! ### Scalars -/

theorem toList_stringText (s : String) :
    (stringText s).toList = '"' :: (s.toList.flatMap charText ++ ['"']) := by
  simp [stringText]

theorem writes_text (s : String) : Writes (stringText s).toList (.text s) := by
  rw [toList_stringText]
  refine writes_cons (by decide) (by decide) fun {fuel rest} _ _ => ?_
  have hread := readString_flatMap s rest
  rw [items_append, List.append_assoc, readValue, skipSpace_cons (by decide)]
  simp only [items_cons, items_nil, List.cons_append, List.nil_append, hread]
  rfl

theorem writes_null : Writes "null".toList .null :=
  writes_cons (by decide) (by decide) fun _ _ => rfl

theorem writes_bool (b : Bool) : Writes (if b then "true" else "false").toList (.bool b) := by
  cases b
  · exact writes_cons (by decide) (by decide) fun _ _ => rfl
  · exact writes_cons (by decide) (by decide) fun _ _ => rfl

theorem isSpace_of_isDigit {c : Char} (hc : c.isDigit = true) : isSpace (some c) = false := by
  by_contra h
  simp only [isSpace, Bool.not_eq_false, Bool.or_eq_true, beq_iff_eq, Option.some.injEq] at h
  rcases h with ((rfl | rfl) | rfl) | rfl <;> cases hc

/-- What starts with a digit is read as a number. -/
theorem readValue_digit {c : Char} (hc : c.isDigit = true) (fuel : Nat) (rest : List Item) :
    readValue {} (fuel + 1) (some c :: rest) = readNumber {} false (some c :: rest) := by
  rw [readValue, skipSpace_cons (isSpace_of_isDigit hc)]
  split
  case h_8 => rfl
  all_goals
    next heq =>
      obtain rfl := Option.some.inj (List.cons.inj heq).1
      cases hc

/-- A numeral writes what it is read as, also after a sign. -/
theorem writes_numeral {n : Numeral} {neg : Bool} {v : Value}
    (h : ∀ {rest : List Item}, Ends rest →
      readNumber {} neg (items n.text ++ rest) = .ok (v, rest)) :
    Writes ((if neg then ['-'] else []) ++ n.text) v := by
  cases neg
  case true => exact writes_cons (by decide) (by decide) fun _ hrest => h hrest
  case false =>
    obtain ⟨c, more, htext, hc⟩ := n.exists_text_cons
    rw [htext] at h ⊢
    refine writes_cons (isSpace_of_isDigit hc) (by rintro rfl; cases hc) fun _ hrest => ?_
    exact (readValue_digit hc _ _).trans (h hrest)

theorem toList_toString (n : Int) :
    (toString n).toList = (if n < 0 then ['-'] else []) ++ Nat.toDigits 10 n.natAbs := by
  rw [Int.toString_eq_repr, Int.repr_eq_if]
  split
  case isTrue h =>
    rw [if_neg (by omega), Nat.toList_repr, show n.toNat = n.natAbs by omega, List.nil_append]
  case isFalse h =>
    rw [if_pos (by omega), String.toList_append, Nat.toList_repr,
      show (-n).toNat = n.natAbs by omega]
    rfl

theorem writes_int (n : Int) : Writes (toString n).toList (.int n) := by
  have hsign : (if decide (n < 0) = true then -(n.natAbs : Int) else n.natAbs) = n := by
    simp only [decide_eq_true_eq]
    split <;> omega
  have hwrites : Writes ((if decide (n < 0) = true then ['-'] else []) ++
      (Numeral.ofNat n.natAbs).text) (.int n) := by
    refine writes_numeral fun hrest => ?_
    rw [readNumber_ofNat n.natAbs _ hrest, hsign]
  rw [toList_toString]
  simpa using hwrites

/-- What is read back of a floating point number: the number nearest to its text, and
null for a number that is not finite. -/
def rereadFloat (x : Double) : Value :=
  match Double.ofText? (floatText x).toList with
  | some y => .float y
  | none => .null

theorem writes_float (x : Double) : Writes (floatText x).toList (rereadFloat x) := by
  rcases hx : x.isFinite with - | -
  case false =>
    have htext : floatText x = "null" := by simp [floatText, hx]
    have hread : rereadFloat x = .null := by rw [rereadFloat, htext]; rfl
    rw [htext, hread]
    exact writes_null
  case true =>
    obtain ⟨neg, n, hn, htext⟩ := exists_numeral_of_isFinite (l := floatLayout) rfl (by decide) hx
    obtain ⟨y, hy⟩ := Option.isSome_iff_exists.mp (n.isSome_ofUnsigned? neg)
    have hfloat : (floatText x).toList = (if neg then ['-'] else []) ++ n.text := by
      rw [floatText, if_pos hx, htext]
    have hread : rereadFloat x = .float y := by
      rw [rereadFloat, hfloat, n.ofText?_text, hy]
    rw [hfloat, hread]
    exact writes_numeral fun hrest => readNumber_float hn hy hrest

/-! ### Texts with commas between them -/

theorem length_intercalate (t u : List Char) (ts : List (List Char)) :
    ([','].intercalate (t :: u :: ts)).length
      = t.length + ([','].intercalate (u :: ts)).length + 1 := by
  rw [List.intercalate_cons_cons, List.length_append, List.length_append, List.length_singleton]
  omega

theorem items_intercalate (t u : List Char) (ts : List (List Char)) (rest : List Item) :
    items ([','].intercalate (t :: u :: ts)) ++ rest
      = items t ++ some ',' :: (items ([','].intercalate (u :: ts)) ++ rest) := by
  rw [List.intercalate_cons_cons, items_append, items_append, List.append_assoc,
    List.append_assoc]
  rfl

theorem exists_intercalate_cons (c : Char) (t : List Char) (ts : List (List Char)) :
    ∃ more, [','].intercalate ((c :: t) :: ts) = c :: more := by
  rcases ts with - | ⟨u, ts⟩
  · exact ⟨t, List.intercalate_singleton ..⟩
  · exact ⟨_, List.intercalate_cons_cons⟩

/-! ### Lists -/

/-- An element is read; then the next element, or the end. -/
theorem readElements_element {t : List Char} {v : Value} (hv : Writes t v) {fuel : Nat}
    (hfuel : t.length ≤ fuel) (found : List Value) {c : Char} (hc : c = ',' ∨ c = ']')
    (rest : List Item) :
    readElements {} (fuel + 1) found (items t ++ some c :: rest) =
      if c = ',' then readElements {} fuel (v :: found) rest else .ok (v :: found, rest) := by
  rw [readElements, hv.read hfuel (ends_cons (hc.imp_right .inl) rest)]
  rcases hc with rfl | rfl <;> rfl

/-- The elements of a list are read one by one, up to its end. -/
theorem readElements_intercalate {t : List Char} {v : Value} {ts : List (List Char)}
    {vs : List Value} (hv : Writes t v) (hvs : List.Forall₂ Writes ts vs) {fuel : Nat}
    (hfuel : ([','].intercalate (t :: ts)).length < fuel) (found : List Value)
    (rest : List Item) :
    readElements {} fuel found (items ([','].intercalate (t :: ts)) ++ some ']' :: rest)
      = .ok ((v :: vs).reverse ++ found, rest) := by
  obtain ⟨fuel, rfl⟩ : ∃ k, fuel = k + 1 := ⟨fuel - 1, by omega⟩
  induction hvs generalizing t v fuel found with
  | nil =>
    rw [List.intercalate_singleton] at hfuel ⊢
    exact readElements_element hv (Nat.le_of_lt_succ hfuel) found (.inr rfl) rest
  | @cons u w ts vs hw hvs ih =>
    rw [length_intercalate] at hfuel
    obtain ⟨fuel, rfl⟩ : ∃ k, fuel = k + 1 := ⟨fuel - 1, by omega⟩
    rw [items_intercalate, readElements_element hv (by omega) found (.inl rfl), if_pos rfl,
      ih hw (v :: found) fuel (by omega)]
    simp

/-- Without limits, lists and mappings may be nested. -/
theorem inner?_unlimited : ({} : Limits).inner? = some {} := rfl

/-- **Texts of elements in brackets write the list** of these elements. -/
theorem writes_list {ts : List (List Char)} {vs : List Value} (h : List.Forall₂ Writes ts vs) :
    Writes ('[' :: ([','].intercalate ts ++ [']'])) (.list vs) := by
  refine writes_cons (by decide) (by decide) fun {fuel rest} hfuel hrest => ?_
  rw [readValue, skipSpace_cons (by decide)]
  simp only [inner?_unlimited]
  cases h with
  | nil => rfl
  | @cons t v ts vs hv hvs =>
    have hread := readElements_intercalate hv hvs
      (by rw [List.length_append] at hfuel; exact hfuel) [] rest
    obtain ⟨c, t, rfl, hspace, hend⟩ := hv.head
    obtain ⟨more, hmore⟩ := exists_intercalate_cons c t ts
    rw [hmore] at hread ⊢
    rw [items_append, List.append_assoc]
    simp only [items_cons, items_nil, List.cons_append, List.nil_append] at hread ⊢
    rw [skipSpace_cons hspace]
    split
    -- an element does not start with the end of the list
    case h_1 heq => exact absurd (Option.some.inj (List.cons.inj heq).1) hend
    case h_2 =>
      rw [hread]
      simp only [List.append_nil, List.reverse_reverse, bind, Except.bind]

/-! ### Mappings -/

/-- The name of an entry is read, and the value after it; then the next entry, or the end. -/
theorem readMembers_entry {t : List Char} {e : Value × Value} (he : WritesEntry t e) {fuel : Nat}
    (hfuel : t.length ≤ fuel) (found : Entries) {c : Char} (hc : c = ',' ∨ c = '\x7d')
    (rest : List Item) :
    readMembers {} (fuel + 1) found (items t ++ some c :: rest) =
      if c = ',' then readMembers {} fuel (found.put e.1 e.2) rest
      else .ok (found.put e.1 e.2, rest) := by
  obtain ⟨name, s, hname, rfl, hs⟩ := he
  have hlength : s.length ≤ fuel := by
    rw [List.length_append, List.length_cons] at hfuel
    omega
  have hread := readString_flatMap name (items (':' :: s) ++ some c :: rest)
  have hvalue := hs.read hlength (ends_cons (hc.imp_right .inr) rest)
  rw [toList_stringText, hname]
  simp only [items_cons, items_append, List.cons_append, List.append_assoc,
    List.nil_append] at hread ⊢
  rw [readMembers, skipSpace_cons (by decide)]
  simp only [hread, bind, Except.bind]
  rw [skipSpace_cons (by decide)]
  simp only [hvalue]
  rcases hc with rfl | rfl <;> rfl

/-- The entries of a mapping are read one by one, up to its end. -/
theorem readMembers_intercalate {t : List Char} {e : Value × Value} {ts : List (List Char)}
    {es : Entries} (he : WritesEntry t e) (hes : List.Forall₂ WritesEntry ts es) {fuel : Nat}
    (hfuel : ([','].intercalate (t :: ts)).length < fuel) (found : Entries) (rest : List Item) :
    readMembers {} fuel found (items ([','].intercalate (t :: ts)) ++ some '\x7d' :: rest)
      = .ok ((e :: es).foldl (fun es p => es.put p.1 p.2) found, rest) := by
  obtain ⟨fuel, rfl⟩ : ∃ k, fuel = k + 1 := ⟨fuel - 1, by omega⟩
  induction hes generalizing t e fuel found with
  | nil =>
    rw [List.intercalate_singleton] at hfuel ⊢
    exact readMembers_entry he (Nat.le_of_lt_succ hfuel) found (.inr rfl) rest
  | @cons u d ts es hd hes ih =>
    rw [length_intercalate] at hfuel
    obtain ⟨fuel, rfl⟩ : ∃ k, fuel = k + 1 := ⟨fuel - 1, by omega⟩
    rw [items_intercalate, readMembers_entry he (by omega) found (.inl rfl), if_pos rfl]
    exact ih hd (found.put e.1 e.2) fuel (by omega)

/-- **Texts of entries in braces write the mapping** that is left of these entries. -/
theorem writes_map {ts : List (List Char)} {es : Entries} (h : List.Forall₂ WritesEntry ts es) :
    Writes ('\x7b' :: ([','].intercalate ts ++ ['\x7d'])) (.map (Entries.ofPairs es)) := by
  refine writes_cons (by decide) (by decide) fun {fuel rest} hfuel hrest => ?_
  rw [readValue, skipSpace_cons (by decide)]
  simp only [inner?_unlimited]
  cases h with
  | nil => rfl
  | @cons t e ts es he hes =>
    have hread := readMembers_intercalate he hes
      (by rw [List.length_append] at hfuel; exact hfuel) [] rest
    obtain ⟨name, s, -, rfl, -⟩ := he
    rw [toList_stringText, List.cons_append] at hread ⊢
    obtain ⟨more, hmore⟩ := exists_intercalate_cons '"' _ ts
    rw [hmore] at hread ⊢
    rw [items_append, List.append_assoc]
    simp only [items_cons, items_nil, List.cons_append, List.nil_append] at hread ⊢
    rw [skipSpace_cons (by decide)]
    split
    -- an entry starts with the quote of its name
    case h_1 heq => exact absurd (Option.some.inj (List.cons.inj heq).1) (by decide)
    case h_2 =>
      rw [hread]
      rfl

/-! ### Documents -/

mutual

/-- What is read back of a document. -/
def reread : Value → Value
  | .float x => rereadFloat x
  | .date d => .text d.text
  | .moment m => .text (momentText m)
  | .bytes bs => .text (bytesText bs)
  | .list xs | .set xs => .list (rereadList xs)
  | .pair a b => .list [reread a, reread b]
  | .map es => .map (Entries.ofPairs (rereadEntries es))
  | .again _ => .null
  | v => v

/-- What is read back of documents. -/
def rereadList : List Value → List Value
  | [] => []
  | x :: xs => reread x :: rereadList xs

/-- What is read back of the entries of a mapping, one by one. -/
def rereadEntries : Entries → Entries
  | [] => []
  | (k, v) :: es => (.text (keyText k), reread v) :: rereadEntries es

end

mutual

/-- **A document is read back.** -/
theorem writes_write : ∀ v : Value, Writes (write v).toList (reread v)
  | .null | .again _ => writes_null
  | .bool b => writes_bool b
  | .int n => writes_int n
  | .float x => writes_float x
  | .text s => writes_text s
  | .date d => writes_text _
  | .moment m => writes_text _
  | .bytes bs => writes_text _
  | .list xs | .set xs => by
    simpa [write, reread] using writes_list (writes_writeList xs)
  | .pair a b => by
    simpa [write, reread] using writes_list (.cons (writes_write a) (.cons (writes_write b) .nil))
  | .map es => by
    simpa [write, reread] using writes_map (writes_writeEntries es)

theorem writes_writeList : ∀ xs : List Value,
    List.Forall₂ Writes ((writeList xs).map String.toList) (rereadList xs)
  | [] => .nil
  | x :: xs => .cons (writes_write x) (writes_writeList xs)

theorem writes_writeEntries : ∀ es : Entries,
    List.Forall₂ WritesEntry ((writeEntries es).map String.toList) (rereadEntries es)
  | [] => .nil
  | (k, v) :: es =>
    .cons ⟨keyText k, _, rfl, by simp, writes_write v⟩ (writes_writeEntries es)

end

/-- **The JSON of a document is valid**, and it reads as the document does that is read
back. -/
theorem readItems_write (v : Value) : readItems {} (items (write v).toList) = .ok (reread v) := by
  have hlength : (write v).toList.length ≤ 2 * (write v).toList.length + 2 := by omega
  have hread := (writes_write v).read hlength ends_nil
  rw [List.append_nil] at hread
  rw [readItems, length_items, hread]
  rfl

end SigmaRules.Json
