import FeatureCert.Proofs.Escaped
import FeatureCert.Proofs.Outcomes

/-!
JSON texts that are read again. What is written on one line for a value is read as that value, with the halves
of pairs in its texts joined; so is it as a part of a longer text, unless that goes on with another digit.
-/
namespace FeatureCert.Json

open FeatureCert.Text FeatureCert.Numeral

mutual

/-- A value with the halves of pairs in its texts joined. -/
def joinTexts : Json → Json
  | .text s => .text (joinHalves s)
  | .list items => .list (joinItems items)
  | .record fields => .record (joinFields fields)
  | .null => .null
  | .bool b => .bool b
  | .int n => .int n

def joinItems : List Json → List Json
  | [] => []
  | item :: rest => joinTexts item :: joinItems rest

def joinFields : List (Points × Json) → List (Points × Json)
  | [] => []
  | (key, item) :: rest => (joinHalves key, joinTexts item) :: joinFields rest

end

variable {c closing : Char} {cs rest written : List Char} {text : String} {n : Int} {fuel : Nat}

/-- A text that does not go on with a digit. -/
def Ends (rest : List Char) : Prop := ∀ c ∈ rest.head?, c.isDigit = false

/-- A part that begins with neither a blank nor a closing bracket. -/
def Begins (written : List Char) : Prop :=
  ∃ c more, written = c :: more ∧ isGap c = false ∧ c ≠ ']' ∧ c ≠ '\x7d'

/-- A reader takes a written part off the front of a longer text. -/
def Takes (part? : List Char → Option (α × List Char)) (written : List Char) (a : α) : Prop :=
  ∀ rest, Ends rest → part? (written ++ rest) = some (a, rest)

theorem skip_of_begins (h : Begins written) (rest : List Char) : skip (written ++ rest) = written ++ rest := by
  obtain ⟨c, more, rfl, hgap, _⟩ := h
  exact List.dropWhile_cons_of_neg (by simp [hgap])

/-! ### Integers -/

/-- Decimal digits within the limit are read as the number that they write. -/
theorem magnitude?_toDigits {n : Nat} (h : n < Nat.pow 10 maxDigits) :
    Takes magnitude? (Nat.toDigits 10 n) n := by
  intro rest hrest
  have hdigits : ∀ c ∈ Nat.toDigits 10 n, c.isDigit = true :=
    fun c hc => Nat.isDigit_of_mem_toDigits (by decide) (by decide) hc
  have hdrop : (Nat.toDigits 10 n ++ rest).dropWhile Char.isDigit = rest :=
    dropWhile_eq_iff.2 ⟨_, rfl, hdigits, hrest⟩
  have htake : (Nat.toDigits 10 n ++ rest).takeWhile Char.isDigit = Nat.toDigits 10 n := by
    have hsplit := (Nat.toDigits 10 n ++ rest).takeWhile_append_dropWhile (p := Char.isDigit)
    rwa [hdrop, List.append_left_inj] at hsplit
  have hzero : (1 < (Nat.toDigits 10 n).length && (Nat.toDigits 10 n).head? == some '0') = false := by
    by_cases hn : n = 0
    · subst hn
      rfl
    · simp [head?_toDigits_ne_zero hn]
  simp only [magnitude?, htake, hdrop, hzero, decimalDigits?_toDigits h]
  simp [ofDigits_toDigits]

/-- The first character of the decimal text of an integer. -/
theorem exists_toString_cons (n : Int) :
    ∃ c more, (toString n).toList = c :: more ∧ (c.isDigit = true ∨ c = '-') := by
  match htext : (toString n).toList with
  | [] =>
    rw [toList_toString] at htext
    exact absurd (List.append_eq_nil_iff.1 htext).2 Nat.toDigits_ne_nil
  | c :: more => exact ⟨c, more, rfl, digit_or_minus_of_mem (htext ▸ List.mem_cons_self)⟩

theorem integer?_of_digit (h : c.isDigit = true) :
    integer? (c :: rest) = (magnitude? (c :: rest)).map fun (n, rest) => ((n : Int), rest) := by
  rw [integer?]
  rintro _ ⟨⟩
  cases h

/-- An integer is read off the front of any text that does not go on with a digit. -/
theorem integer?_toString (h : Writable n) : Takes integer? (toString n).toList n := by
  intro rest hrest
  have htakes := magnitude?_toDigits h rest hrest
  rw [toList_toString]
  by_cases hn : n < 0
  · rw [if_pos hn, List.singleton_append, List.cons_append, integer?, htakes]
    simp only [Option.map_some, Option.some.injEq, Prod.mk.injEq, and_true]
    omega
  · have hdigits : ∀ c ∈ Nat.toDigits 10 n.natAbs, c.isDigit = true :=
      fun c hc => Nat.isDigit_of_mem_toDigits (by decide) (by decide) hc
    obtain ⟨c, more, hdigit⟩ := List.exists_cons_of_ne_nil (Nat.toDigits_ne_nil (b := 10) (n := n.natAbs))
    rw [hdigit] at htakes hdigits
    rw [if_neg hn, List.nil_append, hdigit, List.cons_append,
      integer?_of_digit (hdigits c List.mem_cons_self), ← List.cons_append, htakes]
    simp only [Option.map_some, Option.some.injEq, Prod.mk.injEq, and_true]
    omega

/-- The text of an integer begins with a digit or a minus, and so with no blank and no bracket. -/
theorem begins_toString (n : Int) : Begins (toString n).toList := by
  obtain ⟨c, more, htext, hc⟩ := exists_toString_cons n
  refine ⟨c, more, htext, ?_⟩
  rcases hc with hc | rfl
  · have hbounds := isDigit_iff.1 hc
    refine ⟨?_, ?_, ?_⟩
    · simp only [isGap, Bool.or_eq_false_iff, beq_eq_false_iff_ne]
      refine ⟨⟨⟨?_, ?_⟩, ?_⟩, ?_⟩ <;> rintro rfl <;> cases hc
    · rintro rfl
      cases hc
    · rintro rfl
      cases hc
  · decide

theorem value?_of_digit (h : c.isDigit = true ∨ c = '-') :
    value? (fuel + 1) (c :: rest) = (integer? (c :: rest)).map fun (n, rest) => (.int n, rest) := by
  rw [value?]
  all_goals
    rintro _ ⟨⟩
    revert h
    decide

theorem value?_int (h : Writable n) : Takes (value? (fuel + 1)) (toString n).toList (.int n) := by
  intro rest hrest
  have htakes := integer?_toString h rest hrest
  obtain ⟨c, more, htext, hc⟩ := exists_toString_cons n
  rw [htext, List.cons_append] at htakes ⊢
  rw [value?_of_digit hc, htakes]
  rfl

/-! ### Parts -/

variable {part? : Nat → List Char → Option (α × List Char)} {items : List α} {parts : List String} {bound : Nat}

theorem parts?_skip (part? : List Char → Option (α × List Char)) (cs : List Char) :
    parts? part? closing fuel (' ' :: cs) = parts? part? closing fuel cs := by
  cases fuel <;> rfl

/-- Parts that begin as parts do, and that are read with enough fuel for their length. -/
def Readable (part? : Nat → List Char → Option (α × List Char)) (a : α) (part : String) : Prop :=
  Begins part.toList ∧ ∀ fuel, part.toList.length ≤ fuel → Takes (part? fuel) part.toList a

theorem parts?_last {a : α} {part : String} (hclosing : closing = ']' ∨ closing = '\x7d')
    (h : Readable part? a part) (hbound : part.toList.length ≤ bound) (rest : List Char) :
    parts? (part? bound) closing (fuel + 1) (part.toList ++ closing :: rest) = some ([a], rest) := by
  rcases hclosing with rfl | rfl
  · have hread := h.2 bound hbound (']' :: rest) (by simp [Ends])
    rw [parts?, skip_of_begins h.1, hread]
    rfl
  · have hread := h.2 bound hbound ('\x7d' :: rest) (by simp [Ends])
    rw [parts?, skip_of_begins h.1, hread]
    rfl

theorem parts?_next {a : α} {part : String} (h : Readable part? a part)
    (hbound : part.toList.length ≤ bound) (hmore : parts? (part? bound) closing fuel cs = some (items, rest)) :
    parts? (part? bound) closing (fuel + 1) (part.toList ++ ',' :: ' ' :: cs) = some (a :: items, rest) := by
  have hread := h.2 bound hbound (',' :: ' ' :: cs) (by simp [Ends])
  have hskip : skip (',' :: ' ' :: cs) = ',' :: ' ' :: cs := rfl
  rw [parts?, skip_of_begins h.1, hread]
  simp [hskip, parts?_skip, hmore]

/-- The parts between commas are read one by one, each with as much fuel as the whole has characters. -/
theorem parts?_intercalate (hclosing : closing = ']' ∨ closing = '\x7d') (hparts : parts ≠ [])
    (h : List.Forall₂ (Readable part?) items parts) (hbound : (", ".intercalate parts).toList.length ≤ bound)
    (hfuel : (", ".intercalate parts).toList.length ≤ fuel) (rest : List Char) :
    parts? (part? bound) closing fuel ((", ".intercalate parts).toList ++ closing :: rest) =
      some (items, rest) := by
  -- The fuel may be anything from the length on: a part takes one step, and the comma behind it alone makes up
  -- for that. The bound is that of all parts and stays.
  induction h generalizing fuel with
  | nil => exact absurd rfl hparts
  | @cons a part items parts hpart hrest ih =>
    obtain ⟨first, more, hfirst, _⟩ := id hpart.1
    cases hrest with
    | nil =>
      rw [String.intercalate_singleton] at hbound hfuel ⊢
      obtain ⟨fuel, rfl⟩ := Nat.exists_eq_add_one_of_ne_zero (n := fuel) (by rintro rfl; simp [hfirst] at hfuel)
      exact parts?_last hclosing hpart hbound rest
    | @cons b next items last hnext hlast =>
      rw [String.intercalate_cons_cons] at hbound hfuel ⊢
      simp only [String.toList_append, List.length_append, List.append_assoc] at hbound hfuel ⊢
      have hcomma : ", ".toList.length = 2 := rfl
      obtain ⟨fuel, rfl⟩ := Nat.exists_eq_add_one_of_ne_zero (n := fuel) (by omega)
      exact parts?_next hpart (by omega) (ih (List.cons_ne_nil _ _) (by omega) (by omega))

theorem begins_intercalate {part : String} (h : Begins part.toList) (parts : List String) :
    Begins (", ".intercalate (part :: parts)).toList := by
  obtain ⟨c, more, hfirst, hc⟩ := h
  cases parts with
  | nil => exact ⟨c, more, by rw [String.intercalate_singleton, hfirst], hc⟩
  | cons next last =>
    refine ⟨c, more ++ (", ".toList ++ (", ".intercalate (next :: last)).toList), ?_, hc⟩
    rw [String.intercalate_cons_cons, String.toList_append, String.toList_append, hfirst, List.append_assoc,
      List.cons_append]

/-- A bracket may close at once, or behind parts. -/
theorem enclosed?_intercalate (hclosing : closing = ']' ∨ closing = '\x7d')
    (h : List.Forall₂ (Readable part?) items parts) (hfuel : (", ".intercalate parts).toList.length ≤ fuel)
    (rest : List Char) :
    enclosed? (part? fuel) closing fuel ((", ".intercalate parts).toList ++ closing :: rest) =
      some (items, rest) := by
  cases h with
  | nil => rcases hclosing with rfl | rfl <;> rfl
  | @cons a part items parts hpart hrest =>
    have hread := parts?_intercalate hclosing (by simp) (.cons hpart hrest) hfuel hfuel rest
    have hbegins := begins_intercalate hpart.1 parts
    have hskip := skip_of_begins hbegins (closing :: rest)
    obtain ⟨first, more, hfirst, _, hlist, hrecord⟩ := hbegins
    have hfirst' : (first == closing) = false := by
      rcases hclosing with rfl | rfl <;> simp [hlist, hrecord]
    rw [hfirst, List.cons_append] at hread hskip ⊢
    simp only [enclosed?, hskip, hread, hfirst', Bool.false_eq_true, if_false]

/-! ### Values -/

/-- Parts in brackets, where a bracket makes the reader of values read parts. -/
theorem readable_enclosed (opening : Char) {wrap : List α → Json}
    (hopening : isGap opening = false ∧ opening ≠ ']' ∧ opening ≠ '\x7d')
    (hclosing : closing = ']' ∨ closing = '\x7d')
    (hvalue : ∀ fuel cs, value? (fuel + 1) (opening :: cs) =
      (enclosed? (part? fuel) closing fuel cs).map fun (items, rest) => (wrap items, rest))
    (h : List.Forall₂ (Readable part?) items parts)
    (htext : text.toList = opening :: ((", ".intercalate parts).toList ++ [closing])) :
    Readable value? (wrap items) text := by
  refine ⟨⟨opening, _, htext, hopening⟩, fun fuel hfuel rest _ => ?_⟩
  rw [htext, List.length_cons, List.length_append] at hfuel
  cases fuel with
  | zero => omega
  | succ fuel =>
    have hread := enclosed?_intercalate hclosing h (show _ ≤ fuel by omega) rest
    rw [htext, List.cons_append, List.append_assoc, List.singleton_append, hvalue, hread]
    rfl

theorem begins_quote (s : Points) (more : List Char) : Begins ((quote s).toList ++ more) :=
  ⟨'"', s.flatMap escapePoint ++ '"' :: more, by simp [quote], by decide⟩

theorem takes_quote (s : Points) : Takes (value? (fuel + 1)) (quote s).toList (.text (joinHalves s)) := by
  intro rest _
  obtain ⟨more, hquote, htext⟩ := text?_quote s rest
  rw [hquote, value?, htext]
  rfl

/-- A field is read with the halves of pairs in its key joined. -/
theorem readable_field {item : Json} {part : String} (key : Points) (h : Readable value? item part) :
    Readable (fun fuel => field? (value? fuel)) (joinHalves key, item) (quote key ++ ": " ++ part) := by
  refine ⟨by simpa [String.toList_append] using begins_quote key _, fun fuel hfuel rest hrest => ?_⟩
  simp only [String.toList_append, List.length_append] at hfuel
  have hvalue := h.2 fuel (by omega) rest hrest
  have hskip := skip_of_begins h.1 rest
  obtain ⟨more, hquote, htext⟩ := text?_quote key (": ".toList ++ (part.toList ++ rest))
  have hcolon : skip (": ".toList ++ (part.toList ++ rest)) = ':' :: ' ' :: (part.toList ++ rest) := rfl
  have hblank : skip (' ' :: (part.toList ++ rest)) = part.toList ++ rest := hskip
  simp only [String.toList_append, List.append_assoc, hquote, field?, htext, Option.bind_eq_bind,
    Option.bind_some, hcolon, hblank, hvalue]
  rfl

/-- Fuel for a value is fuel for one step at least. -/
theorem readable_of_succ {a : Json} (hbegins : Begins text.toList)
    (h : ∀ fuel, Takes (value? (fuel + 1)) text.toList a) : Readable value? a text := by
  refine ⟨hbegins, fun fuel hfuel => ?_⟩
  obtain ⟨c, more, hfirst, _⟩ := hbegins
  cases fuel with
  | zero => simp [hfirst] at hfuel
  | succ fuel => exact h fuel

mutual

/-- Every written value is read back, with the halves of pairs in its texts joined; the induction goes over
values, lists and tables together. -/
theorem readable_compact {j : Json} {text : String} (h : compact j = .ok text) :
    Readable value? j.joinTexts text := by
  cases j with
  | null =>
    cases h
    exact readable_of_succ ⟨_, _, rfl, by decide⟩ fun _ _ _ => rfl
  | bool b =>
    cases h
    cases b
    · exact readable_of_succ ⟨_, _, rfl, by decide⟩ fun _ _ _ => rfl
    · exact readable_of_succ ⟨_, _, rfl, by decide⟩ fun _ _ _ => rfl
  | int n =>
    rw [compact, decimal] at h
    split at h
    · next hn =>
      cases h
      exact readable_of_succ (begins_toString n) fun _ => value?_int hn
    · cases h
  | text s =>
    cases h
    exact readable_of_succ (by simpa using begins_quote s []) fun _ => takes_quote s
  | list items =>
    simp only [compact, bind_eq_ok_iff] at h
    obtain ⟨parts, hparts, h⟩ := h
    cases h
    exact readable_enclosed '[' (by decide) (.inl rfl) (fun _ _ => rfl) (readable_compactItems hparts) (by simp)
  | record fields =>
    simp only [compact, bind_eq_ok_iff] at h
    obtain ⟨parts, hparts, h⟩ := h
    cases h
    exact readable_enclosed '\x7b' (by decide) (.inr rfl) (fun _ _ => rfl) (readable_compactFields hparts)
      (by simp)

theorem readable_compactItems {items : List Json} {parts : List String} (h : compactItems items = .ok parts) :
    List.Forall₂ (Readable value?) (joinItems items) parts := by
  match items with
  | [] =>
    cases h
    exact .nil
  | item :: rest =>
    simp only [compactItems, bind_eq_ok_iff] at h
    obtain ⟨part, hpart, parts, hparts, h⟩ := h
    cases h
    exact .cons (readable_compact hpart) (readable_compactItems hparts)

theorem readable_compactFields {fields : List (Points × Json)} {parts : List String}
    (h : compactFields fields = .ok parts) :
    List.Forall₂ (Readable fun fuel => field? (value? fuel)) (joinFields fields) parts := by
  match fields with
  | [] =>
    cases h
    exact .nil
  | (key, item) :: rest =>
    simp only [compactFields, bind_eq_ok_iff] at h
    obtain ⟨part, hpart, parts, hparts, h⟩ := h
    cases h
    exact .cons (readable_field key (readable_compact hpart)) (readable_compactFields hparts)

end

/-- A text on one line is read as the value that it was written for, halves joined. -/
theorem read?_compact {j : Json} (h : compact j = .ok text) : read? text = some j.joinTexts := by
  obtain ⟨hbegins, htakes⟩ := readable_compact h
  have hskip := skip_of_begins hbegins []
  have hread := htakes text.toList.length (Nat.le_refl _) [] (by simp [Ends])
  rw [List.append_nil] at hskip hread
  simp only [read?, hskip, hread]
  rfl

end FeatureCert.Json
