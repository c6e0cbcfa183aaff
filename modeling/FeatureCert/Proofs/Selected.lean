import FeatureCert.Proofs.Fields
import FeatureCert.Proofs.Regrouped
import FeatureCert.Proofs.Shelved

/-!
Selection documents, told by what stands in them. The assignments are a table, in which each name has its last
value, or a list of tables with one name each, which are taken in order, repeats included. Nothing else is read
as a selection document.
-/
namespace FeatureCert.Document

open FeatureCert.Selection

/-- A field that may be left out. -/
def FieldOf (entries : List (Value × Value)) (key : String) (Of : Value → α → Prop) (default a : α) : Prop :=
  GivenOr (FirstOf entries (.text key)) Of default a

/-- Assignments of a table: each of its keys is taken as a name, and the last entry of a name counts. -/
def TableOf (v : Value) (pairs : List (String × Value)) : Prop :=
  ∃ entries fields, v.opened = .dict entries ∧
    List.Forall₂ (fun e f => TextOf e.1 f.1 ∧ e.2 = f.2) entries fields ∧ MergeOf [fields] pairs

/-- Assignments of a table, or of the tables of a list, which have one name each. -/
inductive SelectionsOf (v : Value) : SelectionForm × List (String × Value) → Prop where
  | table (h : TableOf v pairs) : SelectionsOf v (.table, pairs)
  | items (hitems : v.opened = .list items ∨ v.opened = .tuple items ∨ v.opened = .set items)
      (h : List.Forall₂ (fun item p => TableOf item [p]) items pairs) : SelectionsOf v (.items, pairs)

/-- The fields of a selection document, and no others. -/
structure SelectionOf (entries : List (Value × Value)) (d : SelectionDocument) : Prop where
  declared : ∀ e ∈ entries, e.1 = .text "selections" ∨ e.1 = .text "catalog_id" ∨ e.1 = .text "description"
  selections : FieldOf entries "selections" SelectionsOf (.table, []) (d.form, d.pairs)
  catalogId : FieldOf entries "catalog_id" OpenTextOf none d.catalogId
  description : FieldOf entries "description" OpenTextOf none d.description

/-- A path has a file whose text is YAML of a selection document. -/
structure SelectionFile (files : Files) (path : String) (d : SelectionDocument) : Prop where
  place : ∀ place, Path.Resolves files.base path place → Files.textFault? place = none
  text : ∃ octets text v entries, files.seek (Path.ofText path).text = .ok (some (.file octets)) ∧
    Files.textOf (.file octets) = .ok text ∧ Yaml.read text = .ok v ∧ v.opened = .dict entries ∧
      SelectionOf entries d

variable {v : Value} {s key : String} {entries : List (Value × Value)} {fields pairs : List (String × Value)}

theorem sameKey_text_iff : Value.sameKey v (.text key) = true ↔ v = .text key := by
  cases v <;> simp [Value.sameKey, Value.asInt?]

theorem lookup?_eq_some_iff_firstOf {w : Value} :
    Value.lookup? (.text key) entries = some w ↔ FirstOf entries (.text key) w :=
  find?_eq_some_iff_firstOf fun _ => sameKey_text_iff

/-- A field is read from its first entry. -/
theorem optional_eq_good_iff_fieldOf {shape : Shape α} {Of : Value → α → Prop} {a default : α}
    (h : ∀ v, shape v = .good a ↔ Of v a) :
    optional entries key default shape = .good a ↔ FieldOf entries key Of default a := by
  rw [optional, FieldOf, givenOr_iff fun _ => lookup?_eq_some_iff_firstOf]
  cases Value.lookup? (.text key) entries with
  | none => simp [eq_comm]
  | some v => simp [Checked.under_eq_good_iff, h]

/-- No key but the declared texts is passed, not even the octets of one. -/
theorem closed_eq_good_iff_declared {known : List String} :
    closed entries known = .good () ↔ ∀ e ∈ entries, ∃ key ∈ known, e.1 = .text key := by
  have hissue (w : Value) : extraIssue? known w = none ↔ ∃ key ∈ known, w = .text key := by
    cases w <;> simp [extraIssue?]
  have hnone : entries.filterMap (fun e => extraIssue? known e.1) = [] ↔
      ∀ e ∈ entries, ∃ key ∈ known, e.1 = .text key := by
    simp only [List.filterMap_eq_nil_iff, hissue]
  rw [← hnone, closed]
  cases entries.filterMap fun e => extraIssue? known e.1 <;> simp

/-! ### Assignments -/

/-- The same as `map_eq_good_iff`, for a map that is not written as that of a functor. -/
theorem Checked.map_good_iff {x : Checked α} {f : α → β} {b : β} :
    x.map f = .good b ↔ ∃ a, x = .good a ∧ f a = b :=
  map_eq_good_iff

/-- Keys are taken as texts one by one, and two of them may be taken as the same text. -/
theorem textKeys_eq_good_iff : textKeys entries = .good fields ↔
    List.Forall₂ (fun e f => TextOf e.1 f.1 ∧ e.2 = f.2) entries fields := by
  rw [textKeys, Checked.all_eq_good_iff]
  refine forall₂_congr_of_mem fun e _ f => ?_
  simp only [Checked.map_good_iff, Checked.under_eq_good_iff, text_eq_good_iff_textOf]
  constructor
  · rintro ⟨_, hname, rfl⟩
    exact ⟨hname, rfl⟩
  · rintro ⟨hname, hitem⟩
    exact ⟨f.1, hname, Prod.ext rfl hitem⟩

/-- A table assigns to each of its names once, at the place of the first entry and with the value of the
last. -/
theorem assignments_eq_good_iff : assignments v = .good pairs ↔ TableOf v pairs := by
  rw [assignments, Checked.map_good_iff, TableOf, table, entries?]
  cases v.opened with
  | dict entries =>
    have hmerge (fields : List (String × Value)) : collect fields = pairs ↔ MergeOf [fields] pairs := by
      rw [← merge_eq_iff, merge, List.flatten_singleton]
    simp [textKeys_eq_good_iff, hmerge]
  | _ => exact iff_of_false (by simp) (by simp)

theorem exists_map_single {tables : List (List (String × Value))} (h : ∀ table ∈ tables, ∃ p, table = [p]) :
    ∃ pairs : List (String × Value), tables = pairs.map fun p => [p] := by
  induction tables with
  | nil => exact ⟨[], rfl⟩
  | cons table rest ih =>
    rw [List.forall_mem_cons] at h
    obtain ⟨⟨p, rfl⟩, hrest⟩ := h
    obtain ⟨pairs, rfl⟩ := ih hrest
    exact ⟨p :: pairs, rfl⟩

/-- Tables with one entry each give these entries in order; any other table among them is an issue. -/
theorem singlePairs_eq_good_iff {tables : List (List (String × Value))} :
    singlePairs tables = .good pairs ↔ tables = pairs.map fun p => [p] := by
  rw [singlePairs]
  split
  · next table position hfind =>
    have hlength := List.find?_some hfind
    have hmem := List.mem_of_find?_eq_some hfind
    refine iff_of_false nofun ?_
    rintro rfl
    obtain ⟨p, _, rfl⟩ := List.mem_map.1 (List.fst_mem_of_mem_zipIdx hmem)
    simp at hlength
  · next hnone =>
    have hone : ∀ table ∈ tables, ∃ p, table = [p] := by
      intro table htable
      obtain ⟨i, hi⟩ := List.mem_iff_getElem?.1 htable
      have h := List.find?_eq_none.1 hnone (table, i) (List.mk_mem_zipIdx_iff_getElem?.2 hi)
      exact List.length_eq_one_iff.1 (by simpa using h)
    obtain ⟨own, rfl⟩ := exists_map_single hone
    have hinjective : Function.Injective fun p : String × Value => [p] := fun _ _ => List.head_eq_of_cons_eq
    rw [Checked.good.injEq, (List.map_injective_iff.2 hinjective).eq_iff, ← List.flatMap_def,
      List.flatMap_singleton']

theorem listOf_assignments_eq_good_iff : listOf assignments v = .good (pairs.map fun p => [p]) ↔
    ∃ items, (v.opened = .list items ∨ v.opened = .tuple items ∨ v.opened = .set items) ∧
      List.Forall₂ (fun item p => TableOf item [p]) items pairs := by
  have hmembers (items : List Value) : Checked.indexed assignments items = .good (pairs.map fun p => [p]) ↔
      List.Forall₂ (fun item p => TableOf item [p]) items pairs := by
    simp only [Checked.indexed_eq_good_iff, assignments_eq_good_iff, List.forall₂_map_right_iff]
  rw [listOf, members?]
  cases v.opened <;> simp [hmembers]

/-- A value that is a table is never read as a list, and a list never as a table. -/
theorem selections_eq_good_iff {found : SelectionForm × List (String × Value)} :
    selections v = .good found ↔ SelectionsOf v found := by
  unfold selections
  cases htable : assignments v with
  | good own =>
    have hown := assignments_eq_good_iff.1 htable
    change Checked.good (SelectionForm.table, own) = .good found ↔ _
    rw [Checked.good.injEq]
    constructor
    · rintro rfl
      exact .table hown
    · intro h
      cases h with
      | table h =>
        rw [assignments_eq_good_iff.2 h, Checked.good.injEq] at htable
        rw [htable]
      | items hitems _ =>
        obtain ⟨entries, _, hdict, _⟩ := hown
        simp [hdict] at hitems
  | bad issues =>
    have hnone (own : List (String × Value)) : ¬ TableOf v own := by
      rw [← assignments_eq_good_iff, htable]
      exact nofun
    have hitems : SelectionsOf v found ↔ ∃ pairs, listOf assignments v = .good (pairs.map fun p => [p]) ∧
        (SelectionForm.items, pairs) = found := by
      simp only [listOf_assignments_eq_good_iff]
      constructor
      · intro h
        cases h with
        | table h => exact absurd h (hnone _)
        | items hitems h => exact ⟨_, ⟨_, hitems, h⟩, rfl⟩
      · rintro ⟨pairs, ⟨items, hitems, h⟩, rfl⟩
        exact .items hitems h
    rw [hitems]
    cases hlist : listOf assignments v with
    | bad more => exact iff_of_false nofun (by simp)
    | good tables =>
      change (singlePairs tables).map (SelectionForm.items, ·) = .good found ↔ _
      simp only [Checked.map_good_iff, singlePairs_eq_good_iff, Checked.good.injEq]

/-- The parts that are checked of a document's table. -/
theorem selectionOf_iff {d : SelectionDocument} : SelectionOf entries d ↔
    (optional entries "selections" (.table, []) selections = .good (d.form, d.pairs) ∧
      optional entries "catalog_id" none (nullable text) = .good d.catalogId ∧
      optional entries "description" none (nullable text) = .good d.description) ∧
    closed entries ["selections", "catalog_id", "description"] = .good () := by
  have hselections : optional entries "selections" (.table, []) selections = .good (d.form, d.pairs) ↔
      FieldOf entries "selections" SelectionsOf (.table, []) (d.form, d.pairs) :=
    optional_eq_good_iff_fieldOf fun _ => selections_eq_good_iff
  have hopen {key : String} {o : Option String} : optional entries key none (nullable text) = .good o ↔
      FieldOf entries key OpenTextOf none o :=
    optional_eq_good_iff_fieldOf fun _ => nullable_text_eq_good_iff_openTextOf
  rw [hselections, hopen, hopen, closed_eq_good_iff_declared]
  constructor
  · exact fun h => ⟨⟨h.selections, h.catalogId, h.description⟩, by simpa using h.declared⟩
  · exact fun ⟨⟨hselections, hid, hdescription⟩, hdeclared⟩ =>
      ⟨by simpa using hdeclared, hselections, hid, hdescription⟩

/-- The documents that a value is read as are those that its fields describe. -/
theorem selectionDocument_eq_good_iff {d : SelectionDocument} :
    selectionDocument v = .good d ↔ ∃ entries, v.opened = .dict entries ∧ SelectionOf entries d := by
  rw [selectionDocument, record, entries?]
  cases v.opened with
  | dict entries =>
    simp only [Value.dict.injEq, exists_eq_left']
    rw [record.wholeKeys]
    split
    · next hbroken =>
      refine iff_of_false Checked.fail_ne_good fun h => ?_
      obtain ⟨⟨key, w⟩, hmem, hkey⟩ := List.any_eq_true.1 hbroken
      rcases h.declared _ hmem with rfl | rfl | rfl <;> cases hkey
    · simp only [selectionOf_iff, Checked.seqLeft_eq_good_iff, Checked.seq_eq_good_iff, Checked.map_eq_good_iff]
      constructor
      · rintro ⟨⟨_, ⟨_, ⟨_, hselections, rfl⟩, _, hid, rfl⟩, _, hdescription, rfl⟩, _, hclosed⟩
        exact ⟨⟨hselections, hid, hdescription⟩, hclosed⟩
      · rintro ⟨⟨hselections, hid, hdescription⟩, hclosed⟩
        exact ⟨⟨_, ⟨_, ⟨_, hselections, rfl⟩, _, hid, rfl⟩, _, hdescription, rfl⟩, _, hclosed⟩
  | _ => exact iff_of_false Checked.fail_ne_good (by simp)

/-- A text is read as a selection document if it is YAML of a table that is one. -/
theorem parse_selectionKind_eq_ok_iff {source text : String} {d : SelectionDocument} :
    selectionKind.parse source text = .ok d ↔
      ∃ v entries, Yaml.read text = .ok v ∧ v.opened = .dict entries ∧ SelectionOf entries d := by
  have hshape (v : Value) : selectionKind.shape v = .good d ↔ _ := selectionDocument_eq_good_iff
  unfold Kind.parse
  split
  · next hread => simp [hread]
  · next hread => simp [hread]
  · next v hread =>
    simp only [hread, Except.ok.injEq, exists_and_left, exists_eq_left', ← hshape]
    split
    · next hnone =>
      refine iff_of_false nofun fun h => ?_
      obtain ⟨entries, hentries, _⟩ := (hshape v).1 h
      simp [entries?, hentries] at hnone
    · cases selectionKind.shape v <;> simp

/-- A file holds a selection document where its YAML does. -/
theorem holds_selectionKind_iff {files : Files} {path : String} {d : SelectionDocument} :
    Holds selectionKind files path d ↔ SelectionFile files path d := by
  have htext (octets : List UInt8) (text : String) :
      (files.seek (Path.ofText path).text = .ok (some (.file octets)) ∧
        Files.textOf (.file octets) = .ok text ∧ selectionKind.parse (Path.ofText path).text text = .ok d) ↔
      ∃ v entries, files.seek (Path.ofText path).text = .ok (some (.file octets)) ∧
        Files.textOf (.file octets) = .ok text ∧ Yaml.read text = .ok v ∧ v.opened = .dict entries ∧
          SelectionOf entries d := by
    simp only [parse_selectionKind_eq_ok_iff, exists_and_left]
  constructor
  · rintro ⟨hplace, octets, text, h⟩
    exact ⟨hplace, octets, text, (htext octets text).1 h⟩
  · rintro ⟨hplace, octets, text, h⟩
    exact ⟨hplace, octets, text, (htext octets text).2 h⟩

end FeatureCert.Document
