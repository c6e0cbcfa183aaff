import FeatureCert.Document.Report
import FeatureCert.Proofs.Transcribed
import FeatureCert.Report.Record

/-!
Violations that are read again. The fields that are reported of a violation are read as that violation, and a
table that is read as one without a conversion has exactly these fields, but for those left out, which are
null.
-/
namespace FeatureCert

open FeatureCert.Text

namespace Json

mutual

/-- The value of a JSON text, as a document holds it. -/
def value : Json → Value
  | .null => .null
  | .bool b => .bool b
  | .int n => .int n
  | .text s => .text s.text
  | .list items => .list (valueItems items)
  | .record fields => .dict (Document.entriesOf (valueFields fields))

def valueItems : List Json → List Value
  | [] => []
  | item :: rest => value item :: valueItems rest

def valueFields : List (Points × Json) → List (String × Value)
  | [] => []
  | (key, item) :: rest => (key.text, value item) :: valueFields rest

end

@[simp] theorem value_texts (items : List String) : (texts items).value = .list (items.map .text) := by
  rw [texts, value, Value.list.injEq]
  induction items with
  | nil => rfl
  | cons s rest ih => rw [List.map_cons, valueItems, ih, value, Points.text_ofString, List.map_cons]

@[simp] theorem value_ofText? (note : Option String) : (ofText? note).value = Document.openText note := by
  cases note with
  | none => rfl
  | some s => exact congrArg Value.text (Points.text_ofString s)

end Json

theorem ViolationKind.ofName?_eq_some_iff {k : ViolationKind} {s : String} :
    ofName? s = some k ↔ s = k.name :=
  find?_name_eq_some_iff (ofName?_name k)

def Violation.dump (v : Violation) : List (String × Value) := Json.valueFields v.fields

def Problem.dump : Problem → List (String × Value)
  | .unknownCapability => []
  | .invalidValue value expected => [("value", .text value), ("expected", .text expected)]
  | .missingDependency target note => [("target", .text target), ("note", Document.openText note)]
  | .unsatisfiedAny targets note =>
    [("targets", .list (targets.map .text)), ("note", Document.openText note)]
  | .conflictingExclusion target note => [("target", .text target), ("note", Document.openText note)]
  | .outOfRangeParameter value minimum maximum note =>
    [("value", .int value), ("minimum", .int minimum), ("maximum", .int maximum),
      ("note", Document.openText note)]

theorem Violation.dump_eq (v : Violation) :
    v.dump = ("subject", .text v.subject) :: ("kind", .text v.kind.name) :: v.problem.dump := by
  obtain ⟨subject, problem⟩ := v
  cases problem <;> simp [dump, fields, Json.valueFields, Json.value, Problem.dump]

namespace Document

def problemForm : ViolationKind → Form
  | .unknownCapability => []
  | .invalidValue => [("value", .text), ("expected", .text)]
  | .missingDependency => [("target", .text), ("note", .openText)]
  | .unsatisfiedAny => [("targets", .texts), ("note", .openText)]
  | .conflictingExclusion => [("target", .text), ("note", .openText)]
  | .outOfRangeParameter =>
    [("value", .number), ("minimum", .number), ("maximum", .number), ("note", .openText)]

/-- The fields that are declared for a violation of a kind. -/
def violationForm (kind : ViolationKind) : Form :=
  [("subject", .text), ("kind", .text)] ++ problemForm kind

/-- Fields that may be left out, with their defaults. -/
def defaultsOf (form : Form) : List (String × Value) :=
  form.filterMap fun (key, kind) =>
    match kind with
    | .openText => some (key, openText none)
    | _ => none

/-- The defaults of the fields that a table leaves out. -/
def leftOut (form : Form) (fields : List (String × Value)) : List (String × Value) :=
  (defaultsOf form).filter fun f => f.1 ∉ fields.map (·.1)

/-- Declared fields have values that are taken as they stand. -/
def AsItStands (form : Form) (fields : List (String × Value)) : Prop :=
  ∀ f ∈ fields, ∀ kind, (f.1, kind) ∈ form → kind.Takes f.2

section Reading

variable {fields : List (String × Value)} {key : String} {v : Violation} {p : Problem} {kind : ViolationKind}

/-- A field is in a table, or it is the note and left out as null. -/
def Stands (fields : List (String × Value)) (f : String × Value) : Prop :=
  f ∈ fields ∨ (∀ w, ("note", w) ∉ fields) ∧ f = ("note", openText none)

theorem keys_violationForm (kind : ViolationKind) :
    (violationForm kind).map (·.1) = violationFields kind := by
  cases kind <;> rfl

theorem openText_eq_none_iff {o : Option String} : openText o = openText none ↔ o = none := by
  cases o <;> simp [openText]

theorem given_note_iff {note : Option String} :
    Given fields "note" openText none note ↔ Stands fields ("note", openText note) := by
  simp only [Given, Stands, Prod.mk.injEq, true_and, openText_eq_none_iff]

theorem stands_iff_mem {w : Value} (hkey : key ≠ "note") :
    Stands fields (key, w) ↔ (key, w) ∈ fields := by
  simp [Stands, hkey]

/-- A field whose shape takes one value alone is there with that value. -/
theorem required_iff_raw_mem {shape : Shape α} {raw : Value} {a : α} (h : Plain (.dict (entriesOf fields)))
    (hshape : ∀ w, (key, w) ∈ fields → (shape w = .good a ↔ w = raw)) :
    required (entriesOf fields) key shape = .good a ↔ (key, raw) ∈ fields := by
  rw [required_eq_good_iff h]
  constructor
  · rintro ⟨w, hw, hgood⟩
    rwa [(hshape w hw).1 hgood] at hw
  · exact fun hmem => ⟨raw, hmem, (hshape raw hmem).2 rfl⟩

theorem text_iff_mem {s : String} (h : Plain (.dict (entriesOf fields))) :
    required (entriesOf fields) key text = .good s ↔ (key, .text s) ∈ fields :=
  required_iff_raw_mem h fun _ hw => text_eq_good_iff (h.of_mem hw)

theorem sequenceOf_text_eq_good_iff {texts : List String} {w : Value} (h : Plain w) :
    sequenceOf text w = .good texts ↔ w = .list (texts.map .text) := by
  cases h with
  | list hitems =>
    have hindexed := Checked.indexed_eq_good_iff.trans (@forall₂_text_iff _ texts hitems)
    simpa [sequenceOf, members?, Value.opened] using hindexed
  | _ => simp [sequenceOf, members?, Value.opened]

theorem texts_iff_mem {texts : List String} (h : Plain (.dict (entriesOf fields))) :
    required (entriesOf fields) key (sequenceOf text) = .good texts ↔
      (key, .list (texts.map .text)) ∈ fields :=
  required_iff_raw_mem h fun _ hw => sequenceOf_text_eq_good_iff (h.of_mem hw)

/-- A number that stands as it is needs no conversion. -/
theorem lenient_iff_mem {form : Form} {n : Int} (h : Plain (.dict (entriesOf fields)))
    (hkept : AsItStands form fields) (hkey : (key, .number) ∈ form) :
    required (entriesOf fields) key lenientInt = .good n ↔ (key, .int n) ∈ fields := by
  refine required_iff_raw_mem h fun w hw => ?_
  obtain ⟨m, rfl⟩ := hkept _ hw _ hkey
  simp [lenientInt]

theorem note_iff_stands {note : Option String} (h : Plain (.dict (entriesOf fields))) :
    optional (entriesOf fields) "note" none (nullable text) = .good note ↔
      Stands fields ("note", openText note) :=
  (optional_iff_given h fun _ hw => nullable_text_eq_good_iff hw).trans given_note_iff

/-- The fields of a kind give the problem whose fields they are. -/
theorem problem_eq_good_iff (h : Plain (.dict (entriesOf fields)))
    (hkept : AsItStands (violationForm kind) fields) :
    problem (entriesOf fields) kind = .good p ↔ p.kind = kind ∧ ∀ f ∈ p.dump, Stands fields f := by
  cases kind with
  | unknownCapability => cases p <;> simp [problem, Problem.kind, Problem.dump]
  | invalidValue =>
    simp only [problem, Checked.seq_eq_good_iff, Checked.exists_map_good, text_iff_mem h]
    cases p <;> simp [Problem.kind, Problem.dump, stands_iff_mem]
  | missingDependency =>
    simp only [problem, Checked.seq_eq_good_iff, Checked.exists_map_good, text_iff_mem h, note_iff_stands h]
    cases p <;> simp [Problem.kind, Problem.dump, stands_iff_mem]
  | unsatisfiedAny =>
    simp only [problem, Checked.seq_eq_good_iff, Checked.exists_map_good, texts_iff_mem h, note_iff_stands h]
    cases p <;> simp [Problem.kind, Problem.dump, stands_iff_mem]
  | conflictingExclusion =>
    simp only [problem, Checked.seq_eq_good_iff, Checked.exists_map_good, text_iff_mem h, note_iff_stands h]
    cases p <;> simp [Problem.kind, Problem.dump, stands_iff_mem]
  | outOfRangeParameter =>
    have hnumber (key : String) (hkey : (key, .number) ∈ violationForm .outOfRangeParameter) (n : Int) :
        required (entriesOf fields) key lenientInt = .good n ↔ _ := lenient_iff_mem h hkept hkey
    simp only [problem, Checked.seq_eq_good_iff, Checked.exists_map_good,
      hnumber "value" (by simp [violationForm, problemForm]),
      hnumber "minimum" (by simp [violationForm, problemForm]),
      hnumber "maximum" (by simp [violationForm, problemForm]), note_iff_stands h]
    cases p <;> simp [Problem.kind, Problem.dump, stands_iff_mem, and_assoc]

theorem kind_of_problem {e : List (Value × Value)} (h : problem e kind = .good p) : p.kind = kind := by
  cases kind with
  | unknownCapability =>
    cases h
    rfl
  | outOfRangeParameter =>
    simp only [problem, Checked.seq_eq_good_iff, Checked.exists_map_good] at h
    obtain ⟨_, ⟨_, ⟨_, _, _, _, rfl⟩, _, _, rfl⟩, _, _, rfl⟩ := h
    rfl
  | _ =>
    simp only [problem, Checked.seq_eq_good_iff, Checked.exists_map_good] at h
    obtain ⟨_, _, _, _, rfl⟩ := h
    rfl

/-- A table is read as a violation if it holds what this one dumps, up to a hint that is left out. -/
theorem violation_eq_good_iff (h : Plain (.dict (entriesOf fields)))
    (hkept : AsItStands (violationForm v.kind) fields) :
    violation (.dict (entriesOf fields)) = .good v ↔
      (∀ f ∈ v.dump, Stands fields f) ∧ ∀ f ∈ fields, f.1 ∈ violationFields v.kind := by
  rw [violation, tagged_entriesOf h, Violation.dump_eq]
  have hsubject : "subject" ≠ "note" := by decide
  have hkind : "kind" ≠ "note" := by decide
  simp only [List.forall_mem_cons, stands_iff_mem hsubject, stands_iff_mem hkind, text_iff_mem h,
    Checked.seqLeft_eq_good_iff, Checked.seq_eq_good_iff, Checked.exists_map_good,
    ViolationKind.ofName?_eq_some_iff]
  constructor
  · rintro ⟨_, kind, htag, _, rfl, _, ⟨subject, hsubject, p, hp, rfl⟩, _, hclosed⟩
    cases kind_of_problem hp
    exact ⟨⟨hsubject, htag, ((problem_eq_good_iff h hkept).1 hp).2⟩, closed_eq_good_iff.1 hclosed⟩
  · rintro ⟨⟨hsubject, htag, hproblem⟩, hdeclared⟩
    have hp := (problem_eq_good_iff h hkept).2 ⟨rfl, hproblem⟩
    exact ⟨_, v.kind, htag, by cases v.kind <;> decide, rfl,
      hasHalf_of_known (by cases v.kind <;> decide) hdeclared, ⟨v.subject, hsubject, v.problem, hp, rfl⟩,
      (), closed_eq_good_iff.2 hdeclared⟩

theorem defaultsOf_violationForm (kind : ViolationKind) :
    defaultsOf (violationForm kind) =
      if "note" ∈ violationFields kind then [("note", openText none)] else [] := by
  cases kind <;> simp [defaultsOf, violationForm, problemForm, violationFields]

/-- The hint is the only field that may be left out. -/
theorem mem_leftOut_iff {f : String × Value} : f ∈ leftOut (violationForm kind) fields ↔
    "note" ∈ violationFields kind ∧ (∀ w, ("note", w) ∉ fields) ∧ f = ("note", openText none) := by
  rw [leftOut, List.mem_filter, defaultsOf_violationForm]
  split
  · next hnote =>
    simp only [List.mem_singleton, decide_eq_true_eq, hnote, true_and]
    constructor
    · rintro ⟨rfl, hnone⟩
      exact ⟨fun w hw => hnone (List.mem_map_of_mem (f := (·.1)) hw), rfl⟩
    · rintro ⟨hnone, rfl⟩
      refine ⟨rfl, fun hmem => ?_⟩
      obtain ⟨⟨_, w⟩, hw, rfl⟩ := List.mem_map.1 hmem
      exact hnone w hw
  · next hnote => simp [hnote]

theorem keys_dump (v : Violation) : v.dump.map (·.1) = violationFields v.kind := by
  obtain ⟨subject, problem⟩ := v
  rw [Violation.dump_eq]
  cases problem <;> rfl

theorem nodup_violationFields (kind : ViolationKind) : (violationFields kind).Nodup := by
  cases kind <;> decide

theorem nodup_leftOut (h : (fields.map (·.1)).Nodup) (kind : ViolationKind) :
    (fields ++ leftOut (violationForm kind) fields).Nodup := by
  have hdefaults : (defaultsOf (violationForm kind)).Nodup := by
    rw [defaultsOf_violationForm]
    split <;> simp
  refine List.nodup_append.2 ⟨h.of_map, hdefaults.filter _, ?_⟩
  rintro f hf _ hout rfl
  obtain ⟨_, hnone, rfl⟩ := mem_leftOut_iff.1 hout
  exact hnone _ hf

/-- The fields of a violation stand in a table, and no others, exactly if they are the fields of the table
and the defaults of those left out. -/
theorem stands_iff_perm (h : Plain (.dict (entriesOf fields))) :
    ((∀ f ∈ v.dump, Stands fields f) ∧ ∀ f ∈ fields, f.1 ∈ violationFields v.kind) ↔
      v.dump.Perm (fields ++ leftOut (violationForm v.kind) fields) := by
  have hdump : v.dump.Nodup := (keys_dump v ▸ nodup_violationFields v.kind).of_map
  constructor
  · rintro ⟨hstands, hdeclared⟩
    rw [List.perm_ext_iff_of_nodup hdump (nodup_leftOut h.nodup v.kind)]
    have hfield {key : String} (hkey : key ∈ violationFields v.kind) : ∃ w, (key, w) ∈ v.dump := by
      rw [← keys_dump] at hkey
      obtain ⟨⟨_, w⟩, hw, rfl⟩ := List.mem_map.1 hkey
      exact ⟨w, hw⟩
    rintro ⟨key, w⟩
    rw [List.mem_append, mem_leftOut_iff]
    constructor
    · intro hmem
      refine (hstands _ hmem).imp_right fun ⟨hnone, hnote⟩ => ⟨?_, hnone, hnote⟩
      cases hnote
      rw [← keys_dump]
      exact List.mem_map_of_mem (f := (·.1)) hmem
    · rintro (hmem | ⟨hnote, hnone, he⟩)
      · obtain ⟨raw, hraw⟩ := hfield (hdeclared _ hmem)
        rcases hstands _ hraw with hraw' | ⟨hnone, hnote⟩
        · rwa [h.eq_of_mem hmem hraw']
        · cases hnote
          exact absurd hmem (hnone w)
      · cases he
        obtain ⟨raw, hraw⟩ := hfield hnote
        rcases hstands _ hraw with hraw' | ⟨_, hsame⟩
        · exact absurd hraw' (hnone raw)
        · rwa [← hsame]
  · intro hperm
    refine ⟨fun f hf => ?_, fun f hf => ?_⟩
    · exact (List.mem_append.1 (hperm.mem_iff.1 hf)).imp_right fun hout => (mem_leftOut_iff.1 hout).2
    · rw [← keys_dump]
      exact List.mem_map_of_mem (hperm.mem_iff.2 (List.mem_append_left _ hf))

theorem plain_openText (o : Option String) : Plain (openText o) := by
  cases o with
  | none => exact .null
  | some s => exact .text s

theorem plain_texts (texts : List String) : Plain (.list (texts.map .text)) :=
  .list (by simp [Plain.text])

theorem plain_dump (v : Violation) : Plain (.dict (entriesOf v.dump)) := by
  refine .table (keys_dump v ▸ nodup_violationFields v.kind) ?_
  rw [Violation.dump_eq]
  cases v.problem <;> simp [Problem.dump, Plain.text, Plain.int, plain_openText, plain_texts]

/-- A dump holds every field in the form that is taken as it stands. -/
theorem asItStands_dump (v : Violation) : AsItStands (violationForm v.kind) v.dump := by
  have htext (s : String) : FieldKind.text.Takes (.text s) := ⟨s, rfl⟩
  have hnumber (n : Int) : FieldKind.number.Takes (.int n) := ⟨n, rfl⟩
  have hopen (o : Option String) : FieldKind.openText.Takes (openText o) := ⟨o, rfl⟩
  have htexts (texts : List String) : FieldKind.texts.Takes (.list (texts.map .text)) := ⟨texts, rfl⟩
  obtain ⟨subject, problem⟩ := v
  rw [AsItStands, Violation.dump_eq]
  cases problem <;> simp [Problem.dump, Violation.kind, Problem.kind, violationForm, problemForm, htext,
    hnumber, hopen, htexts]

/-- What is reported of a violation, as one value. -/
theorem violation_dump (v : Violation) : violation (Json.record v.fields).value = .good v := by
  rw [Json.value, ← Violation.dump]
  refine (violation_eq_good_iff (plain_dump v) (asItStands_dump v)).2 ⟨fun f => .inl, ?_⟩
  intro f hf
  rw [← keys_dump]
  exact List.mem_map_of_mem hf

/-- Every violation is read again from what is reported of it; and a table of JSON values in which no
declared field needs a conversion is read as a violation exactly if what is reported of this one are the
fields of the table and the defaults of those it leaves out. -/
theorem violation_rereads :
    (∀ v : Violation, violation (Json.record v.fields).value = .good v) ∧
      ∀ (fields : List (String × Value)) (v : Violation), Plain (.dict (entriesOf fields)) →
        AsItStands (violationForm v.kind) fields →
          (violation (.dict (entriesOf fields)) = .good v ↔
            v.dump.Perm (fields ++ leftOut (violationForm v.kind) fields)) :=
  ⟨violation_dump, fun _ _ h hkept => (violation_eq_good_iff h hkept).trans (stands_iff_perm h)⟩

/-- A table whose fields stand in another order, and which has no note. -/
theorem violation_rereads_of_reordered :
    let fields : List (String × Value) := [("kind", .text "out_of_range_parameter"), ("maximum", .int 14),
      ("minimum", .int 8), ("value", .int (-3)), ("subject", .text "ROUNDS")]
    let v : Violation := ⟨"ROUNDS", .outOfRangeParameter (-3) 8 14 none⟩
    Plain (.dict (entriesOf fields)) ∧ AsItStands (violationForm v.kind) fields ∧
      violation (.dict (entriesOf fields)) = .good v ∧ v.dump.Perm (fields ++ [("note", .null)]) := by
  intro fields v
  have hplain : Plain (.dict (entriesOf fields)) :=
    .table (by decide) (by simp [fields, Plain.text, Plain.int])
  have hkept : AsItStands (violationForm v.kind) fields := by
    simp [AsItStands, fields, v, Violation.kind, Problem.kind, violationForm, problemForm, FieldKind.Takes]
  have hread : violation (.dict (entriesOf fields)) = .good v := rfl
  exact ⟨hplain, hkept, hread, (violation_rereads.2 fields v hplain hkept).1 hread⟩

end Reading

end Document
end FeatureCert
