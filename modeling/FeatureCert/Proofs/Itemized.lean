import FeatureCert.Proofs.Acceptance
import FeatureCert.Proofs.OneLine
import FeatureCert.Proofs.Rendered

/-!
Reports line by line. The line of a violation takes over names, the text of a value and a hint as they are. A
report so has one line for each violation exactly where no unknown name of the selection and no hint of a
broken rule has a line break in it: names of the catalog are identifiers, and texts of values are one line.
-/
namespace FeatureCert

open FeatureCert.Text FeatureCert.Numeral

namespace Text

variable {a : String} {parts : List String}

/-- Lines of parts that stand under each other. -/
theorem splitOn_intercalate_eq_flatMap (h : parts ≠ []) :
    ("\n".intercalate parts).toList.splitOn '\n' = parts.flatMap (·.toList.splitOn '\n') := by
  induction parts with
  | nil => exact absurd rfl h
  | cons part rest ih =>
    cases rest with
    | nil => simp
    | cons next last =>
      rw [String.intercalate_cons_cons, splitOn_break, List.flatMap_cons, ih (by simp)]

theorem OneLine.splitOn_eq (h : OneLine a) : a.toList.splitOn '\n' = [a.toList] :=
  List.splitOn_eq_singleton h

theorem length_splitOn_pos (cs : List Char) : 0 < (cs.splitOn '\n').length :=
  List.length_pos_iff.2 (List.splitOn_ne_nil _ _)

/-- A text on one line is one piece between line breaks. -/
theorem oneLine_iff_length : OneLine a ↔ (a.toList.splitOn '\n').length = 1 := by
  constructor
  · intro h
    rw [h.splitOn_eq, List.length_singleton]
  · intro h hbreak
    obtain ⟨before, after, ha⟩ := List.append_of_mem hbreak
    have hbefore := length_splitOn_pos before
    have hafter := length_splitOn_pos after
    rw [ha, List.splitOn_append_cons_self, List.length_append] at h
    omega

/-- Parts under each other have a line each at least. -/
theorem length_le_length_lines (parts : List String) :
    parts.length ≤ (parts.flatMap (·.toList.splitOn '\n')).length := by
  induction parts with
  | nil => exact Nat.le_refl 0
  | cons part rest ih =>
    have hpart := length_splitOn_pos part.toList
    rw [List.flatMap_cons, List.length_append, List.length_cons]
    omega

/-- They have no more lines only where none has a break. -/
theorem length_lines_eq_iff :
    (parts.flatMap (·.toList.splitOn '\n')).length = parts.length ↔ ∀ part ∈ parts, OneLine part := by
  induction parts with
  | nil => simp
  | cons part rest ih =>
    have hpart := length_splitOn_pos part.toList
    have hrest := length_le_length_lines rest
    rw [List.flatMap_cons, List.length_append, List.length_cons, List.forall_mem_cons, oneLine_iff_length, ← ih]
    omega

/-- Parts under each other are the lines of the whole exactly where each is one line. -/
theorem lines_eq_iff :
    parts.flatMap (·.toList.splitOn '\n') = parts.map String.toList ↔ ∀ part ∈ parts, OneLine part := by
  constructor
  · intro hlines
    rw [← length_lines_eq_iff, hlines, List.length_map]
  · intro hall
    rw [List.map_eq_flatMap]
    exact List.flatMap_congr fun part hpart => (hall part hpart).splitOn_eq

end Text

theorem oneLine_withNote {body : String} {note : Option String} :
    OneLine (withNote body note) ↔ OneLine body ∧ ∀ hint ∈ note.toList, OneLine hint := by
  unfold withNote
  cases note with
  | none => simp
  | some hint =>
    by_cases hempty : hint = ""
    · simp [hempty]
    · simp +decide [hempty]

/-- Texts that a problem is told with, apart from the hint. -/
def Problem.texts : Problem → List String
  | .unknownCapability => []
  | .invalidValue value expected => [value, expected]
  | .missingDependency target _ => [target]
  | .unsatisfiedAny targets _ => targets
  | .conflictingExclusion target _ => [target]
  | .outOfRangeParameter .. => []

namespace Violation

/-- Texts that the line of a violation takes over as they are. -/
def texts (v : Violation) : List String := v.subject :: v.problem.texts ++ v.problem.note.toList

theorem oneLine_kind (kind : ViolationKind) : OneLine ("[" ++ kind.name ++ "] ") := by
  cases kind <;> decide

/-- What a violation says has no breaks but those of the texts in it. -/
theorem oneLine_body_iff {v : Violation} {text : String} (h : v.body = .ok text) :
    OneLine text ↔ ∀ part ∈ v.subject :: v.problem.texts, OneLine part := by
  obtain ⟨subject, problem⟩ := v
  cases problem with
  | outOfRangeParameter value minimum maximum note =>
    obtain ⟨given, hgiven, h⟩ := bind_eq_ok_iff.1 h
    obtain ⟨low, hlow, h⟩ := bind_eq_ok_iff.1 h
    obtain ⟨high, hhigh, h⟩ := bind_eq_ok_iff.1 h
    cases h
    simp +decide [Problem.texts, oneLine_decimal hgiven, oneLine_decimal hlow, oneLine_decimal hhigh]
  | _ =>
    cases h
    simp +decide [Problem.texts, and_assoc]

/-- The line of a violation has no breaks but those of the texts in it. -/
theorem oneLine_line_iff {v : Violation} {text : String} (h : v.line = .ok text) :
    OneLine text ↔ ∀ part ∈ v.texts, OneLine part := by
  unfold line at h
  obtain ⟨body, hbody, htext⟩ := bind_eq_ok_iff.1 h
  cases htext
  have hkind : OneLine (toString "[" ++ toString v.kind.name ++ toString "] ") := oneLine_kind v.kind
  rw [oneLine_append, oneLine_withNote, oneLine_body_iff hbody, texts, List.forall_mem_append,
    and_iff_right hkind]

end Violation

/-- The violation of a broken rule takes over the names and the hint of the rule. -/
theorem Rule.Reports.texts_eq {s : Snapshot} {r : Rule} {v : Violation} (h : r.Reports s v) :
    v.texts = r.identifiers ++ r.note.toList := by
  cases h with
  | requires hr | requiresAny hr | excludes hr | range hr _ =>
    simp [Violation.texts, Problem.texts, Problem.note, identifiers, objects, Constraint.objects, hr]

section

variable {catalog : Catalog} {selection : List Entry} {problems : List Violation}

/-- Of the problems of a selection only an unknown name can have a break in its line. -/
theorem Complaints.oneLine_iff (h : Complaints catalog selection problems)
    (hnames : ∀ c ∈ catalog.capabilities, Identifier.isValid c.name.toList = true) :
    (∀ v ∈ problems, ∀ part ∈ v.texts, OneLine part) ↔
      ∀ e ∈ selection, ∀ name, e.name = .text name → name ∉ catalog.identifiers → OneLine name := by
  have hknown {e : Entry} {c : Capability} (hc : c ∈ catalog.capabilities) (hname : e.name = .text c.name)
      (name : String) (he : e.name = .text name) (hnot : name ∉ catalog.identifiers) : OneLine name := by
    rw [hname, Value.text.injEq] at he
    exact absurd (Catalog.mem_identifiers.2 ⟨c, hc, he⟩) hnot
  induction h with
  | nil => simp
  | fit hc hname _ _ ih =>
    refine ih.trans ?_
    rw [List.forall_mem_cons]
    exact (and_iff_right (hknown hc hname)).symm
  | @unknown es vs e text hname htext _ ih =>
    rw [List.forall_mem_cons, List.forall_mem_cons]
    refine and_congr ?_ ih
    have hunknown (name : String) (he : e.name = .text name) : name ∉ catalog.identifiers := by
      intro hmem
      obtain ⟨c, hc, hown⟩ := Catalog.mem_identifiers.1 hmem
      exact hname c hc (by rw [he, hown])
    have hsubject : (∀ part ∈ Violation.texts ⟨text, .unknownCapability⟩, OneLine part) ↔ OneLine text := by
      simp [Violation.texts, Problem.texts, Problem.note]
    rw [hsubject, Value.oneLine_display_iff htext]
    exact forall₂_congr fun name he => (imp_iff_right (hunknown name he)).symm
  | @unfit es vs e c text hc hname hfit htext _ ih =>
    rw [List.forall_mem_cons, List.forall_mem_cons]
    refine and_congr (iff_of_true ?_ (hknown hc hname)) ih
    have hexpected : OneLine c.expected := by
      unfold Capability.expected
      split <;> decide
    simpa [Violation.texts, Problem.texts, Problem.note, hexpected, Value.oneLine_inspect htext] using
      Identifier.oneLine_of_isValid (hnames c hc)

end

namespace RuleSet

variable {catalog : Catalog} {rules : RuleSet catalog} {s : Snapshot}

/-- Of the violations of rules only the hint of a broken rule can have a break in its line. -/
theorem oneLine_violations_iff (hs : s.Numbered catalog)
    (hnames : ∀ c ∈ catalog.capabilities, Identifier.isValid c.name.toList = true) :
    (∀ v ∈ rules.violations s, ∀ part ∈ v.texts, OneLine part) ↔
      ∀ r ∈ rules.rules, ¬ r.Holds catalog s → ∀ note, r.note = some note → OneLine note := by
  have hknown {r : Rule} (hr : r ∈ rules.rules) : ∀ name ∈ r.identifiers, OneLine name :=
    fun name hname => Identifier.oneLine_of_isValid (isValid_of_mem hnames hr name hname)
  have htexts {r : Rule} {v : Violation} (hr : r ∈ rules.rules) (hreports : r.Reports s v) :
      (∀ part ∈ v.texts, OneLine part) ↔ ∀ note, r.note = some note → OneLine note := by
    rw [hreports.texts_eq, List.forall_mem_append, and_iff_right (hknown hr)]
    simp only [Option.mem_toList]
  simp only [mem_violations_iff hs]
  constructor
  · intro h r hr hbroken
    obtain ⟨v, hreports⟩ := exists_reports hr hs hbroken
    exact (htexts hr hreports).1 (h v ⟨r, hr, hbroken, hreports⟩)
  · rintro h v ⟨r, hr, hbroken, hreports⟩
    exact (htexts hr hreports).2 (h r hr hbroken)

end RuleSet

/-- Lines of violations have breaks only from the texts in them. -/
theorem oneLine_parts_iff {violations : List Violation} {parts : List String}
    (h : violations.mapM Violation.line = .ok parts) :
    (∀ part ∈ parts, OneLine part) ↔ ∀ v ∈ violations, ∀ text ∈ v.texts, OneLine text := by
  rw [mapM_eq_ok_iff] at h
  induction h with
  | nil => simp
  | cons hline _ ih =>
    rw [List.forall_mem_cons, List.forall_mem_cons]
    exact and_congr (Violation.oneLine_line_iff hline) ih

namespace Tables

variable {tables : Tables} {selection : List Entry} {verdict : Verdict} {text : String}

/-- No name or hint that a report on a selection takes over as it is has a line break. -/
structure Unbroken (tables : Tables) (selection : List Entry) (s : Snapshot) : Prop where
  names : ∀ e ∈ selection, ∀ name, e.name = .text name → name ∉ tables.catalog.identifiers → OneLine name
  hints : ∀ r ∈ tables.rules.rules, ¬ r.Holds tables.catalog s → ∀ note, r.note = some note → OneLine note

/-- The report of a rejection is a headline over the lines of the violations in order. It has no other lines,
and these no breaks, exactly where no unknown name and no hint of a broken rule has one. -/
theorem itemized_iff_unbroken
    (hnames : ∀ c ∈ tables.catalog.capabilities, Identifier.isValid c.name.toList = true)
    (h : (tables.validate selection).result = .ok verdict) (hrejected : verdict.passed = false)
    (htext : verdict.text = .ok text) :
    ∃ s problems parts body, (tables.normalize selection).result = .ok (s, problems) ∧
      verdict.violations.mapM Violation.line = .ok parts ∧
      violationText verdict.violations = .ok body ∧
      ((∀ part ∈ parts, OneLine part) ↔ tables.Unbroken selection s) ∧
      (body.toList.splitOn '\n' = parts.map String.toList ↔ tables.Unbroken selection s) ∧
      ((body.toList.splitOn '\n').length = verdict.violations.length ↔ tables.Unbroken selection s) ∧
      ((text.toList.splitOn '\n').length = verdict.violations.length + 1 ↔
        tables.Unbroken selection s) := by
  obtain ⟨s, problems, hnormal, rfl⟩ := validate_ok h
  have hn := catalog_normalize_of_result hnormal
  rw [Verdict.text_of_failed hrejected] at htext
  obtain ⟨parts, hparts⟩ := exists_ok_map.1 ⟨_, htext⟩
  have hsome : parts ≠ [] := Verdict.parts_ne_nil hrejected hparts
  have hlength : (tables.rules.verdict s problems).violations.length = parts.length :=
    (mapM_eq_ok_iff.1 hparts).length_eq
  have hbody : violationText (tables.rules.verdict s problems).violations =
      .ok ("\n".intercalate parts) := by
    have hlisted : (tables.rules.verdict s problems).violations.isEmpty = false := hrejected
    rw [violationText, hlisted, hparts]
    rfl
  have hunbroken : (∀ part ∈ parts, OneLine part) ↔ tables.Unbroken selection s := by
    rw [oneLine_parts_iff hparts]
    change (∀ v ∈ problems ++ tables.rules.violations s, _) ↔ _
    rw [List.forall_mem_append, (Catalog.complaints_normalize hn).oneLine_iff hnames,
      RuleSet.oneLine_violations_iff (Catalog.numbered_normalize hn) hnames]
    exact ⟨fun hboth => ⟨hboth.1, hboth.2⟩, fun hboth => ⟨hboth.names, hboth.hints⟩⟩
  have hheadline : (text.toList.splitOn '\n').length =
      1 + (("\n".intercalate parts).toList.splitOn '\n').length := by
    rw [hparts] at htext
    rw [← Except.ok.inj htext, splitOn_break, (Verdict.isPlain_rejectedLine _).oneLine.splitOn_eq,
      List.length_append, List.length_singleton]
  refine ⟨s, problems, parts, _, hnormal, hparts, hbody, hunbroken, ?_, ?_, ?_⟩
  · rw [splitOn_intercalate_eq_flatMap hsome, lines_eq_iff, hunbroken]
  · rw [splitOn_intercalate_eq_flatMap hsome, hlength, length_lines_eq_iff, hunbroken]
  · rw [hheadline, splitOn_intercalate_eq_flatMap hsome, hlength, Nat.add_comm, Nat.add_left_inj,
      length_lines_eq_iff, hunbroken]

/-- A report of two violations: the break in the text that is assigned is escaped, and so there are three
lines. -/
theorem unbroken_of_sample :
    let selection : List Entry := [⟨.text "AES", .text "x\ny"⟩, ⟨.text "ROUNDS", .null⟩, ⟨.text "DSA", .null⟩]
    let verdict : Verdict :=
      ⟨"sample", none, [⟨"AES", .invalidValue "'x\\ny'" "bool"⟩, ⟨"DSA", .unknownCapability⟩], 3, 2⟩
    let report := "configuration rejected: 2 violation(s)\n" ++
      "[invalid_value] AES was given 'x\\ny', expected bool\n" ++
      "[unknown_capability] DSA is not a known capability"
    (sampleTables.validate selection).result = .ok verdict ∧ verdict.passed = false ∧
      verdict.text = .ok report ∧
      (∀ c ∈ sampleTables.catalog.capabilities, Identifier.isValid c.name.toList = true) ∧
      ∃ s problems, (sampleTables.normalize selection).result = .ok (s, problems) ∧
        sampleTables.Unbroken selection s := by
  intro selection verdict report
  have hverdict : (sampleTables.validate selection).result = .ok verdict := by rfl
  have htext : verdict.text = .ok report := by decide +kernel
  have hnames : ∀ c ∈ sampleTables.catalog.capabilities, Identifier.isValid c.name.toList = true := by
    decide
  obtain ⟨s, problems, _, _, hnormal, _, _, _, _, _, hlines⟩ :=
    itemized_iff_unbroken hnames hverdict rfl htext
  exact ⟨hverdict, rfl, htext, hnames, s, problems, hnormal, hlines.1 (by decide +kernel)⟩

/-- A report of one violation in three lines, of which the line of the violation is two: the selection has a
name with a line break. -/
theorem broken_of_sample :
    let selection : List Entry := [⟨.text "x\ny", .bool true⟩]
    let verdict : Verdict := ⟨"sample", none, [⟨"x\ny", .unknownCapability⟩], 3, 1⟩
    let part := "[unknown_capability] x\ny is not a known capability"
    let report := "configuration rejected: 1 violation(s)\n" ++ part
    (Tables.build "sample" sampleCapabilities sampleRules).result = .ok sampleTables ∧
      (sampleTables.validate selection).result = .ok verdict ∧ verdict.passed = false ∧
      verdict.violations.mapM Violation.line = .ok [part] ∧ ¬ OneLine part ∧
      verdict.text = .ok report ∧ (report.toList.splitOn '\n').length = 3 := by
  refine ⟨build_sample, by rfl, rfl, ?_, ?_, ?_, ?_⟩ <;> decide +kernel

end Tables
end FeatureCert
