import FeatureCert.Proofs.Rendered
import FeatureCert.Proofs.Written

/-!
Lines of violations can be told apart. A line begins with the kind, and each part of it but the last ends
where a character follows that it cannot hold: names are identifiers, numbers are digits and a minus, and what
is left over at the end may be anything. So a line tells all that its violation says, but for a hint that is
empty.
-/
namespace FeatureCert

open FeatureCert.Text FeatureCert.Numeral

namespace Text

/-- A template takes a text over as it is. -/
theorem toString_text (s : String) : toString s = s := rfl

variable {p : Char → Bool} {a a' b b' sep : String}

/-- Texts that go on as far as their characters pass are told apart from what follows. -/
theorem append_inj_of_stop (ha : ∀ c ∈ a.toList, p c = true) (ha' : ∀ c ∈ a'.toList, p c = true)
    (hb : ∀ c ∈ b.toList.head?, p c = false) (hb' : ∀ c ∈ b'.toList.head?, p c = false)
    (h : a ++ b = a' ++ b') : a = a' ∧ b = b' := by
  have hlist : a.toList ++ b.toList = a'.toList ++ b'.toList := by
    rw [← String.toList_append, ← String.toList_append, h]
  have hrest : b = b' := by
    rw [← String.toList_inj, ← dropWhile_eq_iff.2 ⟨_, Eq.refl _, ha, hb⟩, hlist]
    exact dropWhile_eq_iff.2 ⟨_, rfl, ha', hb'⟩
  subst hrest
  exact ⟨(String.append_left_inj b).1 h, rfl⟩

/-- The part in front of a separator that begins with a character which the part cannot hold. -/
theorem field_inj (hsep : sep.toList.head?.any (!p ·) = true) (ha : ∀ c ∈ a.toList, p c = true)
    (ha' : ∀ c ∈ a'.toList, p c = true) (h : a ++ (sep ++ b) = a' ++ (sep ++ b')) : a = a' ∧ b = b' := by
  have hstop (rest : String) : ∀ c ∈ (sep ++ rest).toList.head?, p c = false := by
    rw [String.toList_append, List.head?_append]
    cases hhead : sep.toList.head? with
    | none => simp [hhead] at hsep
    | some first => simpa [hhead] using hsep
  obtain ⟨hfield, hrest⟩ := append_inj_of_stop ha ha' (hstop b) (hstop b') h
  exact ⟨hfield, (String.append_right_inj sep).1 hrest⟩

end Text

def IsName (name : String) : Prop := Identifier.isValid name.toList = true

instance (name : String) : Decidable (IsName name) := inferInstanceAs (Decidable (_ = _))

namespace IsName

variable {name : String}

theorem isPart (h : IsName name) : ∀ c ∈ name.toList, Identifier.isPart c = true :=
  fun _ hc => Identifier.isPart_of_mem h hc

theorem ne_empty (h : IsName name) : name ≠ "" := by
  rintro rfl
  exact absurd h (by decide)

end IsName

def listed (names : List String) : String := ", ".intercalate names

theorem listed_cons (name : String) (rest : List String) :
    listed (name :: rest) = name ++ (if rest = [] then "" else ", " ++ listed rest) := by
  cases rest with
  | nil => simp [listed]
  | cons next last => simp [listed, String.intercalate_cons_cons, String.append_assoc]

theorem listed_ne_empty {name : String} (h : IsName name) (rest : List String) :
    listed (name :: rest) ≠ "" := by
  rw [listed_cons]
  intro he
  exact h.ne_empty (String.append_eq_empty_iff.1 he).1

/-- Names hold no commas, so that a list of them can be taken apart again. -/
theorem listed_inj {names names' : List String} (h : ∀ name ∈ names, IsName name)
    (h' : ∀ name ∈ names', IsName name) (he : listed names = listed names') : names = names' := by
  induction names generalizing names' with
  | nil =>
    cases names' with
    | nil => rfl
    | cons name' rest' => exact absurd he.symm (listed_ne_empty (h' name' List.mem_cons_self) rest')
  | cons name rest ih =>
    cases names' with
    | nil => exact absurd he (listed_ne_empty (h name List.mem_cons_self) rest)
    | cons name' rest' =>
      rw [List.forall_mem_cons] at h h'
      rw [listed_cons, listed_cons] at he
      have hstop (names : List String) :
          ∀ c ∈ (if names = [] then "" else ", " ++ listed names).toList.head?,
            Identifier.isPart c = false := by
        have hcomma : Identifier.isPart ',' = false := by decide
        split <;> simp [hcomma]
      obtain ⟨rfl, hrest⟩ := append_inj_of_stop h.1.isPart h'.1.isPart (hstop rest) (hstop rest') he
      by_cases hnone : rest = [] <;> by_cases hnone' : rest' = []
      · rw [hnone, hnone']
      · simp [hnone, hnone'] at hrest
      · simp [hnone, hnone'] at hrest
      · rw [if_neg hnone, if_neg hnone', String.append_right_inj] at hrest
        rw [ih h.2 h'.2 hrest]

/-- Characters of names set off by commas. -/
def isListed (c : Char) : Bool := Identifier.isPart c || c == ',' || c == ' '

theorem isListed_of_mem {names : List String} (h : ∀ name ∈ names, IsName name) :
    ∀ c ∈ (listed names).toList, isListed c = true := by
  induction names with
  | nil => exact nofun
  | cons name rest ih =>
    rw [List.forall_mem_cons] at h
    have hname : ∀ c ∈ name.toList, isListed c = true := fun c hc => by simp [isListed, h.1.isPart c hc]
    rw [listed_cons]
    split
    · simpa using hname
    · simp only [String.toList_append, List.forall_mem_append]
      have hcommas : ∀ c ∈ ", ".toList, isListed c = true := by simp [isListed]
      exact ⟨hname, hcommas, ih h.2⟩

/-- A hint as it is told: an empty one is none. -/
def plainNote : Option String → Option String
  | none => none
  | some hint => if hint.isEmpty then none else some hint

/-- Text of a hint at the end of a line. -/
def noteText : Option String → String
  | none => ""
  | some hint => " (" ++ (hint ++ ")")

theorem withNote_eq (body : String) (note : Option String) :
    withNote body note = body ++ noteText (plainNote note) := by
  cases note with
  | none => simp [withNote, plainNote, noteText]
  | some hint =>
    rw [withNote, plainNote]
    split
    · simp [noteText]
    · simp only [noteText, ← String.append_assoc]
      rfl

/-- Hints that are told differ in their text. -/
theorem noteText_inj {note note' : Option String} (h : noteText note = noteText note') : note = note' := by
  cases note with
  | none =>
    cases note' with
    | none => rfl
    | some hint' => simp [noteText] at h
  | some hint =>
    cases note' with
    | none => simp [noteText] at h
    | some hint' =>
      rw [noteText, noteText, String.append_right_inj, String.append_left_inj] at h
      rw [h]

theorem eq_repr_of_decimal {n : Int} {text : String} (h : decimal n = .ok text) : text = n.repr := by
  unfold decimal at h
  split at h
  · cases h
    rfl
  · cases h

/-- Numbers within the digit limit are told apart, since their texts are read back. -/
theorem repr_inj {m n : Int} (hm : Writable m) (hn : Writable n) (h : m.repr = n.repr) : m = n := by
  have hread : literal? m.repr.toList = some n := by
    rw [h]
    exact literal?_toString hn
  exact Option.some.inj ((literal?_toString hm).symm.trans hread)

def isNumeral (c : Char) : Bool := c.isDigit || c == '-'

theorem isNumeral_of_mem (n : Int) : ∀ c ∈ n.repr.toList, isNumeral c = true := by
  intro c hc
  rw [isNumeral, Bool.or_eq_true, beq_iff_eq]
  exact digit_or_minus_of_mem hc

/-- A problem with a hint that is told. -/
def Problem.plain : Problem → Problem
  | .missingDependency target note => .missingDependency target (plainNote note)
  | .unsatisfiedAny targets note => .unsatisfiedAny targets (plainNote note)
  | .conflictingExclusion target note => .conflictingExclusion target (plainNote note)
  | .outOfRangeParameter value minimum maximum note =>
    .outOfRangeParameter value minimum maximum (plainNote note)
  | problem => problem

namespace Violation

variable {v w : Violation} {text : String}

/-- A violation without an empty hint. -/
def plain (v : Violation) : Violation := ⟨v.subject, v.problem.plain⟩

/-- What a verdict knows of the violations in it: subject and targets are names of capabilities, unless the
subject is unknown, and what is expected is one of two words. -/
def Regular (v : Violation) : Prop :=
  match v.problem with
  | .unknownCapability => True
  | .invalidValue _ expected => IsName v.subject ∧ (expected = "bool" ∨ expected = "int")
  | .missingDependency target _ => IsName v.subject ∧ IsName target
  | .unsatisfiedAny targets _ => IsName v.subject ∧ ∀ target ∈ targets, IsName target
  | .conflictingExclusion target _ => IsName v.subject ∧ IsName target
  | .outOfRangeParameter .. => IsName v.subject

/-- What a line says behind the kind: what is told, part by part, up to the hint. -/
def telling (v : Violation) : String :=
  match v.problem with
  | .unknownCapability => v.subject ++ " is not a known capability"
  | .invalidValue value expected => v.subject ++ (" was given " ++ (value ++ (", expected " ++ expected)))
  | .missingDependency target note =>
    v.subject ++ (" requires " ++ (target ++ (", which is disabled" ++ noteText (plainNote note))))
  | .unsatisfiedAny targets note =>
    v.subject ++ (" requires at least one of " ++
      (listed targets ++ ("; none is enabled" ++ noteText (plainNote note))))
  | .conflictingExclusion target note =>
    v.subject ++ (" and " ++ (target ++ (" cannot both be enabled" ++ noteText (plainNote note))))
  | .outOfRangeParameter value minimum maximum note =>
    v.subject ++ (" = " ++ (value.repr ++ (" is outside the allowed range [" ++
      (minimum.repr ++ (", " ++ (maximum.repr ++ ("]" ++ noteText (plainNote note))))))))

/-- A line ends with the text of its hint, an empty one being none. -/
theorem body_ok (h : v.body = .ok text) : text ++ noteText (plainNote v.problem.note) = v.telling := by
  obtain ⟨subject, problem⟩ := v
  cases problem with
  | outOfRangeParameter value minimum maximum note =>
    obtain ⟨given, hgiven, h⟩ := bind_eq_ok_iff.1 h
    obtain ⟨low, hlow, h⟩ := bind_eq_ok_iff.1 h
    obtain ⟨high, hhigh, h⟩ := bind_eq_ok_iff.1 h
    cases h
    simp only [toString_text, telling, ← eq_repr_of_decimal hgiven, ← eq_repr_of_decimal hlow,
      ← eq_repr_of_decimal hhigh, String.append_assoc]
    rfl
  | unknownCapability | invalidValue =>
    cases h
    simp only [toString_text, telling, String.append_assoc]
    simp only [Problem.note, plainNote, noteText, String.append_empty]
  | _ =>
    cases h
    simp only [toString_text, telling, listed, String.append_assoc]
    rfl

/-- A line is the kind in brackets and what it says. -/
theorem line_ok (h : v.line = .ok text) : text = "[" ++ (v.kind.name ++ ("] " ++ v.telling)) := by
  unfold line at h
  obtain ⟨said, hsaid, htext⟩ := bind_eq_ok_iff.1 h
  rw [← body_ok hsaid, ← withNote_eq, ← Except.ok.inj htext]
  simp only [toString_text, String.append_assoc]

theorem kind_inj {kind kind' : ViolationKind} (h : kind.name = kind'.name) : kind = kind' := by
  rw [← Option.some.injEq, ← ViolationKind.ofName?_name kind, h, ViolationKind.ofName?_name]

/-- Words for what is expected are told apart by their last letters. -/
theorem expected_inj {value value' expected expected' : String} (h : expected = "bool" ∨ expected = "int")
    (h' : expected' = "bool" ∨ expected' = "int")
    (he : value ++ (", expected " ++ expected) = value' ++ (", expected " ++ expected')) :
    value = value' ∧ expected = expected' := by
  have hlast := congrArg (·.toList.getLast?) he
  rcases h with rfl | rfl <;> rcases h' with rfl | rfl
  · exact ⟨(String.append_left_inj _).1 he, rfl⟩
  · simp at hlast
  · simp at hlast
  · exact ⟨(String.append_left_inj _).1 he, rfl⟩

/-- Of two violations of a kind what is said tells all but an empty hint. -/
theorem plain_eq_of_telling (hv : Regular v) (hw : Regular w) (hkind : v.kind = w.kind)
    (hnumbers : ∀ n ∈ v.numbers, Writable n) (hnumbers' : ∀ n ∈ w.numbers, Writable n)
    (he : v.telling = w.telling) : v.plain = w.plain := by
  obtain ⟨subject, problem⟩ := v
  obtain ⟨subject', problem'⟩ := w
  -- Unlike problems are of unlike kinds. In the others each part is cut off in front of what separates it
  -- from the next, and what is left over at the end is the hint.
  cases problem <;> cases problem' <;> simp only [kind, Problem.kind, reduceCtorEq] at hkind <;>
    simp only [telling, Regular] at he hv hw
  case unknownCapability.unknownCapability =>
    rw [(String.append_left_inj _).1 he]
  case invalidValue.invalidValue value expected value' expected' =>
    obtain ⟨rfl, hrest⟩ := field_inj (by decide) hv.1.isPart hw.1.isPart he
    obtain ⟨rfl, rfl⟩ := expected_inj hv.2 hw.2 hrest
    rfl
  case missingDependency.missingDependency target note target' note' =>
    obtain ⟨rfl, hrest⟩ := field_inj (by decide) hv.1.isPart hw.1.isPart he
    obtain ⟨rfl, hnote⟩ := field_inj (by decide) hv.2.isPart hw.2.isPart hrest
    rw [plain, plain, Problem.plain, Problem.plain, noteText_inj hnote]
  case unsatisfiedAny.unsatisfiedAny targets note targets' note' =>
    obtain ⟨rfl, hrest⟩ := field_inj (by decide) hv.1.isPart hw.1.isPart he
    obtain ⟨hlisted, hnote⟩ :=
      field_inj (by decide) (isListed_of_mem hv.2) (isListed_of_mem hw.2) hrest
    cases listed_inj hv.2 hw.2 hlisted
    rw [plain, plain, Problem.plain, Problem.plain, noteText_inj hnote]
  case conflictingExclusion.conflictingExclusion target note target' note' =>
    obtain ⟨rfl, hrest⟩ := field_inj (by decide) hv.1.isPart hw.1.isPart he
    obtain ⟨rfl, hnote⟩ := field_inj (by decide) hv.2.isPart hw.2.isPart hrest
    rw [plain, plain, Problem.plain, Problem.plain, noteText_inj hnote]
  case outOfRangeParameter.outOfRangeParameter value minimum maximum note value' minimum' maximum' note' =>
    obtain ⟨rfl, hrest⟩ := field_inj (by decide) hv.isPart hw.isPart he
    obtain ⟨hvalue, hbounds⟩ := field_inj (by decide) (isNumeral_of_mem _) (isNumeral_of_mem _) hrest
    obtain ⟨hminimum, hlast⟩ := field_inj (by decide) (isNumeral_of_mem _) (isNumeral_of_mem _) hbounds
    obtain ⟨hmaximum, hnote⟩ := field_inj (by decide) (isNumeral_of_mem _) (isNumeral_of_mem _) hlast
    simp only [numbers, List.forall_mem_cons] at hnumbers hnumbers'
    cases repr_inj hnumbers.1 hnumbers'.1 hvalue
    cases repr_inj hnumbers.2.1 hnumbers'.2.1 hminimum
    cases repr_inj hnumbers.2.2.1 hnumbers'.2.2.1 hmaximum
    rw [plain, plain, Problem.plain, Problem.plain, noteText_inj hnote]

/-- Kind by kind, the parts of a line can be told apart where names are identifiers. -/
theorem plain_eq_of_line (hv : Regular v) (hw : Regular w) (h : v.line = .ok text) (h' : w.line = .ok text) :
    v.plain = w.plain := by
  have hname (kind : ViolationKind) : IsName kind.name := by cases kind <;> decide
  have he := line_ok h
  rw [line_ok h', String.append_right_inj] at he
  obtain ⟨hkind, htelling⟩ := field_inj (by decide) (hname w.kind).isPart (hname v.kind).isPart he
  exact plain_eq_of_telling hv hw (kind_inj hkind.symm) (exists_line_iff.1 ⟨text, h⟩)
    (exists_line_iff.1 ⟨text, h'⟩) htelling.symm

/-- An empty hint changes nothing in a line. -/
theorem line_plain (v : Violation) : v.plain.line = v.line := by
  have hnote (note : Option String) : plainNote (plainNote note) = plainNote note := by
    cases note with
    | none => rfl
    | some hint => by_cases hempty : hint.isEmpty = true <;> simp [plainNote, hempty]
  obtain ⟨subject, problem⟩ := v
  cases problem <;>
    simp [line, withNote_eq, plain, Problem.plain, Problem.note, kind, Problem.kind, body, hnote]

end Violation

open Violation

/-- Only an unknown name may be any text; other complaints are about capabilities. -/
theorem Complaints.regular {catalog : Catalog} {selection : List Entry} {problems : List Violation}
    (h : Complaints catalog selection problems) (hnames : ∀ c ∈ catalog.capabilities, IsName c.name) :
    ∀ v ∈ problems, v.Regular := by
  induction h with
  | nil => exact nofun
  | fit _ _ _ _ ih => exact ih
  | unknown _ _ _ ih => exact List.forall_mem_cons.2 ⟨trivial, ih⟩
  | @unfit _ _ _ c _ hc _ _ _ _ ih =>
    have hexpected : c.expected = "bool" ∨ c.expected = "int" := by
      unfold Capability.expected
      split
      · exact .inr rfl
      · exact .inl rfl
    exact List.forall_mem_cons.2 ⟨⟨hnames c hc, hexpected⟩, ih⟩

/-- A broken rule is reported with its own names. -/
theorem Rule.Reports.regular {s : Snapshot} {r : Rule} {v : Violation} (h : r.Reports s v)
    (hnames : ∀ name ∈ r.identifiers, IsName name) : v.Regular := by
  simp only [identifiers, objects, List.forall_mem_cons] at hnames
  obtain ⟨hsubject, hobjects⟩ := hnames
  cases h with
  | requires hr | excludes hr =>
    rw [hr] at hobjects
    exact ⟨hsubject, hobjects _ List.mem_cons_self⟩
  | requiresAny hr =>
    rw [hr] at hobjects
    exact ⟨hsubject, hobjects⟩
  | range => exact hsubject

namespace Tables

variable {tables : Tables} {selection selection' : List Entry} {verdict verdict' : Verdict}
  {v w : Violation} {text text' : String}

/-- All violations of a verdict are regular, those of entries and those of rules. -/
theorem regular_of_validate (hnames : ∀ c ∈ tables.catalog.capabilities, IsName c.name)
    (h : (tables.validate selection).result = .ok verdict) : ∀ v ∈ verdict.violations, v.Regular := by
  obtain ⟨s, problems, hnormal, rfl⟩ := validate_ok h
  have hn := catalog_normalize_of_result hnormal
  have hbroken : ∀ v ∈ tables.rules.violations s, v.Regular := by
    intro v hv
    obtain ⟨r, hr, _, hreports⟩ := (RuleSet.mem_violations_iff (Catalog.numbered_normalize hn)).1 hv
    exact hreports.regular (RuleSet.isValid_of_mem hnames hr)
  change ∀ v ∈ problems ++ tables.rules.violations s, _
  exact List.forall_mem_append.2 ⟨(Catalog.complaints_normalize hn).regular hnames, hbroken⟩

/-- Two violations that verdicts over the same tables list have one line exactly where they are the same but
for empty hints: in kind and subject, in targets, value, expectation and bounds, and in the hint. -/
theorem line_eq_iff_plain_eq
    (hnames : ∀ c ∈ tables.catalog.capabilities, Identifier.isValid c.name.toList = true)
    (h : (tables.validate selection).result = .ok verdict)
    (h' : (tables.validate selection').result = .ok verdict')
    (hv : v ∈ verdict.violations) (hw : w ∈ verdict'.violations)
    (hline : v.line = .ok text) (hline' : w.line = .ok text') : text = text' ↔ v.plain = w.plain := by
  constructor
  · rintro rfl
    have hregular := regular_of_validate hnames h v hv
    have hregular' := regular_of_validate hnames h' w hw
    exact plain_eq_of_line hregular hregular' hline hline'
  · intro hplain
    rw [← line_plain, hplain, line_plain, hline'] at hline
    exact (Except.ok.inj hline).symm

/-- One requirement with an empty hint, once more without a hint, and once more with one. -/
def hintedRules : List Rule := [
  { subject := "AES", note := some "", constraint := .requires "RNG" },
  { subject := "AES", constraint := .requires "RNG" },
  { subject := "AES", note := some "needs noise", constraint := .requires "RNG" }]

/-- The first two have one line, since they differ in an empty hint alone, and the third has its own. -/
theorem line_eq_of_hinted :
    let selection : List Entry := [⟨.text "AES", .bool true⟩, ⟨.text "RNG", .bool false⟩]
    let broken (note : Option String) : Violation := ⟨"AES", .missingDependency "RNG" note⟩
    let verdict : Verdict :=
      ⟨"hinted", none, [broken (some ""), broken none, broken (some "needs noise")], 3, 1⟩
    let line := "[missing_dependency] AES requires RNG, which is disabled"
    ∃ tables, (Tables.build "hinted" sampleCapabilities hintedRules).result = .ok tables ∧
      (∀ c ∈ tables.catalog.capabilities, Identifier.isValid c.name.toList = true) ∧
      (tables.validate selection).result = .ok verdict ∧
      (broken (some "")).line = .ok line ∧ (broken none).line = .ok line ∧
      (broken (some "needs noise")).line = .ok (line ++ " (needs noise)") ∧
      (broken (some "")).plain = (broken none).plain ∧
      (broken none).plain ≠ (broken (some "needs noise")).plain := by
  intro selection broken verdict line
  obtain ⟨tables, hbuild, hverdict⟩ : ∃ tables,
      (Tables.build "hinted" sampleCapabilities hintedRules).result = .ok tables ∧
        (tables.validate selection).result = .ok verdict := ⟨_, rfl, rfl⟩
  have hnames : ∀ c ∈ tables.catalog.capabilities, Identifier.isValid c.name.toList = true := by
    rw [(Catalog.build_ok (build_ok hbuild).1).2]
    decide
  have hempty : (broken (some "")).line = .ok line := by decide +kernel
  have hnone : (broken none).line = .ok line := by decide +kernel
  have hsome : (broken (some "needs noise")).line = .ok (line ++ " (needs noise)") := by decide +kernel
  have hlisted (note : Option String) (h : note ∈ [some "", none, some "needs noise"]) :
      broken note ∈ verdict.violations := List.mem_map_of_mem h
  have hsame := line_eq_iff_plain_eq hnames hverdict hverdict (hlisted _ (by decide)) (hlisted _ (by decide))
    hempty hnone
  have hown := line_eq_iff_plain_eq hnames hverdict hverdict (hlisted _ (by decide)) (hlisted _ (by decide))
    hnone hsome
  exact ⟨tables, hbuild, hnames, hverdict, hempty, hnone, hsome, hsame.1 rfl, mt hown.2 (by decide)⟩

end Tables
end FeatureCert
