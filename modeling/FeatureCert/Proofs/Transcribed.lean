import FeatureCert.Document.Catalog
import FeatureCert.Proofs.Fields
import FeatureCert.Proofs.Outcomes

/-!
Catalog documents as they are read. A document is accepted exactly if each of its tables has the fields that
are declared for it and no others; then every field that is there has its value as it stands, and every field
that is left out has its default. No key is passed over, and no value is converted.
-/
namespace FeatureCert

open FeatureCert.Text

/-- A search by name through kinds finds the one that has it, if it finds each by its own name. -/
theorem find?_name_eq_some_iff {κ : Type} {kinds : List κ} {name : κ → String} {k : κ} {s : String}
    (hself : kinds.find? (name · == name k) = some k) :
    kinds.find? (name · == s) = some k ↔ s = name k := by
  constructor
  · intro h
    exact (eq_of_beq (List.find?_some (p := (name · == s)) h)).symm
  · rintro rfl
    exact hself

theorem CapabilityKind.ofName?_eq_some_iff {k : CapabilityKind} {s : String} :
    ofName? s = some k ↔ s = k.name :=
  find?_name_eq_some_iff (ofName?_name k)

theorem RuleKind.ofName?_eq_some_iff {k : RuleKind} {s : String} : ofName? s = some k ↔ s = k.name :=
  find?_name_eq_some_iff (ofName?_name k)

def CapabilityKind.raw (k : CapabilityKind) : Value := .text k.name

def Default.raw : Default → Value
  | .switch on => .bool on
  | .number n => .int n

namespace Document

/-- What a field takes as it stands. -/
inductive FieldKind where
  | text
  /-- A text, or null. -/
  | openText
  | switchOrNumber
  | number
  | texts
  | tables

def FieldKind.Takes : FieldKind → Value → Prop
  | .text, v => ∃ s, v = .text s
  | .openText, v => ∃ o, v = Document.openText o
  | .switchOrNumber, v => ∃ d : Default, v = d.raw
  | .number, v => ∃ n, v = .int n
  | .texts, v => ∃ texts : List String, v = .list (texts.map .text)
  | .tables, v => ∃ tables : List (List (String × Value)),
      v = .list (tables.map fun fields => .dict (entriesOf fields))

/-- The fields that are declared for a table. -/
abbrev Form := List (String × FieldKind)

def documentForm : Form :=
  [("schema_version", .text), ("contract_type", .text), ("catalog_id", .text), ("capabilities", .tables),
    ("rules", .tables), ("description", .openText)]

def capabilityForm : Form :=
  [("name", .text), ("kind", .text), ("default", .switchOrNumber), ("owner", .openText),
    ("section", .openText), ("description", .openText)]

def constraintForm : RuleKind → Form
  | .requires => [("target", .text)]
  | .requiresAny => [("targets", .texts)]
  | .excludes => [("target", .text)]
  | .range => [("minimum", .number), ("maximum", .number)]

def ruleForm (kind : RuleKind) : Form :=
  [("subject", .text), ("note", .openText), ("kind", .text)] ++ constraintForm kind

/-- All keys are declared. -/
def Declared (form : Form) (fields : List (String × Value)) : Prop :=
  ∀ f ∈ fields, f.1 ∈ form.map (·.1)

/-- All keys are declared, and their values are taken as they stand. -/
def Conforms (form : Form) (fields : List (String × Value)) : Prop :=
  ∀ f ∈ fields, ∃ kind : FieldKind, (f.1, kind) ∈ form ∧ kind.Takes f.2

/-- A field that may be left out stands in a table as it is, or its default counts. -/
def Given (fields : List (String × Value)) (key : String) (raw : α → Value) (default a : α) : Prop :=
  (key, raw a) ∈ fields ∨ (∀ v, (key, v) ∉ fields) ∧ a = default

structure CapabilityOf (fields : List (String × Value)) (c : Capability) : Prop where
  name : ("name", .text c.name) ∈ fields ∧ Identifier.isValid c.name.toList = true
  kind : Given fields "kind" CapabilityKind.raw .flag c.kind
  default : Given fields "default" Default.raw (.switch false) c.default
  owner : Given fields "owner" openText none c.owner
  group : Given fields "section" openText none c.group
  description : Given fields "description" openText none c.description
  declared : Declared capabilityForm fields

def ConstraintOf (fields : List (String × Value)) : Constraint → Prop
  | .requires target => ("target", .text target) ∈ fields ∧ Proper target
  | .requiresAny targets => ("targets", .list (targets.map .text)) ∈ fields ∧ targets ≠ []
  | .excludes target => ("target", .text target) ∈ fields ∧ Proper target
  | .range minimum maximum => ("minimum", .int minimum) ∈ fields ∧ ("maximum", .int maximum) ∈ fields

structure RuleOf (fields : List (String × Value)) (r : Rule) : Prop where
  kind : ("kind", .text r.kind.name) ∈ fields
  subject : ("subject", .text r.subject) ∈ fields ∧ Proper r.subject
  note : Given fields "note" openText none r.note
  constraint : ConstraintOf fields r.constraint
  declared : Declared (ruleForm r.kind) fields

/-- Tables of a list, each of which is read as what stands at its place. -/
def Listed (Of : List (String × Value) → α → Prop) (items : List Value) (results : List α) : Prop :=
  List.Forall₂ (fun v a => ∃ fields, v = .dict (entriesOf fields) ∧ Of fields a) items results

structure CatalogOf (fields : List (String × Value)) (d : CatalogDocument) : Prop where
  version : ("schema_version", .text d.schemaVersion) ∈ fields ∧ Proper d.schemaVersion
  contract : ("contract_type", .text "capability_catalog") ∈ fields
  catalogId : ("catalog_id", .text d.catalogId) ∈ fields ∧ Proper d.catalogId
  capabilities : ∃ items, ("capabilities", .list items) ∈ fields ∧ Listed CapabilityOf items d.capabilities
  rules : (∃ items, ("rules", .list items) ∈ fields ∧ Listed RuleOf items d.rules) ∨
    (∀ v, ("rules", v) ∉ fields) ∧ d.rules = []
  description : Given fields "description" openText none d.description
  declared : Declared documentForm fields

section Reading

variable {fields : List (String × Value)} {v : Value} {key : String}

/-- A field whose shape takes values as they stand is given in the table or left out. -/
theorem optional_iff_given {shape : Shape α} {raw : α → Value} {default a : α}
    (h : Plain (.dict (entriesOf fields)))
    (hshape : ∀ v, Plain v → (shape v = .good a ↔ v = raw a)) :
    optional (entriesOf fields) key default shape = .good a ↔ Given fields key raw default a := by
  rw [optional_eq_good_iff h, Given]
  refine or_congr_left ⟨?_, fun hmem => ⟨_, hmem, (hshape _ (h.of_mem hmem)).2 rfl⟩⟩
  rintro ⟨v, hmem, hgood⟩
  rwa [(hshape v (h.of_mem hmem)).1 hgood] at hmem

/-- A field that must be there stands in the table as it is. -/
theorem required_iff_mem {shape : Shape α} {raw : Value} {a : α} {p : Prop}
    (h : Plain (.dict (entriesOf fields)))
    (hshape : ∀ v, Plain v → (shape v = .good a ↔ v = raw ∧ p)) :
    required (entriesOf fields) key shape = .good a ↔ (key, raw) ∈ fields ∧ p := by
  rw [required_eq_good_iff h]
  constructor
  · rintro ⟨v, hmem, hgood⟩
    obtain ⟨rfl, hp⟩ := (hshape v (h.of_mem hmem)).1 hgood
    exact ⟨hmem, hp⟩
  · rintro ⟨hmem, hp⟩
    exact ⟨raw, hmem, (hshape raw (h.of_mem hmem)).2 ⟨rfl, hp⟩⟩

theorem default_eq_good_iff {d : Default} : default v = .good d ↔ v = d.raw := by
  cases v <;> cases d <;> simp [default, Default.raw]

theorem kind_eq_good_iff {k : CapabilityKind} (h : Plain v) :
    member CapabilityKind.ofName? v = .good k ↔ v = k.raw := by
  simp only [member_eq_good_iff h, CapabilityKind.ofName?_eq_some_iff, CapabilityKind.raw]
  constructor
  · rintro ⟨_, rfl, _, rfl⟩
    rfl
  · rintro rfl
    exact ⟨_, rfl, by cases k <;> decide, rfl⟩

/-- A capability is a table with its fields, and no others. -/
theorem capability_eq_good_iff {c : Capability} (h : Plain v) :
    capability v = .good c ↔ ∃ fields, v = .dict (entriesOf fields) ∧ CapabilityOf fields c := by
  rw [capability, record_eq_good_iff h]
  refine exists_congr fun fields => and_congr_right ?_
  rintro rfl
  rw [Checked.seqLeft_eq_good_iff, Checked.seq_eq_good_iff]
  simp only [Checked.exists_seq_good, Checked.exists_map_good,
    required_iff_mem h fun v hv => identifier_eq_good_iff hv,
    optional_iff_given h fun v hv => kind_eq_good_iff hv,
    optional_iff_given h fun v _ => default_eq_good_iff,
    optional_iff_given h fun v hv => nullable_text_eq_good_iff hv]
  constructor
  · rintro ⟨-, ⟨name, hname, kind, hkind, default, hdefault, owner, howner, group, hgroup, description,
      hdescription, rfl⟩, _, hclosed⟩
    exact ⟨hname, hkind, hdefault, howner, hgroup, hdescription, closed_eq_good_iff.1 hclosed⟩
  · intro hc
    exact ⟨hasHalf_of_known (by decide) hc.declared, ⟨_, hc.name, _, hc.kind, _, hc.default, _, hc.owner, _,
      hc.group, _, hc.description, rfl⟩, (), closed_eq_good_iff.2 hc.declared⟩

theorem name_iff_mem {name : String} (h : Plain (.dict (entriesOf fields))) :
    required (entriesOf fields) key nonEmptyText = .good name ↔ (key, .text name) ∈ fields ∧ Proper name :=
  required_iff_mem h fun _ hv => nonEmptyText_eq_good_iff hv

theorem number_iff_mem {n : Int} (h : Plain (.dict (entriesOf fields))) :
    required (entriesOf fields) key strictInt = .good n ↔ (key, .int n) ∈ fields := by
  simp only [required_eq_good_iff h, strictInt_eq_good_iff, exists_eq_right]

theorem made_eq_good_iff {x : Checked α} {make : α → Constraint} {kind : RuleKind} {c : Constraint}
    (hmake : ∀ a, (make a).kind = kind) (hkind : ∀ c : Constraint, c.kind = kind → ∃ a, make a = c)
    (hx : ∀ a, x = .good a ↔ ConstraintOf fields (make a)) :
    make <$> x = .good c ↔ c.kind = kind ∧ ConstraintOf fields c := by
  rw [Checked.map_eq_good_iff]
  constructor
  · rintro ⟨a, ha, rfl⟩
    exact ⟨hmake a, (hx a).1 ha⟩
  · rintro ⟨hc, hof⟩
    obtain ⟨a, rfl⟩ := hkind c hc
    exact ⟨a, (hx a).2 hof, rfl⟩

/-- The fields of a rule's kind give the constraint, which is of that kind. -/
theorem constraint_eq_good_iff {kind : RuleKind} {c : Constraint}
    (h : Plain (.dict (entriesOf fields))) :
    constraint (entriesOf fields) kind = .good c ↔ c.kind = kind ∧ ConstraintOf fields c := by
  cases kind with
  | requires =>
    exact made_eq_good_iff (fun _ => rfl) (by rintro ⟨⟩ ⟨⟩; exact ⟨_, rfl⟩) fun _ => name_iff_mem h
  | requiresAny =>
    exact made_eq_good_iff (fun _ => rfl) (by rintro ⟨⟩ ⟨⟩; exact ⟨_, rfl⟩)
      fun _ => required_iff_mem h fun _ hv => someOf_text_eq_good_iff hv
  | excludes =>
    exact made_eq_good_iff (fun _ => rfl) (by rintro ⟨⟩ ⟨⟩; exact ⟨_, rfl⟩) fun _ => name_iff_mem h
  | range =>
    rw [constraint, Checked.seq_eq_good_iff]
    simp only [Checked.exists_map_good, number_iff_mem h]
    constructor
    · rintro ⟨minimum, hminimum, maximum, hmaximum, rfl⟩
      exact ⟨rfl, hminimum, hmaximum⟩
    · rintro ⟨hkind, hc⟩
      cases c with
      | range minimum maximum => exact ⟨minimum, hc.1, maximum, hc.2, rfl⟩
      | _ => cases hkind

theorem keys_ruleForm (kind : RuleKind) : (ruleForm kind).map (·.1) = ruleFields kind := by
  cases kind <;> rfl

theorem ruleParts_eq_good_iff {kind : RuleKind} {r : Rule} (h : Plain (.dict (entriesOf fields))) :
    Rule.mk <$> required (entriesOf fields) "subject" nonEmptyText
        <*> optional (entriesOf fields) "note" none (nullable text)
        <*> constraint (entriesOf fields) kind = .good r ↔
      (("subject", .text r.subject) ∈ fields ∧ Proper r.subject) ∧
        Given fields "note" openText none r.note ∧ r.kind = kind ∧ ConstraintOf fields r.constraint := by
  rw [Checked.seq_eq_good_iff]
  simp only [Checked.exists_seq_good, Checked.exists_map_good, name_iff_mem h,
    optional_iff_given h fun _ hv => nullable_text_eq_good_iff hv, constraint_eq_good_iff h]
  constructor
  · rintro ⟨subject, hsubject, note, hnote, c, hc, rfl⟩
    exact ⟨hsubject, hnote, hc⟩
  · rintro ⟨hsubject, hnote, hc⟩
    exact ⟨_, hsubject, _, hnote, _, hc, rfl⟩

/-- A rule is a table with the fields of its kind, and no others. -/
theorem rule_eq_good_iff {r : Rule} (h : Plain v) :
    rule v = .good r ↔ ∃ fields, v = .dict (entriesOf fields) ∧ RuleOf fields r := by
  rw [rule, tagged_eq_good_iff h]
  refine exists_congr fun fields => and_congr_right ?_
  rintro rfl
  rw [tagged_entriesOf h]
  simp only [Checked.seqLeft_eq_good_iff, ruleParts_eq_good_iff h, RuleKind.ofName?_eq_some_iff]
  constructor
  · rintro ⟨_, _, hkind, _, rfl, _, ⟨hsubject, hnote, rfl, hc⟩, _, hclosed⟩
    have hdeclared := closed_eq_good_iff.1 hclosed
    rw [← keys_ruleForm] at hdeclared
    exact ⟨hkind, hsubject, hnote, hc, hdeclared⟩
  · intro hr
    have hdeclared := hr.declared
    rw [Declared, keys_ruleForm] at hdeclared
    exact ⟨_, _, hr.kind, by cases r.kind <;> decide, rfl,
      hasHalf_of_known (by cases r.kind <;> decide) hdeclared,
      ⟨hr.subject, hr.note, rfl, hr.constraint⟩, (), closed_eq_good_iff.2 hdeclared⟩

/-- A list of tables is read table by table. -/
theorem listOf_iff_listed {shape : Shape α} {Of : List (String × Value) → α → Prop} {results : List α}
    (h : Plain v) (hshape : ∀ w a, Plain w →
      (shape w = .good a ↔ ∃ fields, w = .dict (entriesOf fields) ∧ Of fields a)) :
    listOf shape v = .good results ↔ ∃ items, v = .list items ∧ Listed Of items results := by
  rw [listOf_eq_good_iff h]
  refine exists_congr fun items => and_congr_right ?_
  rintro rfl
  exact forall₂_congr_of_mem fun w hw a => hshape w a (h.of_member hw)

/-- A list of tables is read table by table. -/
theorem exists_listed_iff {shape : Shape α} {Of : List (String × Value) → α → Prop} {results : List α}
    (h : Plain (.dict (entriesOf fields))) (hshape : ∀ w a, Plain w →
      (shape w = .good a ↔ ∃ fields, w = .dict (entriesOf fields) ∧ Of fields a)) :
    (∃ v, (key, v) ∈ fields ∧ listOf shape v = .good results) ↔
      ∃ items, (key, .list items) ∈ fields ∧ Listed Of items results := by
  constructor
  · rintro ⟨v, hmem, hgood⟩
    obtain ⟨items, rfl, hlisted⟩ := (listOf_iff_listed (h.of_mem hmem) hshape).1 hgood
    exact ⟨items, hmem, hlisted⟩
  · rintro ⟨items, hmem, hlisted⟩
    exact ⟨_, hmem, (listOf_iff_listed (h.of_mem hmem) hshape).2 ⟨items, rfl, hlisted⟩⟩

/-- What is read as a catalog document has its fields as they stand in the table. -/
theorem catalogDocument_eq_good_iff {d : CatalogDocument} (h : Plain (.dict (entriesOf fields))) :
    catalogDocument (.dict (entriesOf fields)) = .good d ↔ CatalogOf fields d := by
  have hcapabilities {capabilities : List Capability} :
      required (entriesOf fields) "capabilities" (listOf capability) = .good capabilities ↔ _ :=
    (required_eq_good_iff h).trans (exists_listed_iff h fun _ _ hw => capability_eq_good_iff hw)
  have hrules {rules : List Rule} :
      optional (entriesOf fields) "rules" [] (listOf rule) = .good rules ↔ _ :=
    (optional_eq_good_iff h).trans (or_congr_left (exists_listed_iff h fun _ _ hw => rule_eq_good_iff hw))
  rw [catalogDocument, record_entriesOf, Checked.seqLeft_eq_good_iff, Checked.seq_eq_good_iff]
  simp only [Checked.exists_seq_good, Checked.exists_map_good, name_iff_mem h, hcapabilities, hrules,
    required_iff_mem h fun _ _ => literal_eq_good_iff,
    optional_iff_given h fun _ hv => nullable_text_eq_good_iff hv]
  constructor
  · rintro ⟨-, ⟨version, hversion, _, hcontract, id, hid, capabilities, hlisted, rules, hruled,
      description, hdescription, rfl⟩, _, hclosed⟩
    exact ⟨hversion, hcontract.1, hid, hlisted, hruled, hdescription, closed_eq_good_iff.1 hclosed⟩
  · intro hd
    exact ⟨hasHalf_of_known (by decide) hd.declared, ⟨_, hd.version, (), ⟨hd.contract, by decide⟩, _,
      hd.catalogId, _, hd.capabilities, _, hd.rules, _, hd.description, rfl⟩, (),
      closed_eq_good_iff.2 hd.declared⟩

theorem conforms_of_declared {form : Form} (hdeclared : Declared form fields)
    (htakes : ∀ e ∈ form, ∀ v, (e.1, v) ∈ fields → e.2.Takes v) : Conforms form fields := by
  rintro ⟨key, v⟩ hf
  obtain ⟨⟨_, kind⟩, he, rfl⟩ := List.mem_map.1 (hdeclared _ hf)
  exact ⟨kind, he, htakes _ he v hf⟩

theorem Plain.takes {kind : FieldKind} (h : Plain (.dict (entriesOf fields))) (hmem : (key, v) ∈ fields)
    (hv : kind.Takes v) : ∀ w, (key, w) ∈ fields → kind.Takes w :=
  fun _ hw => h.eq_of_mem hmem hw ▸ hv

theorem Given.takes {kind : FieldKind} {raw : α → Value} {default a : α}
    (hgiven : Given fields key raw default a) (h : Plain (.dict (entriesOf fields)))
    (ha : kind.Takes (raw a)) : ∀ w, (key, w) ∈ fields → kind.Takes w := by
  rcases hgiven with hmem | ⟨hnone, _⟩
  · exact h.takes hmem ha
  · exact fun w hw => absurd hw (hnone w)

theorem CapabilityOf.conforms {c : Capability} (hc : CapabilityOf fields c)
    (h : Plain (.dict (entriesOf fields))) : Conforms capabilityForm fields := by
  apply conforms_of_declared hc.declared
  simp only [capabilityForm, List.forall_mem_cons]
  exact ⟨h.takes hc.name.1 ⟨_, rfl⟩, hc.kind.takes h ⟨_, rfl⟩, hc.default.takes h ⟨_, rfl⟩,
    hc.owner.takes h ⟨_, rfl⟩, hc.group.takes h ⟨_, rfl⟩, hc.description.takes h ⟨_, rfl⟩, nofun⟩

theorem ConstraintOf.takes {c : Constraint} (hc : ConstraintOf fields c)
    (h : Plain (.dict (entriesOf fields))) :
    ∀ e ∈ constraintForm c.kind, ∀ v, (e.1, v) ∈ fields → e.2.Takes v := by
  cases c with
  | requires target =>
    change ∀ e ∈ [("target", FieldKind.text)], _
    rw [List.forall_mem_singleton]
    exact h.takes hc.1 ⟨_, rfl⟩
  | requiresAny targets =>
    change ∀ e ∈ [("targets", FieldKind.texts)], _
    rw [List.forall_mem_singleton]
    exact h.takes hc.1 ⟨_, rfl⟩
  | excludes target =>
    change ∀ e ∈ [("target", FieldKind.text)], _
    rw [List.forall_mem_singleton]
    exact h.takes hc.1 ⟨_, rfl⟩
  | range minimum maximum =>
    change ∀ e ∈ [("minimum", FieldKind.number), ("maximum", FieldKind.number)], _
    rw [List.forall_mem_cons, List.forall_mem_singleton]
    exact ⟨h.takes hc.1 ⟨_, rfl⟩, h.takes hc.2 ⟨_, rfl⟩⟩

theorem RuleOf.conforms {r : Rule} (hr : RuleOf fields r) (h : Plain (.dict (entriesOf fields))) :
    Conforms (ruleForm r.kind) fields := by
  apply conforms_of_declared hr.declared
  rw [ruleForm, List.forall_mem_append]
  refine ⟨?_, hr.constraint.takes h⟩
  simp only [List.forall_mem_cons]
  exact ⟨h.takes hr.subject.1 ⟨_, rfl⟩, hr.note.takes h ⟨_, rfl⟩, h.takes hr.kind ⟨_, rfl⟩, nofun⟩

/-- A list of tables that are read one by one is a list of tables. -/
theorem Listed.takes {Of : List (String × Value) → α → Prop} {items : List Value} {results : List α}
    (h : Listed Of items results) : FieldKind.tables.Takes (.list items) := by
  induction h with
  | nil => exact ⟨[], rfl⟩
  | cons hhead _ ih =>
    obtain ⟨own, rfl, _⟩ := hhead
    obtain ⟨tables, htables⟩ := ih
    rw [Value.list.inj htables]
    exact ⟨own :: tables, rfl⟩

/-- A document that is read has declared keys only, in all its tables. -/
theorem CatalogOf.conforms {d : CatalogDocument} (hd : CatalogOf fields d)
    (h : Plain (.dict (entriesOf fields))) : Conforms documentForm fields := by
  apply conforms_of_declared hd.declared
  simp only [documentForm, List.forall_mem_cons]
  obtain ⟨_, hcapabilities, hlisted⟩ := hd.capabilities
  refine ⟨h.takes hd.version.1 ⟨_, rfl⟩, h.takes hd.contract ⟨_, rfl⟩, h.takes hd.catalogId.1 ⟨_, rfl⟩,
    h.takes hcapabilities hlisted.takes, ?_, hd.description.takes h ⟨_, rfl⟩, nofun⟩
  rcases hd.rules with ⟨_, hrules, hruled⟩ | ⟨hnone, _⟩
  · exact h.takes hrules hruled.takes
  · exact fun w hw => absurd hw (hnone w)

theorem Listed.exists_of_mem {Of : List (String × Value) → α → Prop} {items : List Value}
    {results : List α} {own : List (String × Value)} (h : Listed Of items results)
    (hown : .dict (entriesOf own) ∈ items) : ∃ a, Of own a := by
  induction h with
  | nil => cases hown
  | cons hhead _ ih =>
    rcases List.mem_cons.1 hown with hsame | hrest
    · obtain ⟨_, rfl, hread⟩ := hhead
      rw [entriesOf_injective (Value.dict.inj hsame)]
      exact ⟨_, hread⟩
    · exact ih hrest

/-- The tables of a document, with the fields that are declared for each. -/
inductive Part (fields : List (String × Value)) : Form → List (String × Value) → Prop where
  | document : Part fields documentForm fields
  | capability {items : List Value} {own : List (String × Value)}
      (hitems : ("capabilities", .list items) ∈ fields) (hown : .dict (entriesOf own) ∈ items) :
      Part fields capabilityForm own
  | rule {items : List Value} {own : List (String × Value)} {kind : RuleKind}
      (hitems : ("rules", .list items) ∈ fields) (hown : .dict (entriesOf own) ∈ items)
      (hkind : ("kind", .text kind.name) ∈ own) : Part fields (ruleForm kind) own

/-- Each table of a document that is read has the fields that are declared for it, as they stand. -/
theorem CatalogOf.conforms_of_part {d : CatalogDocument} {form : Form} {own : List (String × Value)}
    (hd : CatalogOf fields d) (h : Plain (.dict (entriesOf fields))) (hpart : Part fields form own) :
    Conforms form own := by
  cases hpart with
  | document => exact hd.conforms h
  | capability hitems hown =>
    obtain ⟨items, hmem, hlisted⟩ := hd.capabilities
    cases h.eq_of_mem hitems hmem
    obtain ⟨c, hc⟩ := hlisted.exists_of_mem hown
    exact hc.conforms ((h.of_mem hmem).of_member hown)
  | @rule _ _ kind hitems hown hkind =>
    rcases hd.rules with ⟨items, hmem, hlisted⟩ | ⟨hnone, _⟩
    · cases h.eq_of_mem hitems hmem
      obtain ⟨r, hr⟩ := hlisted.exists_of_mem hown
      have hplain := (h.of_mem hmem).of_member hown
      have hsame : kind = r.kind := by
        have hname := Value.text.inj (hplain.eq_of_mem hkind hr.kind)
        rw [← Option.some_inj, ← RuleKind.ofName?_name, ← RuleKind.ofName?_name, hname]
      rw [hsame]
      exact hr.conforms hplain
    · exact absurd hitems (hnone _)

/-- A document is read without loss, or not at all: its tables give the capabilities and the rules in their
order, each field that is there counts as it stands, and each one left out as its default. With a key that
is not declared, or a value that is not taken as it stands, in any of its tables the document is refused. -/
theorem catalogDocument_transcribes (h : Plain (.dict (entriesOf fields))) :
    (∀ d, catalogDocument (.dict (entriesOf fields)) = .good d ↔ CatalogOf fields d) ∧
      ∀ form own, Part fields form own → ¬ Conforms form own →
        ∃ issues, catalogDocument (.dict (entriesOf fields)) = .bad issues := by
  refine ⟨fun d => catalogDocument_eq_good_iff h, fun form own hpart hbroken => ?_⟩
  cases hread : catalogDocument (.dict (entriesOf fields)) with
  | good d =>
    have hd := (catalogDocument_eq_good_iff h).1 hread
    exact absurd (hd.conforms_of_part h hpart) hbroken
  | bad issues => exact ⟨issues, rfl⟩

/-- A catalog of one parameter with a range, whose upper bound stands under a key. -/
def rangeFields (key : String) : List (String × Value) :=
  [("schema_version", .text "0.1.0"), ("contract_type", .text "capability_catalog"),
    ("catalog_id", .text "demo"),
    ("capabilities", .list [.dict (entriesOf
      [("name", .text "ROUNDS"), ("kind", .text "parameter"), ("default", .int 10)])]),
    ("rules", .list [.dict (entriesOf
      [("kind", .text "range"), ("subject", .text "ROUNDS"), ("minimum", .int 8), (key, .int 14)])])]

theorem plain_rangeFields {key : String}
    (hkey : key ∉ ["kind", "subject", "minimum"]) : Plain (.dict (entriesOf (rangeFields key))) := by
  have hparameter : Plain (.dict (entriesOf
      [("name", .text "ROUNDS"), ("kind", .text "parameter"), ("default", .int 10)])) :=
    .table (by decide) (by simp [Plain.text, Plain.int])
  have hrange : Plain (.dict (entriesOf
      [("kind", .text "range"), ("subject", .text "ROUNDS"), ("minimum", .int 8), (key, .int 14)])) := by
    refine .table ?_ (by simp [Plain.text, Plain.int])
    simp only [List.mem_cons, not_or] at hkey
    simp [hkey, Ne.symm, eq_comm]
  exact .table (by simp [rangeFields]) (by simp [rangeFields, Plain.text, Plain.list, hparameter, hrange])

/-- A misspelt bound refuses the catalog, which is read as it stands otherwise. -/
theorem rangeFields_transcribed :
    Plain (.dict (entriesOf (rangeFields "maximum"))) ∧ Plain (.dict (entriesOf (rangeFields "maximun"))) ∧
      CatalogOf (rangeFields "maximum")
        ⟨"0.1.0", "demo", [⟨"ROUNDS", .parameter, .number 10, none, none, none⟩],
          [⟨"ROUNDS", none, .range 8 14⟩], none⟩ ∧
      ∃ issues, catalogDocument (.dict (entriesOf (rangeFields "maximun"))) = .bad issues := by
  have hplain : Plain (.dict (entriesOf (rangeFields "maximum"))) := plain_rangeFields (by decide)
  have hmisspelt : Plain (.dict (entriesOf (rangeFields "maximun"))) := plain_rangeFields (by decide)
  refine ⟨hplain, hmisspelt, ((catalogDocument_transcribes hplain).1 _).1 rfl, ?_⟩
  refine (catalogDocument_transcribes hmisspelt).2 (ruleForm .range) _
    (.rule (.tail _ (.tail _ (.tail _ (.tail _ (.head _))))) (.head _) (.head _)) fun hc => ?_
  obtain ⟨_, hmem, _⟩ := hc ("maximun", .int 14) (by simp)
  simp [ruleForm, constraintForm] at hmem

end Reading

end Document
end FeatureCert
