import FeatureCert.Proofs.Consistent
import FeatureCert.Proofs.Endings
import FeatureCert.Proofs.Shelved

/-!
Catalog files that cannot be used. What a command foresees of them ends it with a code of its own: a missing
file, a text that is no document, a document of another form, and tables that are not consistent. What it
does not foresee is told apart here.
-/
namespace FeatureCert

open FeatureCert.Log FeatureCert.Document FeatureCert.Text

namespace Command

variable {files : Files} {path : Path}

/-- The tables of a catalog file are those of its document. -/
theorem result_buildTables (files : Files) (path : Path) :
    (buildTables files (some path)).result =
      (Shelf.load catalogKind files {} path).result >>= fun p =>
        (Tables.build p.1.document.catalogId p.1.document.capabilities p.1.document.rules).result := by
  have hbuild (p : Loaded CatalogDocument × Document.Shelf CatalogDocument) :
      (Tables.build p.1.document.catalogId p.1.document.capabilities p.1.document.rules).Steady :=
    Tables.steady_build _ _ _
  rw [buildTables, Traced.result_bind fun _ => (Shelf.steady_load _ _ _ _).bind hbuild,
    Traced.result_bind hbuild]
  rfl

/-- A failure that a command foresees of a catalog. -/
def Told (e : Failure) : Prop := ∃ text, brokenCatalog? e = some text

/-- Of a text that YAML cannot read, only a malformed one is foreseen; a scalar that its tag does not fit is
not. -/
theorem told_parse_iff {source text : String} :
    (∀ e, catalogKind.parse source text = .error e → Told e) ↔
      ∀ fault, Yaml.read text = .error fault → fault = .malformed := by
  unfold Kind.parse
  cases Yaml.read text with
  | error fault =>
    cases fault with
    | malformed => exact iff_of_true (by rintro _ ⟨⟩; exact ⟨_, rfl⟩) (by simp)
    | _ =>
      refine iff_of_false (fun h => ?_) fun h => ?_
      · obtain ⟨_, ⟨⟩⟩ := h _ rfl
      · cases h _ rfl
  | ok v =>
    refine iff_of_true ?_ (by simp)
    dsimp only
    split
    · rintro _ ⟨⟩
      exact ⟨_, rfl⟩
    · split
      · rintro _ ⟨⟩
      · rintro _ ⟨⟩
        exact ⟨_, rfl⟩

/-- Octets that are a text, of which YAML makes a value or which is no YAML at all. -/
def Readable (octets : List UInt8) : Prop :=
  ∃ text, textOf? octets = some text ∧
    ∀ fault, Yaml.read (String.ofList (foldLineEnds text.toList)) = .error fault → fault = .malformed

/-- When a command foresees whatever may be wrong with a catalog file: its path can be looked up, there is
no directory, the octets are readable, and a defect of the tables can be worded. -/
structure Foreseen (files : Files) (path : Path) : Prop where
  place : Files.textFault? (Path.placeText (path.place files.base)) = none
  look : ∀ fault, files.seek path.text ≠ .error fault
  file : files.seek path.text ≠ .ok (some .directory)
  octets : ∀ octets, files.seek path.text = .ok (some (.file octets)) → Readable octets
  defect : ∀ d, Shelf.readFile catalogKind files path = .ok d →
    (Tables.build d.catalogId d.capabilities d.rules).result ≠ .error .digitLimit

/-- Octets that are no text are not foreseen. -/
theorem told_textOf_iff {octets : List UInt8} (source : String) :
    (∀ e, ((Files.textOf (.file octets)).mapError Failure.unreadable >>= catalogKind.parse source) =
        .error e → Told e) ↔ Readable octets := by
  rw [Files.textOf, Readable]
  cases textOf? octets with
  | none =>
    refine iff_of_false (fun h => ?_) (by simp)
    obtain ⟨_, ⟨⟩⟩ := h _ rfl
  | some text =>
    simp only [Option.some.injEq, exists_eq_left']
    exact told_parse_iff

/-- A missing file is foreseen, but neither a directory nor a path that cannot be looked up. -/
theorem told_readFile_iff :
    (∀ e, Shelf.readFile catalogKind files path = .error e → Told e) ↔
      (∀ fault, files.seek path.text ≠ .error fault) ∧
      files.seek path.text ≠ .ok (some .directory) ∧
      ∀ octets, files.seek path.text = .ok (some (.file octets)) → Readable octets := by
  unfold Shelf.readFile
  rcases files.seek path.text with fault | _ | _ | octets
  · refine iff_of_false (fun h => ?_) fun h => h.1 fault rfl
    obtain ⟨_, ⟨⟩⟩ := h _ rfl
  · exact iff_of_true (by rintro _ ⟨⟩; exact ⟨_, rfl⟩) (by simp)
  · refine iff_of_false (fun h => ?_) fun h => h.2.1 rfl
    obtain ⟨_, ⟨⟩⟩ := h _ rfl
  · refine (told_textOf_iff path.text).trans ⟨fun h => ⟨nofun, nofun, ?_⟩, ?_⟩
    · rintro _ ⟨⟩
      exact h
    · exact fun h => h.2.2 octets rfl

/-- Tables are refused in words, unless a number is over the digit limit. -/
theorem told_build_iff {d : CatalogDocument} :
    (∀ e, (Tables.build d.catalogId d.capabilities d.rules).result = .error e → Told e) ↔
      (Tables.build d.catalogId d.capabilities d.rules).result ≠ .error .digitLimit := by
  constructor
  · intro h he
    obtain ⟨_, ⟨⟩⟩ := h _ he
  · intro h e he
    obtain ⟨defect, rfl, _⟩ := Tables.build_error he
    cases hmessage : defect.message with
    | ok text =>
      rw [Failure.ofDefect_of_message hmessage]
      exact ⟨text, by simp [brokenCatalog?, Failure.report?, Failure.message?, hmessage, Except.toOption]⟩
    | error limit =>
      rw [Failure.ofDefect, hmessage] at he
      exact absurd he h

/-- From an empty shelf a catalog is always read from its file. -/
theorem result_buildTables_of_place
    (h : Files.textFault? (Path.placeText (path.place files.base)) = none) :
    (buildTables files (some path)).result =
      Shelf.readFile catalogKind files path >>= fun d =>
        (Tables.build d.catalogId d.capabilities d.rules).result := by
  rw [result_buildTables, Shelf.result_load_of_new h rfl]
  cases Shelf.readFile catalogKind files path <;> rfl

/-- The stages of a build are foreseen one by one: path, file, text, document and tables. -/
theorem told_buildTables_iff :
    (∀ e, (buildTables files (some path)).result = .error e → Told e) ↔ Foreseen files path := by
  cases hplace : Files.textFault? (Path.placeText (path.place files.base)) with
  | some fault =>
    rw [result_buildTables, Shelf.result_load_of_fault hplace]
    refine iff_of_false (fun h => ?_) fun h => ?_
    · obtain ⟨_, ⟨⟩⟩ := h _ rfl
    · rw [h.place] at hplace
      cases hplace
  | none =>
    rw [result_buildTables_of_place hplace, forall_error_bind, told_readFile_iff]
    simp only [told_build_iff]
    constructor
    · rintro ⟨⟨hlook, hfile, hoctets⟩, hdefect⟩
      exact ⟨hplace, hlook, hfile, hoctets, hdefect⟩
    · intro h
      exact ⟨⟨h.look, h.file, h.octets⟩, h.defect⟩

/-- Loading the tables of a catalog file returns them or ends with the code of a broken catalog exactly where
all that may be wrong is foreseen. Anything else ends the run with a failure that nothing expects. -/
theorem loadTables_ends_iff {context : Context} {option : Option Path}
    (hpath : (option <|> context.settings.catalogPath?) = some path) (console : Console) :
    let result := ((loadTables context option).outcome console).1
    ((∃ tables, result = .ok tables) ∨ result = .error (.exit catalogCode) ↔
      Foreseen context.files path) ∧
    (¬ Foreseen context.files path → ∃ failure, result = .error (.fault failure)) := by
  intro result
  have hresult : result = _ := (comes_loadTables context option console).1
  rw [hpath] at hresult
  rw [← told_buildTables_iff, hresult]
  cases (buildTables context.files (some path)).result with
  | ok tables => exact ⟨iff_of_true (.inl ⟨tables, rfl⟩) (by simp), by simp⟩
  | error e =>
    cases htold : brokenCatalog? e with
    | some text =>
      have hall : ∀ e', Except.error (α := Tables) e = .error e' → Told e' := by
        rintro _ ⟨⟩
        exact ⟨text, htold⟩
      exact ⟨iff_of_true (.inr (by simp [htold])) hall, fun h => absurd hall h⟩
    | none =>
      refine ⟨iff_of_false (by simp [htold]) fun h => ?_, fun _ => ⟨e, by simp [htold]⟩⟩
      obtain ⟨text, htext⟩ := h e rfl
      rw [htold] at htext
      cases htext

/-- A missing catalog file is foreseen. -/
theorem loadTables_ends_of_missing :
    let context : Context := ⟨{}, { base := ["work"] }, {}⟩
    let path : Path := .ofText "c.yaml"
    let result := ((loadTables context (some path)).outcome { timestamp := "" }).1
    (some path <|> context.settings.catalogPath?) = some path ∧ Foreseen context.files path ∧
      ((∃ tables, result = .ok tables) ∨ result = .error (.exit catalogCode) ↔
        Foreseen context.files path) ∧
      (¬ Foreseen context.files path → ∃ failure, result = .error (.fault failure)) := by
  intro context path result
  have htext : path.text = "c.yaml" := rfl
  have hseek : context.files.seek path.text = .ok none := by
    rw [htext]
    exact Files.seek_of_relative rfl rfl (by simp) (by decide)
  have hread : Shelf.readFile catalogKind context.files path =
      .error (.noFile "YAML file" path.text) := by
    rw [Shelf.readFile, hseek]
    rfl
  have hforeseen : Foreseen context.files path :=
    ⟨by decide, by simp [hseek], by simp [hseek], by simp [hseek], by simp [hread]⟩
  exact ⟨rfl, hforeseen, loadTables_ends_iff rfl _⟩

/-- A catalog file that is no text ends the run with a failure that is not foreseen. -/
theorem loadTables_fault_of_octets :
    let context : Context := ⟨{}, { base := [], entries := [(["c.yaml"], .file [0xff])] }, {}⟩
    let result := ((loadTables context (some (.ofText "c.yaml"))).outcome { timestamp := "" }).1
    ¬ ((∃ tables, result = .ok tables) ∨ result = .error (.exit catalogCode)) ∧
      result = .error (.fault (.unreadable .badEncoding)) := by
  intro context result
  have htext : (Path.ofText "c.yaml").text = "c.yaml" := rfl
  have hseek : context.files.seek (Path.ofText "c.yaml").text = .ok (some (.file [0xff])) :=
    Files.seek_of_relative rfl rfl (by simp [htext]) (by decide)
  have hnone : Files.textOf (.file [0xff]) = .error .badEncoding := by cbv
  have hread : Shelf.readFile catalogKind context.files (.ofText "c.yaml") =
      .error (.unreadable .badEncoding) := by
    rw [Shelf.readFile, hseek]
    change (Files.textOf (.file [0xff])).mapError Failure.unreadable >>= _ = _
    rw [hnone]
    rfl
  have hbuild : (buildTables context.files (some (.ofText "c.yaml"))).result =
      .error (.unreadable .badEncoding) := by
    rw [result_buildTables_of_place (by decide), hread]
    rfl
  have hresult : result = .error (.fault (.unreadable .badEncoding)) := by
    have hpath : (some (.ofText "c.yaml") <|> context.settings.catalogPath?) =
        some (.ofText "c.yaml") := rfl
    have hcomes := (comes_loadTables context (some (.ofText "c.yaml")) { timestamp := "" }).1
    rw [hpath, hbuild] at hcomes
    exact hcomes
  rw [hresult]
  exact ⟨by simp, rfl⟩

end Command
end FeatureCert
