import FeatureCert.Proofs.Fields
import FeatureCert.Settings.Holder

/-!
Settings, told by where each of them comes from. An override beats the environment, this the files of
variables, and these what is declared; of several variables the last one counts, in whatever case its name is
written. Settings are made where every one of them fits, and else there are none.
-/
namespace FeatureCert

/-- What one property tells, or where it tells nothing, another. -/
def Else (P Q : α → Prop) (a : α) : Prop := P a ∨ (∀ b, ¬ P b) ∧ Q a

theorem orElse_eq_some_iff {P Q : α → Prop} {x y : Option α} {a : α} (hx : ∀ a, x = some a ↔ P a)
    (hy : ∀ a, y = some a ↔ Q a) : (x <|> y) = some a ↔ Else P Q a := by
  simp only [Else, ← hx, ← hy]
  cases x <;> simp

namespace Settings

open FeatureCert.Document FeatureCert.Text

/-! ### Options of the search -/

/-- An option that asks for nothing where it is null. -/
def OptionOf (overrides : List (String × Value)) (name : String) (Of : Value → α → Prop) (default a : α) :
    Prop :=
  GivenOr (fun v => FirstOf overrides name v ∧ v.kindName ≠ "NoneType") Of default a

inductive PathsOf : Value → List String → Prop where
  | null : PathsOf .null []
  | text (path : String) : PathsOf (.text path) [path]
  | list (paths : List String) : PathsOf (.list (paths.map .text)) paths
  | dict (h : entries.map (·.1) = paths.map .text) : PathsOf (.dict entries) paths

/-- The search that options among overrides ask for. -/
structure Asks (overrides : List (String × Value)) (search : Search) : Prop where
  lead : OptionOf overrides "_env_prefix" (fun v lead => v = .text lead) "CRYPTOCONF_" search.lead
  paths : GivenOr (FirstOf overrides "_env_file") PathsOf [".env"] search.paths
  matchCase : OptionOf overrides "_case_sensitive" (fun v b => b = Search.isOn v) false search.matchCase
  skipEmpty : OptionOf overrides "_env_ignore_empty" (fun v b => b = Search.isOn v) false search.skipEmpty
  nullWord : OptionOf overrides "_env_parse_none_str" (fun v o => ∃ word, v = .text word ∧ o = some word) none
    search.nullWord

/-! ### Values of fields -/

/-- A name is that of a field, in any case if the search looks away from it. -/
def Names (search : Search) (name field : String) : Prop :=
  if search.matchCase = true then name = field else lower name.toList = lower field.toList

/-- The override of a field: one by its very name, or else the first by its name in another case. -/
def OverrideOf (search : Search) (overrides : List (String × Value)) (field : String) : Value → Prop :=
  Else (FirstOf overrides field) fun v => ∃ before name after,
    overrides = before ++ (name, v) :: after ∧ Names search name field ∧ ∀ o ∈ before, ¬ Names search o.1 field

/-- A variable gives a field, unless it is empty and the search passes over such. -/
def Search.Gives (search : Search) (field : String) (b : String × Option String) : Prop :=
  Names search b.1 (search.lead ++ field) ∧ ¬ (search.skipEmpty = true ∧ b.2 = some "")

/-- The value of the last variable that gives a field, in which one word may stand for null. -/
def VariableOf (search : Search) (bindings : List (String × Option String)) (field : String) (v : Value) :
    Prop :=
  ∃ before name text after, bindings = before ++ (name, some text) :: after ∧
    search.Gives field (name, some text) ∧ (∀ b ∈ after, ¬ search.Gives field b) ∧
    (search.nullWord = some text ∧ v = .null ∨ search.nullWord ≠ some text ∧ v = .text text)

/-- The value of a field: its override, or else its variable in the environment, or else that in the files. -/
def ValueOf (search : Search) (environment : Environment) (assignments : List Dotenv.Assignment)
    (overrides : List (String × Value)) (field : String) : Value → Prop :=
  Else (OverrideOf search overrides field) <|
    Else (VariableOf search (environment.bindings.map fun b => (b.1, some b.2)) field)
      (VariableOf search assignments field)

/-- What a file of variables assigns; a path that names no file assigns nothing. -/
inductive Assigns (environment : Environment) (files : Files) (path : String) :
    List Dotenv.Assignment → Prop where
  | nothing (h : files.seek (Path.ofText (environment.expandHome path)).text = .ok none) :
    Assigns environment files path []
  | directory (h : files.seek (Path.ofText (environment.expandHome path)).text = .ok (some .directory)) :
    Assigns environment files path []
  | file (h : files.seek (Path.ofText (environment.expandHome path)).text = .ok (some (.file octets)))
    (hread : Files.textOf (.file octets) = .ok content) :
    Assigns environment files path (Dotenv.read environment content).assignments

/-- A path of a catalog file, in which variables and then the home directory are put in. -/
inductive PathOf (environment : Environment) : Value → Option String → Prop where
  | null : PathOf environment .null none
  | text (h : TextOf v path) :
    PathOf environment v (some (environment.expandHome (environment.expandVariables path)))

/-- Settings of which every one fits the value that its field has, and else is the declared one. -/
structure Fits (environment : Environment) (Given : String → Value → Prop) (s : Settings) : Prop where
  verbosity : GivenOr (Given "log_level") (fun v a => v = .text a.name) Verbosity.warning s.verbosity
  logStyle : GivenOr (Given "log_format") (fun v a => v = .text a.name) Style.text s.logStyle
  catalogFile : GivenOr (Given "catalog_file") (PathOf environment) none s.catalogFile
  headerLead : GivenOr (Given "header_prefix") TextOf "MBEDCRYPTO_" s.headerLead
  environmentLead : GivenOr (Given "env_selection_prefix") TextOf "CRYPTOCONF_SET_" s.environmentLead
  reportStyle : GivenOr (Given "report_format") (fun v a => v = .text a.name) Style.text s.reportStyle

/-- Settings that an environment and files make, with overrides. -/
def MadeFrom (environment : Environment) (files : Files) (overrides : List (String × Value)) (s : Settings) :
    Prop :=
  ∃ search contents, Asks overrides search ∧
    List.Forall₂ (Assigns environment files) search.paths contents ∧
    Fits environment (ValueOf search environment contents.flatten overrides) s

variable {search : Search} {environment : Environment} {files : Files} {overrides : List (String × Value)}
  {name field : String} {v : Value} {a default : α} {Given : Value → Prop} {Of : Value → α → Prop}
  {x : Option Value}

def option? (overrides : List (String × Value)) (name : String) : Option Value :=
  (overrides.find? (·.1 == name)).map (·.2)

/-- The first override of a name, unless it is null. -/
def asked? (overrides : List (String × Value)) (name : String) : Option Value :=
  (option? overrides name).filter fun v => v.kindName != "NoneType"

theorem option?_eq_some_iff : option? overrides name = some v ↔ FirstOf overrides name v :=
  find?_eq_some_iff_firstOf fun _ => beq_iff_eq

theorem asked?_eq_some_iff :
    asked? overrides name = some v ↔ FirstOf overrides name v ∧ v.kindName ≠ "NoneType" := by
  rw [asked?, Option.filter_eq_some_iff, option?_eq_some_iff, bne_iff_ne]

/-- What is read of a value that may be missing. -/
theorem givenOr_read_iff {read : Value → Except Failure α} (hx : ∀ v, x = some v ↔ Given v)
    (hread : ∀ v, read v = .ok a ↔ Of v a) :
    (x.map read).getD (.ok default) = .ok a ↔ GivenOr Given Of default a := by
  rw [givenOr_iff hx]
  cases x <;> simp [hread, eq_comm]

theorem textOption_eq_ok_iff {s : String} : Search.textOption v = .ok s ↔ v = .text s := by
  cases v <;> simp [Search.textOption]

theorem mapM_textOption_eq_ok_iff {vs : List Value} {texts : List String} :
    vs.mapM Search.textOption = .ok texts ↔ vs = texts.map .text := by
  rw [mapM_eq_ok_iff, ← List.forall₂_eq_eq_eq, List.forall₂_map_right_iff]
  simp only [textOption_eq_ok_iff]

/-- Paths are given singly, in a list or as the keys of a table; null gives none, and so no file is read. -/
theorem pathsOption_eq_ok_iff {paths : List String} : Search.pathsOption v = .ok paths ↔ PathsOf v paths := by
  cases v with
  | null =>
    constructor
    · rintro ⟨⟩
      exact .null
    · rintro ⟨⟩
      rfl
  | text s =>
    constructor
    · rintro ⟨⟩
      exact .text s
    · rintro ⟨⟩
      rfl
  | list items =>
    rw [Search.pathsOption, mapM_textOption_eq_ok_iff]
    constructor
    · rintro rfl
      exact .list paths
    · rintro ⟨⟩
      rfl
  | dict entries =>
    rw [Search.pathsOption, mapM_textOption_eq_ok_iff]
    constructor
    · exact .dict
    · intro h
      cases h with
      | dict h => exact h
  | _ => exact iff_of_false nofun nofun

theorem asked?_read_eq_ok_iff {read : Value → Except Failure α} (hread : ∀ v, read v = .ok a ↔ Of v a) :
    ((asked? overrides name).map read).getD (.ok default) = .ok a ↔ OptionOf overrides name Of default a :=
  givenOr_read_iff (fun _ => asked?_eq_some_iff) hread

theorem asked?_isOn_iff {b : Bool} :
    ((asked? overrides name).map Search.isOn).getD false = b ↔
      OptionOf overrides name (fun v b => b = Search.isOn v) false b := by
  rw [OptionOf, givenOr_iff fun _ => asked?_eq_some_iff]
  cases asked? overrides name <;> simp [eq_comm]

/-- All options that may be null are read in one way. -/
theorem ofOverrides_eq (overrides : List (String × Value)) : Search.ofOverrides overrides = do
    let lead ← ((asked? overrides "_env_prefix").map Search.textOption).getD (.ok "CRYPTOCONF_")
    let paths ← ((option? overrides "_env_file").map Search.pathsOption).getD (.ok [".env"])
    let nullWord ←
      ((asked? overrides "_env_parse_none_str").map fun v => some <$> Search.textOption v).getD (.ok none)
    return {
      lead, paths, nullWord
      matchCase := ((asked? overrides "_case_sensitive").map Search.isOn).getD false
      skipEmpty := ((asked? overrides "_env_ignore_empty").map Search.isOn).getD false } := by
  unfold Search.ofOverrides
  simp only [← option?.eq_1, ← asked?.eq_1]
  cases asked? overrides "_env_parse_none_str" with
  | none => rfl
  | some v => simp

/-- A search is told by its options one by one. -/
theorem ofOverrides_eq_ok_iff : Search.ofOverrides overrides = .ok search ↔ Asks overrides search := by
  have hlead (lead : String) :
      ((asked? overrides "_env_prefix").map Search.textOption).getD (.ok "CRYPTOCONF_") = .ok lead ↔
        OptionOf overrides "_env_prefix" (fun v lead => v = .text lead) "CRYPTOCONF_" lead :=
    asked?_read_eq_ok_iff fun _ => textOption_eq_ok_iff
  have hpaths (paths : List String) :
      ((option? overrides "_env_file").map Search.pathsOption).getD (.ok [".env"]) = .ok paths ↔
        GivenOr (FirstOf overrides "_env_file") PathsOf [".env"] paths :=
    givenOr_read_iff (fun _ => option?_eq_some_iff) fun _ => pathsOption_eq_ok_iff
  have hword (o : Option String) :
      ((asked? overrides "_env_parse_none_str").map fun v => some <$> Search.textOption v).getD (.ok none) =
          .ok o ↔
        OptionOf overrides "_env_parse_none_str" (fun v o => ∃ word, v = .text word ∧ o = some word) none o :=
    asked?_read_eq_ok_iff fun v => by cases v <;> simp [Search.textOption, eq_comm]
  rw [ofOverrides_eq]
  simp only [bind_eq_ok_iff, hlead, hpaths, hword]
  constructor
  · rintro ⟨lead, hlead, paths, hpaths, nullWord, hnullWord, ⟨⟩⟩
    exact ⟨hlead, hpaths, asked?_isOn_iff.1 rfl, asked?_isOn_iff.1 rfl, hnullWord⟩
  · intro h
    refine ⟨_, h.lead, _, h.paths, _, h.nullWord, ?_⟩
    rw [asked?_isOn_iff.2 h.matchCase, asked?_isOn_iff.2 h.skipEmpty]
    rfl

/-! ### Fields -/

theorem names_iff : search.names name field = true ↔ Names search name field := by
  rw [Search.names, Names]
  split <;> simp [String.ofList_inj]

/-- An override by the very name comes first, even where one in another case stands in front of it. -/
theorem override?_eq_some_iff :
    override? search overrides field = some v ↔ OverrideOf search overrides field v := by
  have hany (v : Value) : (overrides.find? fun o => search.names o.1 field).map (·.2) = some v ↔
      ∃ before name after, overrides = before ++ (name, v) :: after ∧ Names search name field ∧
        ∀ o ∈ before, ¬ Names search o.1 field := by
    simp only [Option.map_eq_some_iff, List.find?_eq_some_iff_append, Bool.not_eq_true', ← Bool.not_eq_true,
      names_iff]
    constructor
    · rintro ⟨⟨name, _⟩, ⟨hname, before, after, rfl, hbefore⟩, rfl⟩
      exact ⟨before, name, after, rfl, hname, hbefore⟩
    · rintro ⟨before, name, after, rfl, hname, hbefore⟩
      exact ⟨(name, v), ⟨hname, before, after, rfl, hbefore⟩, rfl⟩
  have hmap (y z : Option (String × Value)) : (y <|> z).map (·.2) = (y.map (·.2) <|> z.map (·.2)) := by
    cases y <;> rfl
  rw [override?, hmap]
  exact orElse_eq_some_iff (fun _ => option?_eq_some_iff) hany

theorem gives_iff {b : String × Option String} :
    (!(search.skipEmpty && b.2 == some "") && search.names b.1 (search.lead ++ field)) = true ↔
      search.Gives field b := by
  rw [Bool.and_eq_true, names_iff, Bool.not_eq_true', ← Bool.not_eq_true, Bool.and_eq_true, beq_iff_eq,
    and_comm]
  rfl

/-- What is found from the end is what nothing follows. -/
theorem find?_reverse_eq_some_iff {β : Type} {p : β → Bool} {items : List β} {b : β} :
    items.reverse.find? p = some b ↔
      ∃ before after, items = before ++ b :: after ∧ p b = true ∧ ∀ c ∈ after, ¬ p c = true := by
  rw [List.find?_eq_some_iff_append]
  constructor
  · rintro ⟨hb, after, before, hsplit, hafter⟩
    refine ⟨before.reverse, after.reverse, ?_, hb, by simpa using hafter⟩
    rw [← List.reverse_reverse items, hsplit]
    simp
  · rintro ⟨before, after, rfl, hb, hafter⟩
    exact ⟨hb, after.reverse, before.reverse, by simp, by simpa using hafter⟩

/-- A variable without a value gives nothing, not even what one of its name before it gives. -/
theorem variable_eq_some_iff {bindings : List (String × Option String)} :
    search.variable_ bindings field = some v ↔ VariableOf search bindings field v := by
  have hword (text : String) : (if search.nullWord == some text then Value.null else .text text) = v ↔
      search.nullWord = some text ∧ v = .null ∨ search.nullWord ≠ some text ∧ v = .text text := by
    by_cases h : search.nullWord = some text <;> simp [h, @eq_comm _ v]
  have hfound (b : String × Option String) :
      ((bindings.filter fun b => !(search.skipEmpty && b.2 == some "")).reverse.find?
        fun b => search.names b.1 (search.lead ++ field)) = some b ↔
      ∃ before after, bindings = before ++ b :: after ∧ search.Gives field b ∧
        ∀ c ∈ after, ¬ search.Gives field c := by
    rw [← List.filter_reverse, List.find?_filter, find?_reverse_eq_some_iff]
    simp only [← gives_iff, Bool.and_eq_true, decide_eq_true_eq]
  rw [Search.variable_, Option.map_eq_some_iff]
  simp only [Option.bind_eq_some_iff, hfound, hword]
  constructor
  · rintro ⟨text, ⟨⟨name, _⟩, ⟨before, after, rfl, hgives, hafter⟩, rfl⟩, hv⟩
    exact ⟨before, name, text, after, rfl, hgives, hafter, hv⟩
  · rintro ⟨before, name, text, after, rfl, hgives, hafter, hv⟩
    exact ⟨text, ⟨(name, some text), ⟨before, after, rfl, hgives, hafter⟩, rfl⟩, hv⟩

theorem given?_eq_some_iff {sources : Sources} : given? sources overrides field = some v ↔
    ValueOf sources.search sources.environment sources.dotenv.assignments overrides field v := by
  refine orElse_eq_some_iff (fun _ => override?_eq_some_iff) fun _ => ?_
  exact orElse_eq_some_iff (fun _ => variable_eq_some_iff) fun _ => variable_eq_some_iff

/-! ### Settings -/

/-- A field that has a value must fit it; the default is for fields without one. -/
theorem field_eq_good_iff {sources : Sources} {shape : Shape α} (hshape : ∀ v, shape v = .good a ↔ Of v a) :
    Settings.field sources overrides name default shape = .good a ↔
      GivenOr (ValueOf sources.search sources.environment sources.dotenv.assignments overrides name) Of
        default a := by
  rw [Settings.field, givenOr_iff fun _ => given?_eq_some_iff]
  cases given? sources overrides name with
  | none => simp [eq_comm]
  | some v => simp [Checked.under_eq_good_iff, hshape]

/-- One of several names is taken where it is that of what is read. -/
theorem choice_name_eq_good_iff {ofName? : String → Option α} {word : String}
    (hname : ∀ s, ofName? s = some a ↔ s = word) (hword : hasHalf word = false) :
    choice .literalError ofName? v = .good a ↔ v = .text word := by
  simp only [choice_eq_good_iff, hname]
  constructor
  · rintro ⟨s, rfl, _, rfl⟩
    rfl
  · rintro rfl
    exact ⟨word, rfl, hword, rfl⟩

theorem choice_verbosity_eq_good_iff {a : Verbosity} :
    choice .literalError Verbosity.ofName? v = .good a ↔ v = .text a.name := by
  refine choice_name_eq_good_iff (fun s => ?_) (by cases a <;> decide)
  unfold Verbosity.ofName?
  split <;> cases a <;> simp_all [Verbosity.name]

theorem choice_style_eq_good_iff {a : Style} :
    choice .literalError Style.ofName? v = .good a ↔ v = .text a.name := by
  refine choice_name_eq_good_iff (fun s => ?_) (by cases a <;> decide)
  unfold Style.ofName?
  split <;> cases a <;> simp_all [Style.name]

theorem expandedPath_eq_good_iff {o : Option String} :
    expandedPath environment v = .good o ↔ PathOf environment v o := by
  change Option.map _ <$> nullable text v = .good o ↔ _
  simp only [Checked.map_eq_good_iff, nullable_text_eq_good_iff_openTextOf]
  constructor
  · rintro ⟨_, _ | h, rfl⟩
    · exact .null
    · exact .text h
  · rintro (_ | h)
    · exact ⟨none, .null, rfl⟩
    · exact ⟨some _, .text h, rfl⟩

/-- A file of variables may be missing, but not unreadable. -/
theorem exists_dotenvOf_iff {path : String} {assignments : List Dotenv.Assignment} :
    (∃ content, dotenvOf environment files path = .ok content ∧ content.assignments = assignments) ↔
      Assigns environment files path assignments := by
  unfold dotenvOf
  rcases hseek : files.seek (Path.ofText (environment.expandHome path)).text with fault | _ | _ | octets
  · refine iff_of_false (by simp) ?_
    rintro (h | h | ⟨h, _⟩) <;> rw [hseek] at h <;> cases h
  · constructor
    · rintro ⟨_, ⟨⟩, rfl⟩
      exact .nothing hseek
    · rintro (_ | _ | ⟨h, _⟩)
      · exact ⟨{}, rfl, rfl⟩
      · exact ⟨{}, rfl, rfl⟩
      · rw [hseek] at h
        cases h
  · constructor
    · rintro ⟨_, ⟨⟩, rfl⟩
      exact .directory hseek
    · rintro (_ | _ | ⟨h, _⟩)
      · exact ⟨{}, rfl, rfl⟩
      · exact ⟨{}, rfl, rfl⟩
      · rw [hseek] at h
        cases h
  · simp only [bind_eq_ok_iff, mapError_eq_ok_iff]
    constructor
    · rintro ⟨_, ⟨content, hread, ⟨⟩⟩, rfl⟩
      exact .file hseek hread
    · rintro (h | h | ⟨h, hread⟩) <;> rw [hseek] at h <;> cases h
      exact ⟨_, ⟨_, hread, rfl⟩, rfl⟩

theorem sources_eq_ok_iff {sources : Sources} :
    Sources.ofFiles environment files search = .ok sources ↔ ∃ contents,
      search.paths.mapM (dotenvOf environment files) = .ok contents ∧
      ⟨environment, ⟨contents.flatMap (·.assignments), contents.flatMap (·.badLines)⟩, search⟩ = sources := by
  rw [Sources.ofFiles, bind_eq_ok_iff]
  simp only [pure, Except.pure, Except.ok.injEq]

/-- Files are read one by one, and so are their assignments. -/
theorem exists_mapM_dotenvOf_iff {paths : List String} {assigned : List (List Dotenv.Assignment)} :
    (∃ contents, paths.mapM (dotenvOf environment files) = .ok contents ∧
      contents.map (·.assignments) = assigned) ↔
    List.Forall₂ (Assigns environment files) paths assigned := by
  simp only [mapM_eq_ok_iff]
  induction paths generalizing assigned with
  | nil => simp [eq_comm]
  | cons path rest ih =>
    simp only [List.forall₂_cons_left_iff, ← ih, ← exists_dotenvOf_iff]
    constructor
    · rintro ⟨_, ⟨content, contents, hcontent, hcontents, rfl⟩, rfl⟩
      exact ⟨_, _, ⟨content, hcontent, rfl⟩, ⟨contents, hcontents, rfl⟩, rfl⟩
    · rintro ⟨_, _, ⟨content, hcontent, rfl⟩, ⟨contents, hcontents, rfl⟩, rfl⟩
      exact ⟨_, ⟨content, contents, hcontent, hcontents, rfl⟩, rfl⟩

/-- The six fields are read side by side, each of them from the same sources. -/
theorem ofSources_eq_good_iff {sources : Sources} {s : Settings} : ofSources sources overrides = .good s ↔
    (Settings.field sources overrides "log_level" .warning (choice .literalError Verbosity.ofName?) =
        .good s.verbosity ∧
      Settings.field sources overrides "log_format" .text (choice .literalError Style.ofName?) =
        .good s.logStyle ∧
      Settings.field sources overrides "catalog_file" none (expandedPath sources.environment) =
        .good s.catalogFile) ∧
    Settings.field sources overrides "header_prefix" "MBEDCRYPTO_" text = .good s.headerLead ∧
      Settings.field sources overrides "env_selection_prefix" "CRYPTOCONF_SET_" text =
        .good s.environmentLead ∧
      Settings.field sources overrides "report_format" .text (choice .literalError Style.ofName?) =
        .good s.reportStyle := by
  simp only [ofSources, Checked.seq_eq_good_iff, Checked.map_eq_good_iff]
  constructor
  · rintro ⟨_, ⟨_, ⟨_, ⟨_, ⟨_, ⟨_, hverbosity, rfl⟩, _, hlogStyle, rfl⟩, _, hcatalogFile, rfl⟩, _, hheaderLead,
      rfl⟩, _, henvironmentLead, rfl⟩, _, hreportStyle, rfl⟩
    exact ⟨⟨hverbosity, hlogStyle, hcatalogFile⟩, hheaderLead, henvironmentLead, hreportStyle⟩
  · rintro ⟨⟨hverbosity, hlogStyle, hcatalogFile⟩, hheaderLead, henvironmentLead, hreportStyle⟩
    exact ⟨_, ⟨_, ⟨_, ⟨_, ⟨_, ⟨_, hverbosity, rfl⟩, _, hlogStyle, rfl⟩, _, hcatalogFile, rfl⟩, _, hheaderLead,
      rfl⟩, _, henvironmentLead, rfl⟩, _, hreportStyle, rfl⟩

/-- Settings are made where all six fields fit, and then each is the one that its field tells. -/
theorem make_eq_ok_iff {sources : Sources} {s : Settings} : make sources overrides = .ok s ↔
    Fits sources.environment
      (ValueOf sources.search sources.environment sources.dotenv.assignments overrides) s := by
  have hgood : make sources overrides = .ok s ↔ ofSources sources overrides = .good s := by
    unfold make
    cases ofSources sources overrides <;> simp
  rw [hgood, ofSources_eq_good_iff]
  constructor
  · rintro ⟨⟨hverbosity, hlogStyle, hcatalogFile⟩, hheaderLead, henvironmentLead, hreportStyle⟩
    exact ⟨(field_eq_good_iff fun _ => choice_verbosity_eq_good_iff).1 hverbosity,
      (field_eq_good_iff fun _ => choice_style_eq_good_iff).1 hlogStyle,
      (field_eq_good_iff fun _ => expandedPath_eq_good_iff).1 hcatalogFile,
      (field_eq_good_iff fun _ => text_eq_good_iff_textOf).1 hheaderLead,
      (field_eq_good_iff fun _ => text_eq_good_iff_textOf).1 henvironmentLead,
      (field_eq_good_iff fun _ => choice_style_eq_good_iff).1 hreportStyle⟩
  · intro h
    exact ⟨⟨(field_eq_good_iff fun _ => choice_verbosity_eq_good_iff).2 h.verbosity,
      (field_eq_good_iff fun _ => choice_style_eq_good_iff).2 h.logStyle,
      (field_eq_good_iff fun _ => expandedPath_eq_good_iff).2 h.catalogFile⟩,
      (field_eq_good_iff fun _ => text_eq_good_iff_textOf).2 h.headerLead,
      (field_eq_good_iff fun _ => text_eq_good_iff_textOf).2 h.environmentLead,
      (field_eq_good_iff fun _ => choice_style_eq_good_iff).2 h.reportStyle⟩

/-- The settings that files make are those that stand in their sources. -/
theorem ofFiles_eq_ok_iff {s : Settings} :
    ofFiles environment files overrides = .ok s ↔ MadeFrom environment files overrides s := by
  simp only [ofFiles, bind_eq_ok_iff, ofOverrides_eq_ok_iff, sources_eq_ok_iff, make_eq_ok_iff]
  constructor
  · rintro ⟨search, hsearch, _, ⟨contents, hcontents, rfl⟩, hfits⟩
    have hassigned := exists_mapM_dotenvOf_iff.1 ⟨contents, hcontents, rfl⟩
    rw [List.flatMap_def] at hfits
    exact ⟨search, contents.map (·.assignments), hsearch, hassigned, hfits⟩
  · rintro ⟨search, assigned, hsearch, hassigned, hfits⟩
    obtain ⟨contents, hcontents, rfl⟩ := exists_mapM_dotenvOf_iff.2 hassigned
    rw [← List.flatMap_def] at hfits
    exact ⟨search, hsearch, _, ⟨contents, hcontents, rfl⟩, hfits⟩

end Settings
end FeatureCert
