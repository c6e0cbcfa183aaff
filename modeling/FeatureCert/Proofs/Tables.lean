import FeatureCert.Proofs.Declared

/-!
What tables do apart from the log. Building them is building a catalog and then the rules over it; the
records that a run writes never change what it answers.
-/
namespace FeatureCert

open FeatureCert.Log

/-- A sequence of two computations from a log on. -/
theorem Log.Traced.run_bind (x : Traced ε α) (f : α → Traced ε β) (log : List Record) :
    ((x >>= f).run.run log).run =
      match (x.run.run log).run with
      | (.ok a, log') => ((f a).run.run log').run
      | (.error e, log') => (.error e, log') := by
  change (match (x.run.run log).run with
    | (a, log') => ((ExceptT.bindCont f a).run log').run) = _
  cases (x.run.run log).run with
  | mk outcome log' => cases outcome <;> rfl

namespace Log.Traced

variable {x : Traced ε α} {f : α → Traced ε β}

/-- A computation that never reads the log: it has one result from every log on. -/
def Steady (x : Traced ε α) : Prop := ∀ log, (x.run.run log).run.1 = x.result

theorem steady_pure (a : α) : Steady (ε := ε) (pure a) := fun _ => rfl

theorem steady_writeAll (records : List Record) : Steady (ε := ε) (writeAll records) := fun _ => rfl

theorem steady_write (level : Level) (logger message : String) :
    Steady (ε := ε) (write level logger message) := fun _ => rfl

theorem steady_mapError {δ : Type} (f : δ → ε) (y : Except δ α) : Steady (mapError f y) := by
  cases y <;> exact fun _ => rfl

/-- What comes behind a computation that writes the log does not look at it. -/
theorem run_bind_fst (hf : ∀ a, Steady (f a)) (log : List Record) :
    ((x >>= f).run.run log).run.1 = (x.run.run log).run.1 >>= fun a => (f a).result := by
  rw [run_bind]
  cases (x.run.run log).run with
  | mk outcome log' =>
    cases outcome with
    | error e => rfl
    | ok a => exact hf a log'

/-- The result of a sequence is that of its parts, where the second part does not read the log. -/
theorem result_bind (hf : ∀ a, Steady (f a)) :
    (x >>= f).result = x.result >>= fun a => (f a).result :=
  run_bind_fst hf []

theorem Steady.bind (hx : Steady x) (hf : ∀ a, Steady (f a)) : Steady (x >>= f) := by
  intro log
  rw [run_bind_fst hf, hx, result_bind hf]

theorem Steady.mapM {g : α → Traced ε β} (hg : ∀ a, Steady (g a)) (items : List α) :
    Steady (items.mapM g) := by
  induction items with
  | nil => exact steady_pure []
  | cons a rest ih =>
    rw [List.mapM_cons]
    exact (hg a).bind fun _ => ih.bind fun _ => steady_pure _

/-- Along a list the log can be left aside. -/
theorem result_mapM {g : α → Traced ε β} (hg : ∀ a, Steady (g a)) (items : List α) :
    (items.mapM g).result = items.mapM fun a => (g a).result := by
  induction items with
  | nil => rfl
  | cons a rest ih =>
    have hrest (b : β) : Steady (rest.mapM g >>= fun bs => pure (b :: bs)) :=
      (Steady.mapM hg rest).bind fun _ => steady_pure _
    rw [List.mapM_cons, List.mapM_cons, result_bind hrest]
    congr
    funext b
    rw [result_bind fun _ => steady_pure _, ih]
    rfl

end Log.Traced

theorem Catalog.steady_buildTraced (id : String) (capabilities : List Capability) :
    (Catalog.buildTraced id capabilities).Steady :=
  (Traced.steady_mapError _ _).bind fun _ =>
    (Traced.steady_write _ _ _).bind fun _ => Traced.steady_pure _

theorem Catalog.result_buildTraced (id : String) (capabilities : List Capability) :
    (Catalog.buildTraced id capabilities).result =
      (Catalog.build id capabilities).mapError .ofDefect := by
  unfold Catalog.buildTraced
  cases Catalog.build id capabilities <;> rfl

theorem RuleSet.steady_buildTraced (catalog : Catalog) (declared : List Rule) :
    (RuleSet.buildTraced catalog declared).Steady :=
  (Traced.steady_writeAll _).bind fun _ => (Traced.steady_mapError _ _).bind fun _ =>
    (Traced.steady_write _ _ _).bind fun _ => Traced.steady_pure _

theorem RuleSet.result_buildTraced (catalog : Catalog) (declared : List Rule) :
    (RuleSet.buildTraced catalog declared).result =
      (RuleSet.build catalog declared).mapError .ofDefect := by
  unfold RuleSet.buildTraced
  cases RuleSet.build catalog declared <;> rfl

namespace Tables

variable {tables : Tables} {selection : List Entry} {verdict : Verdict} {s : Snapshot}
  {problems : List Violation}

theorem steady_build (id : String) (capabilities : List Capability) (declared : List Rule) :
    (build id capabilities declared).Steady :=
  (Catalog.steady_buildTraced id capabilities).bind fun catalog =>
    (RuleSet.steady_buildTraced catalog declared).bind fun _ => Traced.steady_pure _

/-- Building tables is building the catalog, and then the rules over it. -/
theorem result_build (id : String) (capabilities : List Capability) (declared : List Rule) :
    (build id capabilities declared).result =
      (Catalog.build id capabilities).mapError .ofDefect >>= fun catalog =>
        (Tables.mk catalog <$> RuleSet.build catalog declared).mapError .ofDefect := by
  rw [build, Traced.result_bind fun catalog => (RuleSet.steady_buildTraced catalog declared).bind
    fun _ => Traced.steady_pure _, Catalog.result_buildTraced]
  congr
  funext catalog
  rw [Traced.result_bind fun _ => Traced.steady_pure _, RuleSet.result_buildTraced]
  cases RuleSet.build catalog declared <;> rfl

/-- Tables consist of a catalog and of rules over it. -/
theorem result_build_of_ok {id : String} {capabilities : List Capability} {declared : List Rule}
    (hcatalog : Catalog.build id capabilities = .ok tables.catalog)
    (hrules : RuleSet.build tables.catalog declared = .ok tables.rules) :
    (build id capabilities declared).result = .ok tables := by
  rw [result_build, hcatalog]
  change (Tables.mk tables.catalog <$> RuleSet.build tables.catalog declared).mapError _ = _
  rw [hrules]
  rfl

/-- Tables come of a catalog that was accepted, and of rules that it accepted. -/
theorem build_ok {id : String} {capabilities : List Capability} {declared : List Rule}
    (h : (build id capabilities declared).result = .ok tables) :
    Catalog.build id capabilities = .ok tables.catalog ∧
      RuleSet.build tables.catalog declared = .ok tables.rules := by
  rw [result_build] at h
  cases hc : Catalog.build id capabilities with
  | error defect =>
    rw [hc] at h
    cases h
  | ok catalog =>
    rw [hc] at h
    change (Tables.mk catalog <$> RuleSet.build catalog declared).mapError Failure.ofDefect = _ at h
    cases hr : RuleSet.build catalog declared with
    | error defect =>
      rw [hr] at h
      cases h
    | ok rules =>
      rw [hr] at h
      cases h
      exact ⟨rfl, hr⟩

theorem result_normalize (tables : Tables) (selection : List Entry) :
    (tables.normalize selection).result =
      (tables.catalog.normalize selection).mapError .ofDigitLimit := by
  unfold normalize
  cases tables.catalog.normalize selection <;> rfl

theorem result_validate (tables : Tables) (selection : List Entry) :
    (tables.validate selection).result =
      (tables.normalize selection).result.map fun p => tables.rules.verdict p.1 p.2 := by
  unfold validate normalize
  cases tables.catalog.normalize selection <;> rfl

theorem catalog_normalize_of_result (h : (tables.normalize selection).result = .ok (s, problems)) :
    tables.catalog.normalize selection = .ok (s, problems) := by
  rw [result_normalize] at h
  cases hn : tables.catalog.normalize selection with
  | error limit =>
    rw [hn] at h
    cases h
  | ok p =>
    rw [hn] at h
    cases h
    rfl

theorem result_normalize_of_catalog (h : tables.catalog.normalize selection = .ok (s, problems)) :
    (tables.normalize selection).result = .ok (s, problems) := by
  rw [result_normalize, h]
  rfl

theorem result_validate_of_normalize (h : (tables.normalize selection).result = .ok (s, problems)) :
    (tables.validate selection).result = .ok (tables.rules.verdict s problems) := by
  rw [result_validate, h]
  rfl

/-- A verdict is one on the normal form of the selection. -/
theorem validate_ok (h : (tables.validate selection).result = .ok verdict) :
    ∃ s problems, (tables.normalize selection).result = .ok (s, problems) ∧
      verdict = tables.rules.verdict s problems := by
  rw [result_validate] at h
  cases hn : (tables.normalize selection).result with
  | error failure =>
    rw [hn] at h
    cases h
  | ok p =>
    rw [hn] at h
    cases h
    exact ⟨p.1, p.2, rfl, rfl⟩

end Tables

/-- Three flags and a parameter of the first. -/
def sampleCapabilities : List Capability := [
  { name := "AES" },
  { name := "DES" },
  { name := "RNG", default := .switch true },
  { name := "ROUNDS", kind := .parameter, default := .number 4, owner := some "AES" }]

/-- One rule of each kind but groups, and the exclusion once more the other way round. -/
def sampleRules : List Rule := [
  { subject := "ROUNDS", constraint := .range 1 8 },
  { subject := "DES", note := some "pick one", constraint := .excludes "AES" },
  { subject := "AES", constraint := .requires "RNG" },
  { subject := "AES", constraint := .excludes "DES" }]

def sampleCatalog : Catalog where
  id := "sample"
  capabilities := sampleCapabilities
  distinct := by decide
  sound := by decide

def sampleTables : Tables where
  catalog := sampleCatalog
  rules := {
    rules := dropRepeats [] sampleRules
    sound := by decide
    bySubject := subjectIndex (dropRepeats [] sampleRules)
    bySubject_eq := rfl
    byMention := mentionIndex (dropRepeats [] sampleRules)
    byMention_eq := rfl }

theorem build_sample :
    (Tables.build "sample" sampleCapabilities sampleRules).result = .ok sampleTables := rfl

end FeatureCert
