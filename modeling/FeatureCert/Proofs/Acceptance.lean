import FeatureCert.Command.Program
import FeatureCert.Proofs.Foreseen
import FeatureCert.Proofs.Precedence
import FeatureCert.Proofs.Printed
import FeatureCert.Proofs.Tables

/-!
What the exit code of a check stands for. The run ends with success exactly where the tables are built, all
sources are read and the verdict is a pass; the line that tells of it is printed then, and otherwise only
where the wording of a violation holds such a line.
-/
namespace FeatureCert

open FeatureCert.Log FeatureCert.Text

/-- The events of a verdict can be told exactly where its violations have lines. -/
theorem Telemetry.exists_report_iff {v : Verdict} :
    (∃ events, (report v).result = .ok events) ↔
      ∃ parts, v.violations.mapM Violation.line = .ok parts := by
  have hevent (w : Violation) : (violationEvent w).Steady :=
    (Traced.steady_mapError _ _).bind fun _ =>
      (Traced.steady_write _ _ _).bind fun _ => Traced.steady_pure _
  have hline (w : Violation) :
      (∃ e, (violationEvent w).result = .ok e) ↔ ∃ part, w.line = .ok part := by
    unfold violationEvent
    cases w.line with
    | ok part => exact iff_of_true ⟨_, rfl⟩ ⟨_, rfl⟩
    | error limit => exact iff_of_false (by rintro ⟨_, ⟨⟩⟩) (by simp)
  have hresult : (report v).result =
      (v.violations.mapM violationEvent).result >>= fun events => .ok (verdictEvent v :: events) := by
    rw [report, Traced.result_bind fun _ =>
      (Traced.Steady.mapM hevent _).bind fun _ => Traced.steady_pure _,
      Traced.result_bind fun _ => Traced.steady_pure _]
    rfl
  rw [hresult, exists_ok_bind, Traced.result_mapM hevent, exists_mapM_ok_iff]
  simp [exists_mapM_ok_iff, hline]

namespace Verdict

variable {v : Verdict}

def acceptedLine (v : Verdict) : String :=
  s!"configuration accepted ({v.enabledCount} capabilities enabled, " ++
    s!"{v.checkedRules} rules checked)"

def rejectedLine (v : Verdict) : String :=
  s!"configuration rejected: {v.violations.length} violation(s)"

/-- An accepted selection has a text whatever its numbers are, since no violation is to be written. -/
theorem text_of_passed (h : v.passed = true) :
    v.text = .ok (v.acceptedLine ++ "\n" ++ "no violations") := by
  have htext : v.text = .ok (s!"configuration accepted ({v.enabledCount} capabilities enabled, " ++
      s!"{v.checkedRules} rules checked)\nno violations") := by
    unfold text
    rw [h]
    rfl
  have hend : toString " rules checked)\nno violations" =
      toString " rules checked)" ++ ("\n" ++ "no violations") := rfl
  rw [hend] at htext
  unfold acceptedLine
  simpa only [String.append_assoc] using htext

/-- The text of a rejection fails with the first violation that has no line. -/
theorem text_of_failed (h : v.passed = false) :
    v.text = (fun parts => v.rejectedLine ++ "\n" ++ "\n".intercalate parts) <$>
      v.violations.mapM Violation.line := by
  have hsome : v.violations.isEmpty = false := h
  have htext : v.text = (fun parts => s!"configuration rejected: {v.violations.length} violation(s)\n" ++
      "\n".intercalate parts) <$> v.violations.mapM Violation.line := by
    unfold text violationText
    rw [h, hsome]
    cases v.violations.mapM Violation.line <;> rfl
  have hend : toString " violation(s)\n" = toString " violation(s)" ++ "\n" := rfl
  rw [hend] at htext
  unfold rejectedLine
  simpa only [String.append_assoc] using htext

theorem isPlain_acceptedLine (v : Verdict) : IsPlain v.acceptedLine := by
  have hstart : IsPlain (toString "configuration accepted (") := by decide
  have hmiddle : IsPlain (toString " capabilities enabled, ") := by decide
  have hend : IsPlain (toString " rules checked)") := by decide
  exact ((hstart.append (isPlain_toString _)).append hmiddle).append
    ((isPlain_toString _).append hend)

theorem isPlain_rejectedLine (v : Verdict) : IsPlain v.rejectedLine := by
  have hstart : IsPlain (toString "configuration rejected: ") := by decide
  have hend : IsPlain (toString " violation(s)") := by decide
  exact (hstart.append (isPlain_toString _)).append hend

theorem announces_acceptedLine (v : Verdict) : Announces v.acceptedLine := by
  have hstart : toString "configuration accepted (" = "configuration accepted" ++ " (" := rfl
  rw [(isPlain_acceptedLine v).announces_iff]
  unfold acceptedLine
  rw [hstart]
  simp only [String.append_assoc, String.toList_append]
  exact List.prefix_append _ _

theorem not_announces_rejectedLine (v : Verdict) : ¬ Announces v.rejectedLine := by
  rw [(isPlain_rejectedLine v).announces_iff]
  intro hprefix
  have hstart : "configuration rejected: ".toList <+: v.rejectedLine.toList := by
    unfold rejectedLine
    simp only [String.append_assoc, String.toList_append]
    exact List.prefix_append _ _
  exact absurd (List.prefix_of_prefix_length_le hprefix hstart (by decide)) (by decide)

/-- A verdict that has a text has events too. -/
theorem exists_report_of_text {body : String} (h : v.text = .ok body) :
    ∃ events, (Telemetry.report v).result = .ok events := by
  rw [Telemetry.exists_report_iff]
  cases hpassed : v.passed with
  | true => exact ⟨[], by rw [show v.violations = [] from List.isEmpty_iff.1 hpassed]; rfl⟩
  | false =>
    rw [text_of_failed hpassed] at h
    exact exists_ok_map.1 ⟨_, h⟩

/-- A rejection whose report holds a line that tells of an acceptance all the same. -/
def Forges (v : Verdict) : Prop :=
  ∃ parts, v.violations.mapM Violation.line = .ok parts ∧
    (∀ part ∈ parts, hasHalf (dropSequences part) = false) ∧
    ∃ part ∈ parts, Announces (dropSequences part)

/-- A rejection lists something. -/
theorem parts_ne_nil {parts : List String} (h : v.passed = false)
    (hparts : v.violations.mapM Violation.line = .ok parts) : parts ≠ [] := by
  rintro rfl
  have hlength : v.violations.length = 0 := (mapM_eq_ok_iff.1 hparts).length_eq
  have hpassed : v.passed = true := List.isEmpty_iff.2 (List.length_eq_zero_iff.1 hlength)
  rw [h] at hpassed
  cases hpassed

/-- The line above the violations tells of no acceptance, so only theirs can. -/
theorem forges_iff_announces {text : String} (h : v.passed = false) (htext : v.text = .ok text) :
    v.Forges ↔ hasHalf (dropSequences text) = false ∧ Announces (dropSequences text) := by
  rw [text_of_failed h] at htext
  obtain ⟨parts, hparts⟩ := exists_ok_map.1 ⟨_, htext⟩
  have hsome := parts_ne_nil h hparts
  rw [hparts] at htext
  have hlines : dropSequences text =
      v.rejectedLine ++ "\n" ++ dropSequences ("\n".intercalate parts) := by
    rw [← Except.ok.inj htext, dropSequences_break, v.isPlain_rejectedLine.dropSequences_eq]
  have hhalves : hasHalf (dropSequences text) = false ↔
      ∀ part ∈ parts, hasHalf (dropSequences part) = false := by
    rw [hlines, hasHalf_append, hasHalf_append, v.isPlain_rejectedLine.hasHalf_eq_false,
      ← hasHalf_intercalate hsome]
    simp [show hasHalf "\n" = false from rfl]
  rw [hhalves, hlines, announces_break, announces_intercalate hsome]
  simp [Forges, hparts, v.not_announces_rejectedLine]

end Verdict

namespace Command

theorem Run.outcome_say_of_half {line : String} (h : hasHalf (dropSequences line) = true)
    (c : Console) : (say line).outcome c = (.error (.fault .noOctets), c) := by
  have hhalf : hasHalf (dropSequences (line ++ "\n")) = true := by
    rw [dropSequences_line, hasHalf_append, h, Bool.true_or]
  simp only [say, put, hhalf, if_true]
  rfl

/-- What is printed loses its control sequences first, and they may cover a half. -/
theorem Run.outcome_say {line : String} (h : hasHalf (dropSequences line) = false) (c : Console) :
    (say line).outcome c = (.ok (), { c with out := c.out ++ (dropSequences line ++ "\n") }) := by
  have hhalf : hasHalf (dropSequences (line ++ "\n")) = false := by
    rw [dropSequences_line, hasHalf_append, h]
    rfl
  simp only [say, put, hhalf]
  rw [dropSequences_line]
  rfl

namespace Check

/-- The verdict of a check, with the text of its report. -/
def reported (context : Context) (words : List String) : Run (Verdict × String) := do
  let line ← Run.readLine usage context.files words
  let tables ← loadTables context (line.path? "--catalog")
  let ss ← Check.sources context line
  let verdict ← Run.expect (tables.validate (merge ss))
  let _ ← Run.expect (Telemetry.report verdict)
  let text ← Run.demand ((report (style context line) verdict).mapError .ofDigitLimit)
  return (verdict, text)

def close (v : Verdict) (text : String) : Run Unit := do
  Run.say text
  if !v.passed then Run.exit 1

theorem run_eq (context : Context) (words : List String) :
    Check.run context words = reported context words >>= fun p => close p.1 p.2 := by
  simp [Check.run, reported, close]

/-- The verdict that a check comes to, once its line fits, its tables are built and its sources are read. -/
def Reaches (context : Context) (words : List String) (v : Verdict) : Prop :=
  ∃ line tables header file environment on off, usage.read words = .ok line ∧
    usage.check context.files line = .ok () ∧
    (buildTables context.files (line.path? "--catalog" <|> context.settings.catalogPath?)).result =
      .ok tables ∧
    Reads context line header file environment on off ∧
    (tables.validate (merge [header, file, environment, on, off])).result = .ok v

variable {v : Verdict} {context : Context} {words : List String} {text : String} {c : Console}

/-- A line is read and checked before anything else happens, and a call for help is left aside. -/
theorem yields_readLine {usage : Usage} {files : Files}
    (hhelp : ∀ line, usage.read words = .ok line → line.has "--help" = false) :
    (Run.readLine usage files words).Yields fun line =>
      usage.read words = .ok line ∧ usage.check files line = .ok () := by
  unfold Run.readLine
  cases hread : usage.read words with
  | error fault => exact ((Run.comes_misuse _ _).yields_error (by simp)).congr (by simp)
  | ok line =>
    have hnone {e : Refusal} (hcheck : usage.check files line = .error e) (line' : Line) :
        False ↔ Except.ok (ε := UsageFault) line = .ok line' ∧ usage.check files line' = .ok () := by
      refine iff_of_false id ?_
      rintro ⟨⟨⟩, hok⟩
      rw [hcheck] at hok
      cases hok
    simp only [hhelp line hread]
    cases hcheck : usage.check files line with
    | error refusal =>
      cases refusal with
      | unfit fault => exact ((Run.comes_misuse _ _).yields_error (by simp)).congr (hnone hcheck)
      | badPath fault => exact ((Run.comes_throw _).yields_error (by simp)).congr (hnone hcheck)
    | ok _ =>
      refine (Run.yields_pure line).congr fun line' => ?_
      constructor
      · rintro rfl
        exact ⟨rfl, hcheck⟩
      · rintro ⟨⟨⟩, _⟩
        rfl

/-- The option names the catalog file, or else the settings do. -/
theorem yields_loadTables (context : Context) (option : Option Path) :
    (loadTables context option).Yields fun tables =>
      (buildTables context.files (option <|> context.settings.catalogPath?)).result = .ok tables := by
  refine (Run.Yields.logged_bind (R := fun a b => a = b) Run.yields_pure fun e => ?_).congr (by simp)
  dsimp only
  split
  · exact (Run.comes_reject _ _).yields_error (by simp [catalogCode])
  · exact (Run.comes_throw _).yields_error (by simp)

/-- Up to its report a check prints nothing, so that its whole output is that report. -/
theorem yields_reported
    (htext : ∀ line, usage.read words = .ok line →
      line.has "--help" = false ∧ style context line = .text) :
    (reported context words).Yields fun p => Reaches context words p.1 ∧ p.1.text = .ok p.2 := by
  refine ((yields_readLine fun line hline => (htext line hline).1).bind fun line _ =>
    (yields_loadTables context _).bind fun tables _ => (yields_sources context line).bind fun ss _ =>
      (Run.yields_expect _).bind fun v _ => (Run.yields_expect _).bind fun _ _ =>
        (Run.yields_demand _).map).congr ?_
  rintro ⟨v, text⟩
  constructor
  · rintro ⟨line, ⟨hline, hcheck⟩, tables, htables, ss,
      ⟨header, file, environment, on, off, hreads, rfl⟩, v, hv, _, _, text, hreport, ⟨⟩⟩
    rw [(htext line hline).2, mapError_eq_ok_iff] at hreport
    rw [hreads.merge_used] at hv
    exact ⟨⟨line, tables, header, file, environment, on, off, hline, hcheck, htables, hreads, hv⟩,
      hreport⟩
  · rintro ⟨⟨line, tables, header, file, environment, on, off, hline, hcheck, htables, hreads, hv⟩,
      hreport⟩
    -- The events are told before the text is made, and quote the same lines.
    obtain ⟨events, hevents⟩ := Verdict.exists_report_of_text hreport
    rw [← hreads.merge_used] at hv
    refine ⟨line, ⟨hline, hcheck⟩, tables, htables, _, ⟨header, file, environment, on, off, hreads, rfl⟩,
      v, hv, events, hevents, text, ?_, rfl⟩
    rw [(htext line hline).2, mapError_eq_ok_iff]
    exact hreport

theorem outcome_close_of_half (h : hasHalf (dropSequences text) = true) :
    (close v text).outcome c = (.error (.fault .noOctets), c) := by
  rw [close, Run.outcome_bind, Run.outcome_say_of_half h]

theorem outcome_close (h : hasHalf (dropSequences text) = false) :
    (close v text).outcome c =
      (if v.passed then .ok () else .error (.exit 1),
        { c with out := c.out ++ (dropSequences text ++ "\n") }) := by
  rw [close, Run.outcome_bind, Run.outcome_say h]
  cases v.passed <;> rfl

theorem not_announces_of_empty (hc : c.out = "") : ¬ Announces c.out := by
  rw [hc]
  exact not_announces_empty

/-- A verdict that passed closes with success, under the line that tells of it. -/
theorem close_of_passed (h : v.passed = true) (htext : v.text = .ok text) (hc : c.out = "") :
    ((close v text).outcome c).1 = .ok () ∧ Announces ((close v text).outcome c).2.out := by
  rw [Verdict.text_of_passed h, Except.ok.injEq] at htext
  have hplain : dropSequences text = v.acceptedLine ++ "\n" ++ dropSequences "no violations" := by
    rw [← htext, dropSequences_break, v.isPlain_acceptedLine.dropSequences_eq]
  have hhalf : hasHalf (dropSequences text) = false := by
    rw [hplain, hasHalf_append, hasHalf_append, v.isPlain_acceptedLine.hasHalf_eq_false]
    rfl
  rw [outcome_close hhalf, h]
  refine ⟨rfl, ?_⟩
  change Announces (c.out ++ (dropSequences text ++ "\n"))
  rw [hc, String.empty_append, announces_line, hplain, announces_break]
  exact .inl v.announces_acceptedLine

/-- A verdict that failed never closes with success. -/
theorem close_of_failed (h : v.passed = false) (htext : v.text = .ok text) (hc : c.out = "") :
    (∃ e, e ≠ .exit 0 ∧ ((close v text).outcome c).1 = .error e) ∧
      (Announces ((close v text).outcome c).2.out ↔ v.Forges) := by
  rw [Verdict.forges_iff_announces h htext]
  cases hhalf : hasHalf (dropSequences text) with
  | true =>
    rw [outcome_close_of_half hhalf]
    exact ⟨⟨_, by simp, rfl⟩, iff_of_false (not_announces_of_empty hc) (by simp)⟩
  | false =>
    rw [outcome_close hhalf, h]
    refine ⟨⟨_, by simp, rfl⟩, ?_⟩
    change Announces (c.out ++ (dropSequences text ++ "\n")) ↔ _
    rw [hc, String.empty_append, announces_line]
    simp

/-- A check certifies where it reaches a verdict that passed. -/
def Certifies (context : Context) (words : List String) : Prop :=
  ∃ v, Reaches context words v ∧ v.passed = true

/-- A check forges where it reaches a rejection whose report tells of an acceptance. -/
def Forges (context : Context) (words : List String) : Prop :=
  ∃ v, Reaches context words v ∧ v.passed = false ∧ v.Forges

section

variable {r : Except Ending (Verdict × String)}
  (hr : ∀ p, r = .ok p ↔ Reaches context words p.1 ∧ p.1.text = .ok p.2)
include hr

theorem certifies_iff :
    Certifies context words ↔ ∃ v text, r = .ok (v, text) ∧ v.passed = true := by
  constructor
  · rintro ⟨v, hv, h⟩
    exact ⟨v, _, (hr (v, _)).2 ⟨hv, Verdict.text_of_passed h⟩, h⟩
  · rintro ⟨v, text, hok, h⟩
    exact ⟨v, ((hr (v, text)).1 hok).1, h⟩

theorem forges_iff :
    Forges context words ↔ ∃ v text, r = .ok (v, text) ∧ v.passed = false ∧ v.Forges := by
  constructor
  · rintro ⟨v, hv, h, parts, hparts, hlines⟩
    have htext := (Verdict.text_of_failed h).trans (congrArg _ hparts)
    exact ⟨v, _, (hr (v, _)).2 ⟨hv, htext⟩, h, parts, hparts, hlines⟩
  · rintro ⟨v, text, hok, h, hforges⟩
    exact ⟨v, ((hr (v, text)).1 hok).1, h, hforges⟩

end

/-- From a console on which nothing is printed, a check comes to success exactly where it certifies. It tells
of an acceptance there, and else only where it forges. -/
theorem outcome_run
    (htext : ∀ line, usage.read words = .ok line →
      line.has "--help" = false ∧ style context line = .text) (hc : c.out = "") :
    let o := (Check.run context words).outcome c
    (o.1 = .ok () ∨ o.1 = .error (.exit 0) ↔ Certifies context words) ∧
      (Certifies context words → Announces o.2.out) ∧
      (¬ Certifies context words → (Announces o.2.out ↔ Forges context words)) := by
  obtain ⟨r, hcomes, hr, hcode⟩ := yields_reported htext
  obtain ⟨c₁, h₁, hout⟩ := hcomes.outcome_eq c
  rw [hc] at hout
  rw [run_eq, Run.outcome_bind, h₁, certifies_iff hr, forges_iff hr]
  cases r with
  | error e =>
    have he : e ≠ .exit 0 := fun he => hcode (congrArg _ he)
    simp [he, not_announces_of_empty hout]
  | ok p =>
    obtain ⟨v, text⟩ := p
    have hreport : v.text = .ok text := ((hr (v, text)).1 rfl).2
    dsimp only
    cases h : v.passed with
    | true =>
      obtain ⟨hok, hannounces⟩ := close_of_passed h hreport hout
      -- What the run leaves gets a name, lest the run be unfolded to compare it with itself.
      generalize (close v text).outcome c₁ = o at hok hannounces ⊢
      simp [h, hok, hannounces]
    | false =>
      obtain ⟨⟨e, he, herror⟩, hannounces⟩ := close_of_failed h hreport hout
      generalize (close v text).outcome c₁ = o at herror hannounces ⊢
      simp [h, herror, he, hannounces]

end Check

namespace Program

variable {environment : Environment} {files : Files} {sources : Settings.Sources} {s : Settings}
  {words rest : List String}

/-- Settings are made with warnings only, none of which is printed as output. -/
theorem comes_settings (hsources : Settings.Sources.ofFiles environment files = .ok sources)
    (hsettings : Settings.make sources [] = .ok s) : (settings environment files).Comes (.ok s) := by
  unfold settings
  rw [hsources]
  refine (Run.comes_demand _).bind_ok ((Run.comes_forM (fun _ => Run.comes_note _) _).bind_ok ?_)
  rw [hsettings]
  exact Run.comes_demand _

/-- Every level that settings may have is one that the log knows. -/
theorem comes_setUpLog (s : Settings) : (setUpLog s).Comes (.ok ()) := by
  intro c
  have hlevel : ∃ n, LevelName.ofText s.verbosity.name = .level n := by
    cases s.verbosity <;> exact ⟨_, rfl⟩
  obtain ⟨n, hn⟩ := hlevel
  have hsetup : ∃ setup, c.setup.configure s.verbosity.name s.logStyle.name = .ok setup := by
    rw [Setup.configure, hn]
    exact ⟨_, rfl⟩
  obtain ⟨setup, hsetup⟩ := hsetup
  have hget : Run.outcome get c = (.ok c, c) := rfl
  have hrun : (setUpLog s).outcome c = (.ok (), { c with setup }) := by
    rw [setUpLog, Run.outcome_bind, hget]
    dsimp only
    rw [hsetup]
    rfl
  rw [hrun]
  exact ⟨rfl, rfl⟩

theorem comes_readWords (hwords : usage.read words = .ok { operands := rest }) :
    (readWords words).Comes (.ok rest) := by
  rw [readWords, hwords]
  exact Run.comes_pure rest

/-- A program whose words call a check runs it, with nothing printed before. -/
theorem outcome_run (hwords : usage.read words = .ok { operands := "check" :: rest })
    (hsources : Settings.Sources.ofFiles environment files = .ok sources)
    (hsettings : Settings.make sources [] = .ok s) (c : Console) :
    ∃ c', c'.out = c.out ∧ (Program.run environment files words).outcome c =
      (Check.run ⟨environment, files, s⟩ rest).outcome c' := by
  have hsome : words.isEmpty = false := by
    cases words with
    | nil => cases hwords
    | cons word more => rfl
  obtain ⟨c₁, h₁, hout₁⟩ := (comes_readWords hwords).outcome_eq c
  obtain ⟨c₂, h₂, hout₂⟩ := (comes_settings hsources hsettings).outcome_eq c₁
  obtain ⟨c₃, h₃, hout₃⟩ := (comes_setUpLog s).outcome_eq c₂
  refine ⟨c₃, (hout₃.trans hout₂).trans hout₁, ?_⟩
  have hlookup : commands.lookup "check" = some Check.run := rfl
  simp only [Program.run, hsome, Bool.false_eq_true, if_false]
  rw [Run.outcome_bind, h₁]
  simp only [hlookup]
  rw [Run.outcome_bind, h₂]
  dsimp only
  rw [Run.outcome_bind, h₃]

end Program

/-- The exit code is zero where the run comes to its end, or where it ends itself with zero. -/
theorem program_of_outcome {environment : Environment} {files : Files} {timestamp : String}
    {words : List String} {r : Except Ending Unit} {c : Console}
    (h : (Program.run environment files words).outcome { timestamp } = (r, c)) :
    ((program environment files timestamp words).exitCode = 0 ↔
      r = .ok () ∨ r = .error (.exit 0)) ∧
      (program environment files timestamp words).out = c.out := by
  have hrun : (Program.run environment files words).run { timestamp } = (r, c) := h
  unfold program
  rw [hrun]
  rcases r with (code | e) | _ <;> simp

/-- The exit code of a check is that of success exactly where it certifies, for every way in which the
program can be called with settings and a line that ask for the report in words. -/
theorem exitCode_eq_zero_iff {environment : Environment} {files : Files} {sources : Settings.Sources}
    {s : Settings} {words rest : List String} (timestamp : String)
    (hwords : Program.usage.read words = .ok { operands := "check" :: rest })
    (hsources : Settings.Sources.ofFiles environment files = .ok sources)
    (hsettings : Settings.make sources [] = .ok s)
    (htext : ∀ line, Check.usage.read rest = .ok line →
      line.has "--help" = false ∧ Check.style ⟨environment, files, s⟩ line = .text) :
    let context : Context := ⟨environment, files, s⟩
    let o := program environment files timestamp words
    (o.exitCode = 0 ↔ Check.Certifies context rest) ∧
      (Check.Certifies context rest → Announces o.out) ∧
      (¬ Check.Certifies context rest → (Announces o.out ↔ Check.Forges context rest)) := by
  intro context o
  obtain ⟨c, hout, hrun⟩ := Program.outcome_run hwords hsources hsettings { timestamp }
  obtain ⟨hcode, hannounces, hforges⟩ := Check.outcome_run htext (c := c) hout
  rw [← hrun] at hcode hannounces hforges
  obtain ⟨hexit, hprinted⟩ := program_of_outcome
    (show (Program.run environment files words).outcome { timestamp } = (_, _) from rfl)
  rw [hexit, hprinted]
  exact ⟨hcode, hannounces, hforges⟩

/-- Without a file of variables, the environment alone gives settings. -/
theorem sources_of_no_dotenv {environment : Environment} {files : Files} (h : files.seek ".env" = .ok none) :
    Settings.Sources.ofFiles environment files = .ok ⟨environment, {}, {}⟩ := by
  have hchars : ".env".toList = ['.', 'e', 'n', 'v'] := rfl
  have hhome : environment.expandHome ".env" = ".env" := by
    rw [Environment.expandHome, hchars]
    simp
  have hpath : (Path.ofText ".env").text = ".env" := rfl
  have hnone : Settings.dotenvOf environment files ".env" = .ok {} := by
    unfold Settings.dotenvOf
    rw [hhome, hpath, h]
  change [".env"].mapM _ >>= _ = _
  simp [hnone]

/-- The words behind the one of a command are the command's own. -/
theorem read_check (rest : List String) :
    Program.usage.read ("check" :: rest) = .ok { operands := "check" :: rest } := by
  have hdashes : ("check" == "--") = false := by decide
  have hoption : Usage.isOptionWord "check" = false := by simp [Usage.isOptionWord]
  have hmixed : Program.usage.mixed = false := rfl
  rw [Usage.read, Usage.readFrom, hdashes, hoption, hmixed]
  rfl

/-- Two flags that exclude each other. -/
def sampleCatalog : String :=
  "\x7b? schema_version : a, ? contract_type : capability_catalog, ? catalog_id : a, " ++
    "? capabilities : [\x7b? name : A\x7d, \x7b? name : B\x7d], " ++
    "? rules : [\x7b? kind : excludes, ? subject : A, ? target : B\x7d]\x7d"

def sampleFiles : Files where
  base := []
  entries := [
    (["c.yaml"], .file (octetsOf sampleCatalog)),
    (["c.h"], .file (octetsOf "#define MBEDCRYPTO_A\n")),
    (["s.yaml"], .file (octetsOf "\x7b? selections : \x7b? A : false\x7d\x7d"))]

/-- The files of the sample, a variable that turns the other flag on, and no settings. -/
def sampleContext : Context := ⟨{ bindings := [("CRYPTOCONF_SET_B", "on")] }, sampleFiles, {}⟩

def sampleWords : List String :=
  ["--catalog", "c.yaml", "--header", "c.h", "-D", "A", "-U", "B", "s.yaml"]

def sampleLine : Line where
  given := [⟨"--catalog", "c.yaml"⟩, ⟨"--header", "c.h"⟩, ⟨"-D", "A"⟩, ⟨"-U", "B"⟩]
  operands := ["s.yaml"]

theorem read_sample : Check.usage.read sampleWords = .ok sampleLine := by
  rw [← toOption_eq_some_iff]
  decide +kernel

/-- The file turns the flag off that header and definition turn on, the variable one that is turned off. -/
theorem reads_sample : Check.Reads sampleContext sampleLine [("A", .bool true)] [("A", .bool false)]
    [("B", .bool true)] [("A", .bool true)] [("B", .bool false)] where
  header := by
    have htext : Selection.headerText sampleFiles (.ofText "c.h") = .ok "#define MBEDCRYPTO_A\n" := by
      rw [← toOption_eq_some_iff]
      decide +kernel
    exact ⟨_, htext, rfl⟩
  file := Check.exists_selectionFile (by decide +kernel) (by decide)
  environment := by
    have hsorted : Selection.byKey sampleContext.environment.bindings = sampleContext.environment.bindings :=
      Selection.byKey_of_pairwise (by decide)
    change Selection.fromEnvironment _ _ = _
    rw [Selection.fromEnvironment_eq, Selection.picked, hsorted]
    rfl
  on := .cons rfl .nil
  off := .cons rfl .nil

/-- The check of the sample certifies: the flag that a variable turns on is turned off again. -/
theorem certifies_sample : Check.Certifies sampleContext sampleWords := by
  have hseek : sampleFiles.seek (Path.ofText "c.yaml").text = .ok (some (.file (octetsOf sampleCatalog))) := by
    decide +kernel
  have hbuild : (buildTables sampleFiles (some (.ofText "c.yaml"))).result =
      Document.catalogKind.parse "c.yaml" sampleCatalog >>= fun d =>
        (Tables.build d.catalogId d.capabilities d.rules).result := by
    rw [result_buildTables_of_place (by decide),
      Document.Shelf.readFile_of_text hseek (Files.textOf_octetsOf (by decide +kernel))]
    rfl
  have hpassed : (((Document.catalogKind.parse "c.yaml" sampleCatalog >>= fun d =>
      (Tables.build d.catalogId d.capabilities d.rules).result).toOption.bind fun tables =>
        (tables.validate (Check.merge [[("A", .bool true)], [("A", .bool false)], [("B", .bool true)],
          [("A", .bool true)], [("B", .bool false)]])).result.toOption).map (·.passed)) = some true := by
    decide +kernel
  obtain ⟨v, hv, hpassed⟩ := Option.map_eq_some_iff.1 hpassed
  obtain ⟨tables, htables, hvalid⟩ := Option.bind_eq_some_iff.1 hv
  rw [toOption_eq_some_iff] at htables hvalid
  have hcheck : Check.usage.check sampleFiles sampleLine = .ok () := by
    rw [← toOption_eq_some_iff]
    decide +kernel
  refine ⟨v, ⟨sampleLine, tables, _, _, _, _, _, read_sample, hcheck, ?_, reads_sample, hvalid⟩, hpassed⟩
  exact hbuild.trans htables

/-- A check of a catalog file with all kinds of sources. -/
theorem exitCode_eq_zero_iff_of_sample :
    let o := program sampleContext.environment sampleFiles "" ("check" :: sampleWords)
    Program.usage.read ("check" :: sampleWords) = .ok { operands := "check" :: sampleWords } ∧
      Settings.Sources.ofFiles sampleContext.environment sampleFiles =
        .ok ⟨sampleContext.environment, {}, {}⟩ ∧
      Settings.make ⟨sampleContext.environment, {}, {}⟩ [] = .ok {} ∧
      (∀ line, Check.usage.read sampleWords = .ok line →
        line.has "--help" = false ∧ Check.style sampleContext line = .text) ∧
      Check.Certifies sampleContext sampleWords ∧ o.exitCode = 0 ∧ Announces o.out := by
  have hsources : Settings.Sources.ofFiles sampleContext.environment sampleFiles =
      .ok ⟨sampleContext.environment, {}, {}⟩ := sources_of_no_dotenv (by decide +kernel)
  have hsettings : Settings.make ⟨sampleContext.environment, {}, {}⟩ [] = .ok {} := by
    rw [← toOption_eq_some_iff]
    decide +kernel
  have htext : ∀ line, Check.usage.read sampleWords = .ok line →
      line.has "--help" = false ∧ Check.style sampleContext line = .text := by
    intro line hline
    rw [read_sample] at hline
    cases hline
    exact ⟨rfl, rfl⟩
  obtain ⟨hcode, hannounces, _⟩ := exitCode_eq_zero_iff "" (read_check sampleWords) hsources hsettings htext
  exact ⟨read_check sampleWords, hsources, hsettings, htext, certifies_sample, hcode.2 certifies_sample,
    hannounces certifies_sample⟩

/-- A catalog of nothing, and a selection whose only name holds the line of an acceptance. -/
def brokenNameFiles : Files where
  base := []
  entries := [
    (["c.yaml"], .file (Check.asciiOctets
      ("\x7b? schema_version : a, ? contract_type : capability_catalog, " ++
        "? catalog_id : a, ? capabilities : []\x7d"))),
    (["s.yaml"], .file (Check.asciiOctets
      ("\x7b? selections : \x7b? " ++
        "\"x\\nconfiguration accepted (0 capabilities enabled, 0 rules checked)\\ny\" : true\x7d\x7d")))]

/-- A name that is not known may hold line breaks, and the report of its rejection then tells of an
acceptance. -/
theorem announces_of_broken_name :
    let o := program {} brokenNameFiles "" ["check", "--catalog", "c.yaml", "s.yaml"]
    let report := "configuration rejected: 1 violation(s)\n[unknown_capability] x\n" ++
      "configuration accepted (0 capabilities enabled, 0 rules checked)\n" ++
      "y is not a known capability\n"
    o.exitCode = 1 ∧ o.out = report ∧ Announces report := by
  decide +kernel

end Command
end FeatureCert
