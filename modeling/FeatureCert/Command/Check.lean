import FeatureCert.Command.CatalogFile
import FeatureCert.Report.Record
import FeatureCert.Selection.Source
import FeatureCert.Telemetry

/-!
The command that checks a configuration. Its sources are merged in a fixed order, so that a later one
wins: header, selection file, environment, definitions, and at last what is turned off.
-/
namespace FeatureCert.Command.Check

open FeatureCert.Log FeatureCert.Document

def usage : Usage where
  command := "cryptoconf check"
  shape := "[OPTIONS] [SELECTION_FILE]"
  options := [
    { names := ["--header"], reading := .file true },
    { names := ["-D", "--define"], repeated := true },
    { names := ["-U", "--undefine"], repeated := true },
    catalogOption,
    { names := ["--format"], reading := .choice ["text", "json"] },
    { names := ["--no-env"], takesValue := false },
    helpOption]
  operand := some ⟨"[SELECTION_FILE]", false, .file true⟩
  page := "\n".intercalate [
    "Usage: cryptoconf check [OPTIONS] [SELECTION_FILE]",
    "",
    "  Validate a feature configuration against the capability catalog.",
    "",
    "Options:",
    "  --header FILE              Read selections from an mbed-style config.h",
    "  -D, --define NAME[=VALUE]  Enable a capability or set a parameter (repeatable)",
    "  -U, --undefine NAME        Disable a capability (repeatable)",
    "  --catalog FILE             Alternative catalog YAML (default: built-in mbed-",
    "                             crypto catalog)",
    "  --format [text|json]       Report format (default: CRYPTOCONF_REPORT_FORMAT or",
    "                             text)",
    "  --no-env                   Ignore CRYPTOCONF_SET_* variables",
    "  --help                     Show this message and exit.",
    ""]

abbrev Source := List (String × Value)

def header (context : Context) (path : Path) : Run Source :=
  Run.expect (Selection.headerFilePairs context.files context.settings.headerLead path)

def selectionFile (context : Context) (path : Path) : Run Source := do
  match ← Run.logged (Shelf.load selectionKind context.files {} path) with
  | .ok (loaded, _) => return loaded.document.pairs
  | .error e =>
    match e, Failure.report? e with
    | .schema .., some text => Run.reject s!"Invalid selection file {path.text}: {text}" 1
    | .selectionDocument _, some text => Run.reject s!"Invalid selection file {path.text}: {text}" 1
    | e, _ => throw (.fault e)

def environment (context : Context) : Run Source :=
  match Selection.fromEnvironment context.settings.environmentLead
      context.environment.bindings with
  | .ok pairs => return pairs
  | .error fault => Run.reject fault.message 1

def definitions (option : String) (read : String → Except Selection.TextFault (String × Value))
    (values : List String) : Run Source :=
  match values.mapM read with
  | .ok pairs => return pairs
  | .error fault => Run.misuse usage (.invalid s!"'{option}'" fault.message)

/-- Sources of a command line, the weakest first. -/
def sources (context : Context) (line : Line) : Run (List Source) := do
  let fromHeader ← match line.path? "--header" with
    | some path => do pure [← header context path]
    | none => pure []
  let fromFile ← match line.operands.head? with
    | some path => do pure [← selectionFile context (.ofText path)]
    | none => pure []
  let fromVariables ←
    if line.has "--no-env" then pure [] else do pure [← environment context]
  let on ← definitions "-D" Selection.parseDefine (line.all "-D")
  let off ← definitions "-U" Selection.parseUndefine (line.all "-U")
  return fromHeader ++ fromFile ++ fromVariables ++ [on, off]

/-- One assignment for each name, the last one given. -/
def merge (sources : List Source) : List Entry :=
  (Selection.collect sources.flatten).map Entry.ofPair

def style (context : Context) (line : Line) : Style :=
  ((line.last? "--format").bind Style.ofName?).getD context.settings.reportStyle

def report (style : Style) (v : Verdict) : Except Numeral.DigitLimit String :=
  match style with
  | .text => v.text
  | .json => do (← v.record).indented 0

def run (context : Context) (words : List String) : Run Unit := do
  let line ← Run.readLine usage context.files words
  let tables ← loadTables context (line.path? "--catalog")
  let selection := merge (← sources context line)
  let verdict ← Run.expect (tables.validate selection)
  let _ ← Run.expect (Telemetry.report verdict)
  Run.say (← Run.demand ((report (style context line) verdict).mapError .ofDigitLimit))
  if !verdict.passed then Run.exit 1

end FeatureCert.Command.Check
