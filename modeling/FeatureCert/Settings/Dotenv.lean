import FeatureCert.Selection.Basic
import FeatureCert.Settings.Environment

/-!
Files of environment variables: one assignment on a line, with comments, quoted values that may go over
several lines, and references to variables in braces. A statement that cannot be read is passed over.
-/
namespace FeatureCert.Dotenv

open FeatureCert.Text

abbrev Assignment := String × Option String

/-- One statement: what it assigns, if anything; `none` if it cannot be read. -/
abbrev Statement := Option (Option Assignment)

/-- A blank within a line. -/
def isGap (c : Char) : Bool := isBlank c && c != '\n'

def skipGaps (cs : List Char) : List Char := cs.dropWhile isGap

/-- Text up to a closing quote, and what follows it. A quote behind a backslash closes only if no other
does. -/
def quotedValue? (quote : Char) : List Char → Option (List Char × List Char)
  | [] => none
  | '\\' :: c :: rest =>
    if c == quote then
      match quotedValue? quote rest with
      | some (value, after) => some ('\\' :: c :: value, after)
      | none => some (['\\'], rest)
    else (quotedValue? quote (c :: rest)).map fun (value, after) => ('\\' :: value, after)
  | c :: rest =>
    if c == quote then some ([], rest)
    else (quotedValue? quote rest).map fun (value, after) => (c :: value, after)

/-- Character that a backslash and a letter stand for. -/
def escape? (double : Bool) (c : Char) : Option Char :=
  match c with
  | '\\' => some '\\'
  | '\'' => some '\''
  | '"' => if double then some '"' else none
  | 'a' => if double then some '\x07' else none
  | 'b' => if double then some '\x08' else none
  | 'f' => if double then some '\x0c' else none
  | 'n' => if double then some '\n' else none
  | 'r' => if double then some '\r' else none
  | 't' => if double then some '\t' else none
  | 'v' => if double then some '\x0b' else none
  | _ => none

def unescape (double : Bool) : List Char → List Char
  | [] => []
  | '\\' :: c :: rest =>
    match escape? double c with
    | some e => e :: unescape double rest
    | none => '\\' :: unescape double (c :: rest)
  | c :: rest => c :: unescape double rest

/-- Text in front of a comment, which begins behind a blank. -/
def beforeComment (afterBlank : Bool) : List Char → List Char
  | [] => []
  | c :: rest =>
    if c == '#' && afterBlank then [] else c :: beforeComment (isBlank c) rest

def trimRight (cs : List Char) : List Char := (cs.reverse.dropWhile isBlank).reverse

/-- Value at the start of a text, and what follows it. -/
def value? (cs : List Char) : Option (List Char × List Char) :=
  match cs with
  | '\'' :: rest => (quotedValue? '\'' rest).map fun (v, after) => (unescape false v, after)
  | '"' :: rest => (quotedValue? '"' rest).map fun (v, after) => (unescape true v, after)
  | _ =>
    let line := cs.takeWhile (· != '\n')
    some (trimRight (beforeComment false line), cs.drop line.length)

/-- Drops the word `export` where blanks follow it. -/
def skipExport (cs : List Char) : List Char :=
  if startsWith "export".toList cs && ((cs.drop 6).head?.map isGap).getD false then
    skipGaps (cs.drop 6)
  else cs

/-- Key at the start of a text; a comment has none. -/
def key? (cs : List Char) : Option (Option String × List Char) :=
  match cs with
  | '#' :: _ => some (none, cs)
  | '\'' :: rest =>
    match splitFirst '\'' rest with
    | (name, some after) => if name.isEmpty then none else some (some (String.ofList name), after)
    | (_, none) => none
  | _ =>
    let name := cs.takeWhile fun c => c != '=' && c != '#' && !isBlank c
    if name.isEmpty then none else some (some (String.ofList name), cs.drop name.length)

/-- Drops a comment up to the end of its line. -/
def skipComment (cs : List Char) : List Char :=
  match skipGaps cs with
  | '#' :: rest => rest.dropWhile (· != '\n')
  | _ => cs

/-- The text behind a line's end, if nothing but blanks stands before it. -/
def lineEnd? (cs : List Char) : Option (List Char) :=
  match skipGaps cs with
  | [] => some []
  | '\n' :: rest => some rest
  | _ => none

def nextLine (cs : List Char) : List Char := (cs.dropWhile (· != '\n')).tail

/-- Value behind a key, if an equals sign follows it, and the text behind; or the text that is no value. -/
def assigned (cs : List Char) : Except (List Char) (Option (List Char) × List Char) :=
  match cs with
  | '=' :: rest =>
    let rest := skipGaps rest
    match value? rest with
    | some (v, after) => .ok (some v, after)
    | none => .error rest
  | _ => .ok (none, cs)

/-- Reads one statement, and gives the text behind it. -/
def statement (cs : List Char) : Statement × List Char :=
  let cs := cs.dropWhile isBlank
  if cs.isEmpty then (some none, [])
  else
    let cs := skipExport cs
    match key? cs with
    | none => (none, nextLine cs)
    | some (key, cs) =>
      match assigned (skipGaps cs) with
      | .error rest => (none, nextLine rest)
      | .ok (value, after) =>
        let after := skipComment after
        match lineEnd? after with
        | some rest =>
          (some (key.map fun k => (k, value.map String.ofList)), rest)
        | none => (none, nextLine after)

/-- Statements of a text, each with the number of the line that it begins at. -/
def statements : Nat → Nat → List Char → List (Statement × Nat)
  | 0, _, _ => []
  | fuel + 1, line, cs =>
    if cs.isEmpty then []
    else
      let (s, rest) := statement cs
      let used := cs.take (cs.length - rest.length)
      (s, line) :: statements fuel (line + used.count '\n') rest

/-- A reference to a variable in braces behind a dollar sign: its name, its default, and the rest. -/
def reference? (cs : List Char) : Option (String × Option String × List Char) :=
  match cs with
  | '\x7b' :: rest =>
    let name := rest.takeWhile fun c => c != '\x7d' && c != ':'
    match rest.drop name.length with
    | '\x7d' :: after => some (String.ofList name, none, after)
    | ':' :: '-' :: more =>
      match splitFirst '\x7d' more with
      | (default, some after) => some (String.ofList name, some (String.ofList default), after)
      | (_, none) => none
    | _ => none
  | _ => none

/-- Value of a reference: what the file assigned before, or else the environment, or else the default. -/
def resolve (e : Environment) (before : List Assignment) (name : String) (default : Option String) :
    String :=
  match before.reverse.find? (·.1 == name) with
  | some (_, value) => value.getD ""
  | none => ((e.get? name) <|> default).getD ""

/-- Puts values in place of references; `skip` characters were used already. -/
def interpolate (e : Environment) (before : List Assignment) (skip : Nat) : List Char → List Char
  | [] => []
  | c :: rest =>
    match skip with
    | n + 1 => interpolate e before n rest
    | 0 =>
      if c == '$' then
        match reference? rest with
        | some (name, default, after) =>
          (resolve e before name default).toList ++
            interpolate e before (rest.length - after.length) rest
        | none => '$' :: interpolate e before 0 rest
      else c :: interpolate e before 0 rest

/-- Assignments with their references resolved, in order. -/
def resolveAll (e : Environment) (before : List Assignment) : List Assignment → List Assignment
  | [] => before
  | (name, value) :: rest =>
    let value := value.map fun v => String.ofList (interpolate e before 0 v.toList)
    resolveAll e (before ++ [(name, value)]) rest

/-- What a file holds: its assignments, the last one of a name at the place of the first, and the lines
where a statement cannot be read. -/
structure Content where
  assignments : List Assignment := []
  badLines : List Nat := []

def read (e : Environment) (text : String) : Content :=
  let cs := text.toList
  let found := statements (cs.length + 1) 1 cs
  ⟨Selection.collect (resolveAll e [] (found.filterMap fun (s, _) => s.join)),
    found.filterMap fun (s, line) => if s.isNone then some line else none⟩

def warning (line : Nat) : String :=
  s!"python-dotenv could not parse statement starting at line {line}"

end FeatureCert.Dotenv
