/-!
Issues of a document: what does not fit, and the path to it. A check gives what was read or all issues
found; two checks side by side gather the issues of both, the first ones first.
-/
namespace FeatureCert.Document

/-- One step on the way to a part of a document. -/
inductive Step where
  | key (name : String)
  | index (position : Int)
  deriving DecidableEq, Repr

inductive IssueKind where
  | missing | extraForbidden | invalidKey | modelType
  | stringType | stringUnicode | stringTooShort | stringPatternMismatch
  | enumValue | literalError | boolType | boolParsing
  | intType | intParsing | intParsingSize | intFromFloat | finiteNumber
  | listType | dictType | tupleType | tooShort
  | attributesType | tagNotFound | tagInvalid
  | valueError (message : String)
  deriving DecidableEq, Repr

def IssueKind.name : IssueKind → String
  | .missing => "missing"
  | .extraForbidden => "extra_forbidden"
  | .invalidKey => "invalid_key"
  | .modelType => "model_type"
  | .stringType => "string_type"
  | .stringUnicode => "string_unicode"
  | .stringTooShort => "string_too_short"
  | .stringPatternMismatch => "string_pattern_mismatch"
  | .enumValue => "enum"
  | .literalError => "literal_error"
  | .boolType => "bool_type"
  | .boolParsing => "bool_parsing"
  | .intType => "int_type"
  | .intParsing => "int_parsing"
  | .intParsingSize => "int_parsing_size"
  | .intFromFloat => "int_from_float"
  | .finiteNumber => "finite_number"
  | .listType => "list_type"
  | .dictType => "dict_type"
  | .tupleType => "tuple_type"
  | .tooShort => "too_short"
  | .attributesType => "model_attributes_type"
  | .tagNotFound => "union_tag_not_found"
  | .tagInvalid => "union_tag_invalid"
  | .valueError _ => "value_error"

structure Issue where
  kind : IssueKind
  path : List Step
  deriving DecidableEq, Repr

inductive Checked (α : Type) where
  | good (a : α)
  | bad (issues : List Issue)
  deriving Repr

namespace Checked

/-- Fails with one issue at the place that is checked. -/
def fail (kind : IssueKind) : Checked α := .bad [⟨kind, []⟩]

def isGood : Checked α → Bool
  | .good _ => true
  | .bad _ => false

def map (f : α → β) : Checked α → Checked β
  | .good a => .good (f a)
  | .bad issues => .bad issues

/-- Applies a checked function to a checked argument; issues of both are gathered. -/
def seq (f : Checked (α → β)) (x : Checked α) : Checked β :=
  match f, x with
  | .good f, .good a => .good (f a)
  | .good _, .bad issues => .bad issues
  | .bad issues, .good _ => .bad issues
  | .bad issues, .bad more => .bad (issues ++ more)

instance : Applicative Checked where
  pure := .good
  map := map
  seq f x := seq f (x ())

def andThen (x : Checked α) (f : α → Checked β) : Checked β :=
  match x with
  | .good a => f a
  | .bad issues => .bad issues

/-- Puts a step in front of the path of every issue. -/
def under (step : Step) : Checked α → Checked α
  | .good a => .good a
  | .bad issues => .bad (issues.map fun i => { i with path := step :: i.path })

@[simp] theorem under_good (step : Step) (a : α) : under step (.good a) = .good a := rfl

@[simp] theorem seq_good_good (f : α → β) (a : α) : seq (.good f) (.good a) = .good (f a) := rfl

/-- The first of two named alternatives that fits; if none does, the issues of both. -/
def either (name : String) (x : Checked α) (otherName : String) (y : Checked α) : Checked α :=
  match x, y with
  | .good a, _ => .good a
  | .bad _, .good a => .good a
  | .bad issues, .bad more =>
    let below (label : String) (i : Issue) : Issue := { i with path := .key label :: i.path }
    .bad (issues.map (below name) ++ more.map (below otherName))

/-- Checks of all members of a list. -/
def all (check : α → Checked β) : List α → Checked (List β)
  | [] => .good []
  | a :: rest => seq (map List.cons (check a)) (all check rest)

/-- Checks of all members of a list, each under its position. -/
def indexed (check : α → Checked β) (items : List α) : Checked (List β) :=
  all (fun (a, i) => under (.index i) (check a)) items.zipIdx

end Checked
end FeatureCert.Document
