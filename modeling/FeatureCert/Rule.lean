/-!
Rules between capabilities. A rule is about its subject and refers to the objects of its constraint.
-/
namespace FeatureCert

inductive RuleKind where
  | requires | requiresAny | excludes | range
  deriving DecidableEq, Repr

def RuleKind.name : RuleKind → String
  | .requires => "requires"
  | .requiresAny => "requires_any"
  | .excludes => "excludes"
  | .range => "range"

def RuleKind.all : List RuleKind := [.requires, .requiresAny, .excludes, .range]

def RuleKind.ofName? (name : String) : Option RuleKind :=
  all.find? (·.name == name)

theorem RuleKind.ofName?_name (k : RuleKind) : ofName? k.name = some k := by
  cases k <;> decide

inductive Constraint where
  /-- The target is on while the subject is. -/
  | requires (target : String)
  /-- One of the targets is on while the subject is. -/
  | requiresAny (targets : List String)
  /-- Subject and target are not both on. -/
  | excludes (target : String)
  /-- The subject's value lies between the bounds while its owner is on. -/
  | range (minimum maximum : Int)
  deriving DecidableEq, Repr

namespace Constraint

def kind : Constraint → RuleKind
  | .requires _ => .requires
  | .requiresAny _ => .requiresAny
  | .excludes _ => .excludes
  | .range .. => .range

/-- Names that a constraint refers to. -/
def objects : Constraint → List String
  | .requires target => [target]
  | .requiresAny targets => targets
  | .excludes target => [target]
  | .range .. => []

/-- Whether a constraint makes its subject depend on its objects. -/
def isDependency : Constraint → Bool
  | .requires _ => true
  | .requiresAny _ => true
  | _ => false

end Constraint

structure Rule where
  subject : String
  note : Option String := none
  constraint : Constraint
  deriving DecidableEq, Repr

namespace Rule

def kind (r : Rule) : RuleKind := r.constraint.kind

def objects (r : Rule) : List String := r.constraint.objects

def identifiers (r : Rule) : List String := r.subject :: r.objects

/-- The two names that a rule excludes from each other. -/
def exclusion? (r : Rule) : Option (String × String) :=
  match r.constraint with
  | .excludes target => some (r.subject, target)
  | _ => none

def samePair (p q : String × String) : Bool :=
  p == q || (p.1 == q.2 && p.2 == q.1)

/-- Whether two rules are exclusions of the same pair. -/
def repeatsExclusion (r s : Rule) : Bool :=
  match r.exclusion?, s.exclusion? with
  | some p, some q => samePair p q
  | _, _ => false

end Rule
end FeatureCert
