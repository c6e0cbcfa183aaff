import FeatureCert.Catalog.Build

/-!
Queries on a rule set: the rules that mention a name, and the dependency edges in both directions.
-/
namespace FeatureCert.RuleSet

variable {catalog : Catalog}

/-- Rules with a name among their identifiers, in order. -/
def mentioning (rules : RuleSet catalog) (name : String) : List Rule :=
  rules.byMention.under name

def withSubject (rules : RuleSet catalog) (name : String) : List Rule :=
  rules.bySubject.under name

def dependenciesOf (rules : RuleSet catalog) (name : String) : List String :=
  distinctNames
    (((rules.withSubject name).filter (·.constraint.isDependency)).flatMap (·.objects))

def dependentsOf (rules : RuleSet catalog) (name : String) : List String :=
  let edges := (rules.mentioning name).filter fun r =>
    r.constraint.isDependency && r.objects.contains name
  distinctNames (edges.map (·.subject))

def excludes (rules : RuleSet catalog) (a b : String) : Bool :=
  rules.rules.any fun r => r.exclusion?.any (Rule.samePair (a, b))

def exclusionCount (rules : RuleSet catalog) : Nat :=
  rules.rules.countP (·.exclusion?.isSome)

end FeatureCert.RuleSet
