import FeatureCert.Snapshot
import FeatureCert.Value.Text

/-!
Selections: names with the values assigned to them, in order. Sources of a selection are merged so that
the last value of a name wins and the name keeps the place of its first mention.
-/
namespace FeatureCert

namespace Selection

/-- One selection out of several sources, later ones winning. -/
def merge [BEq κ] (sources : List (List (κ × α))) : List (κ × α) :=
  collect sources.flatten

end Selection

/-- A name of a selection with what is assigned to it, a value or the state that an earlier run settled;
any value may stand as a name. -/
structure Entry where
  name : Value
  assigned : Value

def Entry.ofPair (p : String × Value) : Entry := ⟨.text p.1, p.2⟩

def Snapshot.entries (s : Snapshot) : List Entry :=
  s.states.map fun (name, state) => ⟨.text name, .state state⟩

/-- A catalog's states as plain values that select the same: the number of an enabled parameter,
and on or off for the rest. -/
def Catalog.selectionOf (catalog : Catalog) (s : Snapshot) : List (String × Value) :=
  catalog.capabilities.map fun c =>
    match c.kind, s.isEnabled c.name, s.valueOf? c.name with
    | .parameter, true, some n => (c.name, .int n)
    | .parameter, true, none => (c.name, .null)
    | _, enabled, _ => (c.name, .bool enabled)

end FeatureCert
