import FeatureCert.Log.Record

/-!
Traced computations: a result or an error, with the log records that were written up to there.
-/
namespace FeatureCert.Log

/-- A computation that may fail and that writes log records. -/
abbrev Traced (ε α : Type) := ExceptT ε (StateM (List Record)) α

namespace Traced

def write (level : Level) (logger message : String) : Traced ε Unit :=
  modify (· ++ [⟨level, logger, message⟩])

def writeAll (records : List Record) : Traced ε Unit := modify (· ++ records)

def outcome (x : Traced ε α) : Except ε α × List Record := (x.run.run []).run

def result (x : Traced ε α) : Except ε α := x.outcome.1

def mapError (f : ε → δ) (x : Except ε α) : Traced δ α :=
  match x with
  | .ok a => pure a
  | .error e => throw (f e)

end Traced
end FeatureCert.Log
