import FeatureCert.Failure
import FeatureCert.Log.Traced

/-!
Sources of a selection that leave a record in the log: the text of a header, and a header file.
-/
namespace FeatureCert.Selection

open FeatureCert.Log

def headerPairs (lead text : String) : Traced Failure (List (String × Value)) := do
  let pairs ← Traced.mapError Failure.badLiteral (fromHeader lead text)
  Traced.writeAll [headerRecord pairs]
  return pairs

/-- Text of a header file, in which octets that are no text are replaced. -/
def headerText (files : Files) (path : Path) : Except Failure String :=
  match files.seek path.text with
  | .error fault => .error (.badPath fault)
  | .ok none => .error (.noFile "Config header" path.text)
  | .ok (some entry) => (Files.lossyTextOf entry).mapError .unreadable

def headerFilePairs (files : Files) (lead : String) (path : Path) :
    Traced Failure (List (String × Value)) := do
  headerPairs lead (← Traced.mapError id (headerText files path))

end FeatureCert.Selection
