/-!
State of one capability, as a run settles it or a snapshot holds it.
-/
namespace FeatureCert

/-- State of one capability. For a parameter `enabled` says that its value was overridden; flags and
hooks have no value. -/
structure State where
  enabled : Bool
  value : Option Int := none
  /-- Set by a selection and not by default. -/
  explicit : Bool := false
  deriving DecidableEq, Repr

end FeatureCert
