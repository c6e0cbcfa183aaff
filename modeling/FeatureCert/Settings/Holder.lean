import FeatureCert.Settings.Basic

/-!
The holder of the settings in use. They are made when they are first asked for, or when overrides are
given, and stay in use until others are made or the holder is reset; a failure changes nothing.
-/
namespace FeatureCert.Settings

def ofFiles (environment : Environment) (files : Files) (overrides : List (String × Value)) :
    Except Failure Settings := do
  let sources ← Sources.ofFiles environment files (← Search.ofOverrides overrides)
  make sources overrides

/-- Settings with the number of their making, which no others have. -/
structure Made where
  serial : Nat
  settings : Settings
  deriving DecidableEq, Repr

structure Holder where
  next : Nat := 0
  current : Option Made := none
  deriving Repr

namespace Holder

/-- Makes settings that are not taken into use. -/
def make (h : Holder) (environment : Environment) (files : Files)
    (overrides : List (String × Value)) : Except Failure (Made × Holder) := do
  let settings ← ofFiles environment files overrides
  return (⟨h.next, settings⟩, { h with next := h.next + 1 })

/-- The settings in use, made anew if there are overrides. -/
def get (h : Holder) (environment : Environment) (files : Files)
    (overrides : List (String × Value)) : Except Failure (Made × Holder) := do
  match h.current, overrides with
  | some made, [] => return (made, h)
  | _, _ =>
    let (made, h) ← h.make environment files overrides
    return (made, { h with current := some made })

/-- Takes no settings into use until they are asked for again. -/
def reset (h : Holder) : Holder := { h with current := none }

end Holder
end FeatureCert.Settings
