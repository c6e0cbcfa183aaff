import FeatureCert.Settings.Holder

/-!
A session with settings: the holder of those in use, and the surroundings that new ones are made from. The
surroundings may change at any time; an action that fails leaves a session too, from which the next one
goes on.
-/
namespace FeatureCert.Settings

structure Session where
  holder : Holder := {}
  environment : Environment
  files : Files

namespace Session

inductive Action where
  /-- Asks for the settings in use, or with overrides for new ones. -/
  | get (overrides : List (String × Value))
  /-- Makes settings that are not taken into use. -/
  | make (overrides : List (String × Value))
  | reset
  /-- Other surroundings than before. -/
  | move (environment : Environment) (files : Files)

/-- The settings that an action gives, if it gives some and does not fail, and the session that it leaves. -/
structure Outcome where
  result : Except Failure (Option Made)
  session : Session

/-- Takes the holder that an action leaves into a session. -/
def conclude (s : Session) : Except Failure (Made × Holder) → Outcome
  | .ok (made, holder) => ⟨.ok (some made), { s with holder }⟩
  | .error failure => ⟨.error failure, s⟩

def perform (s : Session) : Action → Outcome
  | .get overrides => s.conclude (s.holder.get s.environment s.files overrides)
  | .make overrides => s.conclude (s.holder.make s.environment s.files overrides)
  | .reset => ⟨.ok none, { s with holder := s.holder.reset }⟩
  | .move environment files => ⟨.ok none, { s with environment, files }⟩

def after (s : Session) (actions : List Action) : Session :=
  actions.foldl (fun s action => (s.perform action).session) s

end Session
end FeatureCert.Settings
