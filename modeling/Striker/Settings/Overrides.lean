/-
Overrides: two variables of the environment that change settings in the field. A variable that is
set has to parse. What was read before a bad value stays; the outcome is checked at the end.
-/
import Striker.Event
import Striker.Number.Numeral
import Striker.Settings.Basic
import Striker.Text.Blank

namespace Striker

/-- What applying overrides leads to. -/
structure Overridden where
  settings : Settings
  outcome : Except Invalid Unit
  events : List Event

namespace Settings

/-- The variable for the frames of a warm-up. -/
def walkFramesVariable : String := "BH_WALK_PHASE_FRAMES"

/-- The variable for the distance below which the ball is near. -/
def thresholdVariable : String := "BH_NEAR_FIELD_MM"

/-- The override of the warm-up. -/
def overrideWalkFrames (value : Option String) (s : Settings) :
    Except Invalid (Settings × List Event) :=
  match value with
  | none => .ok (s, [])
  | some raw => match word32? (Text.trim raw) with
    | some n => .ok ({ s with walkFrames := n }, [.walkFramesOverridden n])
    | none => .error (.override walkFramesVariable raw)

/-- The override of the distance. -/
def overrideThreshold (value : Option String) (s : Settings) :
    Except Invalid (Settings × List Event) :=
  match value with
  | none => .ok (s, [])
  | some raw => match Binary.ofText? (Text.trim raw) with
    | some x => .ok ({ s with threshold := x }, [.thresholdOverridden x])
    | none => .error (.override thresholdVariable raw)

/-- Applies the overrides that a look-up gives, and checks the settings. -/
def override (lookup : String → Option String) (s : Settings) : Overridden :=
  match s.overrideWalkFrames (lookup walkFramesVariable) with
  | .error e => ⟨s, .error e, []⟩
  | .ok (walked, first) => match walked.overrideThreshold (lookup thresholdVariable) with
    | .error e => ⟨walked, .error e, first⟩
    | .ok (settings, second) => ⟨settings, settings.check, first ++ second⟩

end Settings

end Striker
