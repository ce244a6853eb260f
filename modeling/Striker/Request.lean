/-
Requests: everything that behaviour asks of the rest of the robot for one frame.
-/
import Striker.Command
import Striker.Indicator

namespace Striker

/-- A request for one frame. -/
structure Request where
  body : Command
  /-- A hint that the robot lines up on the ball and wants a stable estimate of it. -/
  hint : Bool
  indicator : Option Indicator
  deriving DecidableEq

namespace Request

/-- Walking straight on, without a hint and without a light. -/
instance : Inhabited Request := ⟨⟨default, false, none⟩⟩

/-- A request as data. -/
def datum (r : Request) : Datum :=
  .record [("body", r.body.datum), ("doing_ball_line_up", .flag r.hint),
    ("led", .option Indicator.datum r.indicator)]

/-- A request as a term. -/
def term (r : Request) : Text.Term :=
  .record "BehaviourRequest" [("body", r.body.term),
    ("doing_ball_line_up", .word (if r.hint then "true" else "false")),
    ("led", .option (r.indicator.map Indicator.term))]

/-- The fields of a request. -/
def record (σ : Type) [Source σ] : Record σ Request where
  title := "struct BehaviourRequest"
  fields := [
    .of "body" true Command.read fun body r => { r with body },
    .of "doing_ball_line_up" true Source.flag fun hint r => { r with hint },
    .of "led" false (Source.option Indicator.read) fun indicator r => { r with indicator }]
  start := default
  lenient := false

/-- Reads a request. -/
def read {σ : Type} [Source σ] (s : σ) : Reading Request := (record σ).read s

end Request

end Striker
