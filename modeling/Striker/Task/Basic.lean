/-
Tasks: what decides one request per frame. A task is activated once and then ticked once per frame
until it is deactivated. All it reads arrives in the context of a tick, all it writes leaves as a
request.
-/
import Striker.Board
import Striker.Event

namespace Striker

/-- What a task reads in one tick. -/
structure Context where
  /-- The number of the frame since activation. -/
  frame : Nat
  sighting : Sighting
  /-- What motion reports. -/
  active : Action
  /-- The request published in the tick before. -/
  published : Request
  deriving DecidableEq

namespace Context

/-- The context of a frame from a snapshot of the board. -/
def ofSnapshot (frame : Nat) (s : Snapshot) : Context := ⟨frame, s.sighting, s.active, s.published⟩

/-- A context as a term. -/
def term (c : Context) : Text.Term :=
  .record "TickContext" [("frame", .whole c.frame), ("perception", c.sighting.term),
    ("motion_active", c.active.term), ("published", c.published.term)]

end Context

/-- What a tick leads to. -/
structure Ticked (τ : Type) where
  task : τ
  request : Request
  events : List Event

/-- Tasks of type `τ`, which show a status of type `σ`. -/
class Behaviour (τ : Type) (σ : outParam Type) where
  name : τ → String
  /-- Resets the task; called at activation. -/
  init : τ → τ
  tick : τ → Context → Ticked τ
  status : τ → σ

end Striker
