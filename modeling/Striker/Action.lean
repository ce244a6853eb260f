/-
Actions: what the body of the robot is doing, as motion reports it. Behaviour asks for a few of them
only; motion reports others too, such as lining up on the ball or getting up after a fall.
-/
import Striker.Datum.Source
import Striker.Text.Term

namespace Striker

/-- An action of the body. -/
inductive Action where
  | none
  | stand
  | walk
  | dribble
  | turnDribble
  | kick
  | lineUp
  | getupFront
  | getupBack
  | dead
  deriving DecidableEq

namespace Action

instance : Inhabited Action := ⟨.none⟩

/-- All actions. -/
def all : List Action :=
  [none, stand, walk, dribble, turnDribble, kick, lineUp, getupFront, getupBack, dead]

/-- The name of an action in data and messages. -/
def name : Action → String
  | none => "NONE"
  | stand => "STAND"
  | walk => "WALK"
  | dribble => "DRIBBLE"
  | turnDribble => "TURN_DRIBBLE"
  | kick => "KICK"
  | lineUp => "LINE_UP"
  | getupFront => "GETUP_FRONT"
  | getupBack => "GETUP_BACK"
  | dead => "DEAD"

/-- The word for an action in terms. -/
def word : Action → String
  | none => "None"
  | stand => "Stand"
  | walk => "Walk"
  | dribble => "Dribble"
  | turnDribble => "TurnDribble"
  | kick => "Kick"
  | lineUp => "LineUp"
  | getupFront => "GetupFront"
  | getupBack => "GetupBack"
  | dead => "Dead"

/-- An action that touches the ball; motion performs it after lining up. -/
def isBallAction (a : Action) : Bool := a = kick || a = dribble

/-- An action that a ball action ends with: motion walks, or lines up again. -/
def endsBallAction (a : Action) : Bool := a = walk || a = lineUp

/-- An action as data. -/
def datum (a : Action) : Datum := .text a.name

/-- An action as a term. -/
def term (a : Action) : Text.Term := .word a.word

/-- Reads an action from its name. -/
def read {σ : Type} [Source σ] (s : σ) : Reading Action :=
  Source.choice (all.map fun a => (a.name, a)) s

end Action

end Striker
