/-
The handshake with motion. From a single frame behaviour cannot tell an action that has not started
from one that is over, so an attempt keeps a latch: it is triggered when motion is seen performing
the action, and confirmed when motion after that walks or lines up again. Anything else seen
meanwhile, a fall for instance, leaves the latch alone.
-/
import Striker.Action

namespace Striker

/-- How far an attempt has come. -/
inductive Handshake where
  | notTriggered
  | triggered
  | confirmed
  deriving DecidableEq

namespace Handshake

instance : Inhabited Handshake := ⟨.notTriggered⟩

/-- The check made before a request is chosen: motion has gone on from the action. -/
def check (h : Handshake) (active target : Action) : Handshake :=
  if h = triggered ∧ active ≠ target ∧ active.endsBallAction then confirmed else h

/-- The observation made after a request is chosen: motion performs the action. -/
def observe (h : Handshake) (active target : Action) : Handshake :=
  if h = notTriggered ∧ active = target then triggered else h

/-- All stages of a handshake. -/
def all : List Handshake := [notTriggered, triggered, confirmed]

/-- The name of a stage in data. -/
def name : Handshake → String
  | notTriggered => "not_triggered"
  | triggered => "triggered"
  | confirmed => "confirmed"

/-- The word for a stage in terms. -/
def word : Handshake → String
  | notTriggered => "NotTriggered"
  | triggered => "Triggered"
  | confirmed => "Confirmed"

/-- A stage as data. -/
def datum (h : Handshake) : Datum := .text h.name

/-- A stage as a term. -/
def term (h : Handshake) : Text.Term := .word h.word

/-- Reads a stage from its name. -/
def read {σ : Type} [Source σ] (s : σ) : Reading Handshake :=
  Source.choice (all.map fun h => (h.name, h)) s

end Handshake

end Striker
