/-
What the standard output holds. Pieces that follow each other come out one after the other, and only the
count of the lines before them goes from one to the next. Where no event is shown, what is printed is all
there is. That is so if the log is turned off; where nothing is said about it, all events are shown but
those for debugging.
-/
import Striker.CommandLine.Program

namespace Striker

/-! ## Pieces -/

namespace Piece

@[simp] theorem printed_append (ps qs : List Piece) : printed (ps ++ qs) = printed ps ++ printed qs := by
  induction ps with
  | nil => simp [printed]
  | cons p ps ih => cases p <;> simp [printed, ih, String.append_assoc]

@[simp] theorem printed_events (es : List Event) : printed (es.map event) = "" := by
  induction es with
  | nil => rfl
  | cons e es ih => exact ih

end Piece

namespace Console

variable {c : Console} {lookup : String → Option String} {shown : Event → Bool} {n : Nat}

/-! ## Filters -/

/-- What every tick does is for debugging. -/
theorem level_of_isChatter {e : Event} (h : e.isChatter = true) : e.level = .debug := by
  cases e <;> first | rfl | cases h

theorem shows_of_off (h : lookup filterVariable = some "off") : c.shows lookup = fun _ => false := by
  funext e
  simp [shows, filter, h, c.off]

theorem shows_of_unset (h : lookup filterVariable = none) :
    c.shows lookup = fun e => decide (e.level ≠ .debug) := by
  funext e
  cases hchatter : e.isChatter with
  | false => simp [shows, filter, h, hchatter]
  | true => simp [shows, filter, h, hchatter, level_of_isChatter hchatter]

/-! ## Lines -/

/-- Where no event is shown, what is printed is all there is. -/
theorem render_of_hidden (h : ∀ e, shown e = false) (ps : List Piece) :
    c.render shown n ps = Piece.printed ps := by
  induction ps with
  | nil => rfl
  | cons p ps ih => cases p <;> simp [render, Piece.printed, h, ih]

/-- Events that are not shown leave no trace. -/
theorem render_events_of_hidden {es : List Event} (h : ∀ e ∈ es, shown e = false) (ps : List Piece) :
    c.render shown n (es.map .event ++ ps) = c.render shown n ps := by
  induction es with
  | nil => rfl
  | cons e es ih =>
    obtain ⟨he, hes⟩ := List.forall_mem_cons.1 h
    simp [render, he, ih hes]

/-! ## Dated lines -/

/-- The part of the program that an event comes from. -/
def source : Event → String
  | .activated .. => "bh_core::runner"
  | .deactivated .. => "bh_core::runner"
  | .simulationStarted .. => "bh_core::sim"
  | .settingsLoaded .. => "bh_core::config"
  | .walkFramesOverridden .. => "bh_core::config::env_overrides"
  | .thresholdOverridden .. => "bh_core::config::env_overrides"
  | .runStarted .. => "bh_sim"
  | .runFinished .. => "bh_sim"
  | .traceWritten .. => "bh_sim"
  | _ => "bh_core::task::walk_kick_dribble"

/-- A console whose lines begin with a time, the level of the event and its source. -/
def dated (time : String) : Console :=
  { plain false with line := fun _ e => time ++ (if e.level = .debug then " " else "  ") ++
      Event.levelName e.level ++ " " ++ source e ++ ": " ++ e.text ++ "\n" }

end Console

theorem Report.stdout_of_off {lookup : String → Option String} (c : Console)
    (h : lookup Console.filterVariable = some "off") (r : Report) : r.stdout c lookup = r.output :=
  Console.render_of_hidden (congrFun (Console.shows_of_off h)) r.pieces

end Striker
