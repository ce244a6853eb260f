/-
The console: what becomes of the texts that the program prints and of the events that it reports. Both
come out in order at the same place, the events as lines of a log. A variable of the environment names a
filter for them; which filters there are, and how a line looks, is left to the console.
-/
import Striker.Event
import Striker.Text.Blank

namespace Striker

/-! ## Pieces -/

/-- What the program puts out: a text that it prints, or an event that it reports. -/
inductive Piece where
  | text (s : String)
  | event (e : Event)
  deriving DecidableEq

/-- The texts of pieces. -/
def Piece.printed : List Piece → String
  | [] => ""
  | text s :: rest => s ++ printed rest
  | event _ :: rest => printed rest

/-! ## Consoles -/

/-- What shows events. -/
structure Console where
  /-- Whether the program was built for debugging. -/
  debug : Bool
  /-- The filter that a text describes, if it describes one. -/
  filter? : String → Option (Event → Bool)
  /-- The line of an event. The number counts the lines before it. -/
  line : Nat → Event → String
  off : filter? "off" = some fun _ => false

/-- Whether the value of a variable turns something on: one of four words, in letters of either
case. -/
def isOn (value : Option String) : Bool :=
  match value with
  | none => false
  | some raw => ["1", "true", "yes", "on"].contains (Text.lower (Text.trim raw))

namespace Console

/-- The variable for the filter. -/
def filterVariable : String := "RUST_LOG"

/-- The variable for events about every tick. -/
def chatterVariable : String := "BH_DEBUG_TICKS"

variable (c : Console) (lookup : String → Option String)

/-- The filter in effect: the one that is described, or else all but what is for debugging. -/
def filter : Event → Bool :=
  ((lookup filterVariable).bind c.filter?).getD fun e => e.level ≠ .debug

/-- Whether an event is shown. What every tick does is only reported on demand, and never by a program
that was not built for it. -/
def shows (e : Event) : Bool :=
  (!e.isChatter || c.debug && isOn (lookup chatterVariable)) && c.filter lookup e

/-- What comes out of pieces after so many lines, if some events are shown. -/
def render (shown : Event → Bool) : Nat → List Piece → String
  | _, [] => ""
  | n, .text s :: rest => s ++ render shown n rest
  | n, .event e :: rest =>
    if shown e then c.line n e ++ render shown (n + 1) rest else render shown n rest

/-! ## A plain console -/

/-- The levels from the one that a word names on. -/
def levels? (word : String) : Option (List Level) :=
  match Text.lower word with
  | "off" => some []
  | "error" => some []
  | "warn" => some [.warn]
  | "info" => some [.info, .warn]
  | "debug" => some [.debug, .info, .warn]
  | "trace" => some [.debug, .info, .warn]
  | _ => none

/-- A console whose filters are levels, and whose lines have no times. -/
def plain (debug : Bool) : Console where
  debug
  filter? word := (levels? word).map fun levels e => levels.contains e.level
  line _ e := e.line ++ "\n"
  off := rfl

end Console

end Striker
