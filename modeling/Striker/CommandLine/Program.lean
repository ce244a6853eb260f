/-
The program: it runs a simulation or shows the settings in effect. It works wherever files can be
read and written, and says what it prints and reports instead of doing so.
-/
import Striker.CommandLine.Call
import Striker.CommandLine.Report
import Striker.Settings.Loading
import Striker.Settings.Overrides

namespace Striker.Program

/-- The version of the program. -/
def version : String := "0.1.0"

variable {m : Type → Type} [Monad m] [Storage m]

/-! ## Settings -/

/-- A failure with what lies behind it. -/
def causes (f : Failure) : List String := f.message :: f.cause?.toList

/-- Settings that the program arrives at, or what went wrong, and the events on the way. -/
structure Prepared where
  outcome : Except Complaint Settings
  events : List Event

/-- The settings to start from: the standard ones, or those of a file. -/
def load : Option Path → m Prepared
  | none => pure ⟨.ok .standard, []⟩
  | some path => do
    match ← Settings.load path with
    | .ok loaded => return ⟨.ok loaded.settings, [loaded.event]⟩
    | .error f => return ⟨.error ⟨"loading behaviour config " ++ path.text, causes f⟩, []⟩

/-- Applies the overrides that a look-up gives. -/
def Prepared.override (lookup : String → Option String) (p : Prepared) : Prepared :=
  match p.outcome with
  | .error _ => p
  | .ok s =>
    let o := s.override lookup
    ⟨(o.outcome.map fun () => o.settings).mapError fun e =>
      ⟨"applying environment overrides", causes (.invalid e)⟩, p.events ++ o.events⟩

/-- The settings in effect. -/
def settings (lookup : String → Option String) (path : Option Path) : m Prepared := do
  return (← load path).override lookup

/-! ## Simulations -/

/-- A time in seconds, with one place. -/
def seconds (x : Single) : String := x.writeFixed 1 ++ "s"

/-- What is printed before a simulation. -/
def banner (s : Settings) (scenario : Scenario) : String :=
  let rate := toString s.frameRate.toNat
  let time : Single := .ofNat scenario.frames.toNat / .ofNat s.frameRate.toNat
  "🤖 Running behaviour simulation...\n"
    ++ "   Frames:     " ++ toString scenario.frames.toNat
    ++ " (" ++ seconds time ++ " at " ++ rate ++ " Hz)\n"
    ++ "   Warm-up:    " ++ toString s.walkFrames.toNat
    ++ " frames (" ++ seconds s.walkSeconds ++ ")\n"
    ++ "   Seed:       " ++ toString scenario.seed.toNat ++ "\n"

/-- What is printed after a simulation. -/
def results (o : Outcome) : String :=
  "\n" ++ o.summary.text ++ "\nmotion performed:   " ++ toString o.performed ++ "\n"

/-- Writes the log of a simulation, and says so. -/
def writeTrace (log : Log Status) (path : Path) : m (Except Complaint (List Piece)) := do
  match ← Storage.write path (Text.encode (log.text Status.datum)) with
  | .ok () =>
    return .ok [.event (.traceWritten path.text log.size),
      .text ("📝 Trace: " ++ path.text ++ " (" ++ toString log.size ++ " ticks)\n")]
  | .error e => return .error ⟨"writing trace " ++ path.text, [e.message]⟩

/-- What is reported before a simulation. -/
def started (s : Settings) (scenario : Scenario) : Event :=
  .runStarted scenario.frames scenario.seed scenario.lineupFrames scenario.actionFrames
    scenario.dropout s.walkFrames

/-- What is reported after a simulation. -/
def finished (o : Outcome) : Event :=
  .runFinished o.summary.kicksCompleted o.summary.dribblesCompleted o.performed

/-- What comes out before a simulation. -/
def opening (s : Settings) (scenario : Scenario) : List Piece :=
  [.text (banner s scenario), .event (started s scenario)]

/-- What comes out of a simulation. -/
def course (o : Outcome) : List Piece :=
  o.events.map Piece.event ++ [.event (finished o), .text (results o)]

/-- Runs a simulation. -/
def simulate (lookup : String → Option String) (o : RunOptions) : m Report := do
  let prepared ← settings lookup o.config
  let pieces := prepared.events.map Piece.event
  match prepared.outcome with
  | .error c => return c.report pieces
  | .ok s =>
    let pieces := pieces ++ opening s o.scenario
    match Simulation.ofScenario s o.scenario with
    | .error e => return (⟨(Failure.invalid e).message, []⟩ : Complaint).report pieces
    | .ok simulation =>
      let outcome := simulation.run
      let pieces := pieces ++ course outcome
      match o.trace with
      | none => return ⟨0, pieces, ""⟩
      | some path => match ← writeTrace outcome.log path with
        | .ok more => return ⟨0, pieces ++ more, ""⟩
        | .error c => return c.report pieces

/-- Shows the settings in effect. -/
def inspect (lookup : String → Option String) (path : Option Path) : m Report := do
  let prepared ← settings lookup path
  let pieces := prepared.events.map Piece.event
  match prepared.outcome with
  | .ok s => return ⟨0, pieces ++ [.text (Yaml.text s.datum)], ""⟩
  | .error c => return c.report pieces

/-! ## Calls -/

/-- How the program is called. -/
def usage : Report :=
  ⟨2, [], "Usage: run [--config PATH] [--frames N] [--seed N] [--lineup-frames N] "
    ++ "[--action-frames N] [--dropout P] [--trace PATH]\n       config [--config PATH]\n"⟩

/-- Does what a call asks for. -/
def carryOut (lookup : String → Option String) : Call → m Report
  | .run o => simulate lookup o
  | .config path => inspect lookup path

/-- Runs the program with the words of a command line. -/
def run (lookup : String → Option String) (words : List Bytes) : m Report :=
  match Call.ofWords? words with
  | some call => carryOut lookup call
  | none => return usage

end Striker.Program
