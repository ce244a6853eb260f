/-
The state of the walk, kick and dribble task: the ball action to attempt next, the phase of the last
tick, and how far the warm-up or the attempt has come.
-/
import Striker.Command
import Striker.Indicator
import Striker.Task.Handshake

namespace Striker

/-- The ball action that is attempted after the next warm-up. -/
inductive Target where
  | kick
  | dribble
  deriving DecidableEq

/-- What a tick is part of: a warm-up, or an attempt. -/
inductive Phase where
  | warmup
  | kickAttempt
  | dribbleAttempt
  deriving DecidableEq

/-! ## Targets -/

namespace Target

instance : Inhabited Target := ⟨.kick⟩

/-- The flag that alternates: 0 for a kick, 1 for a dribble. -/
def flag : Target → Nat
  | kick => 0
  | dribble => 1

/-- The target after this one. -/
def other : Target → Target
  | kick => dribble
  | dribble => kick

/-- The action that motion reports while it carries the target out. -/
def action : Target → Action
  | kick => .kick
  | dribble => .dribble

/-- The command that asks for the target. -/
def command : Target → Single → Command
  | kick => .kick
  | dribble => .dribble

/-- The phase in which the target is attempted. -/
def phase : Target → Phase
  | kick => .kickAttempt
  | dribble => .dribbleAttempt

/-- Both targets. -/
def all : List Target := [kick, dribble]

/-- The name of a target in data. -/
def name : Target → String
  | kick => "kick"
  | dribble => "dribble"

/-- The word for a target in terms. -/
def word : Target → String
  | kick => "Kick"
  | dribble => "Dribble"

/-- A target as data. -/
def datum (t : Target) : Datum := .text t.name

/-- A target as a term. -/
def term (t : Target) : Text.Term := .word t.word

/-- Reads a target from its name. -/
def read {σ : Type} [Source σ] (s : σ) : Reading Target :=
  Source.choice (all.map fun t => (t.name, t)) s

end Target

/-! ## Phases -/

namespace Phase

instance : Inhabited Phase := ⟨.warmup⟩

/-- The colour that shows a phase. -/
def colour : Phase → Colour
  | warmup => .red
  | kickAttempt => .blue
  | dribbleAttempt => .green

/-- All phases. -/
def all : List Phase := [warmup, kickAttempt, dribbleAttempt]

/-- The name of a phase in data. -/
def name : Phase → String
  | warmup => "warmup"
  | kickAttempt => "kick_attempt"
  | dribbleAttempt => "dribble_attempt"

/-- The word for a phase in terms. -/
def word : Phase → String
  | warmup => "Warmup"
  | kickAttempt => "KickAttempt"
  | dribbleAttempt => "DribbleAttempt"

/-- A phase as data. -/
def datum (p : Phase) : Datum := .text p.name

/-- A phase as a term. -/
def term (p : Phase) : Text.Term := .word p.word

/-- Reads a phase from its name. -/
def read {σ : Type} [Source σ] (s : σ) : Reading Phase :=
  Source.choice (all.map fun p => (p.name, p)) s

end Phase

/-! ## States -/

/-- What a task remembers from tick to tick. -/
structure State where
  /-- The frames walked in this warm-up. -/
  walkFrames : Nat
  target : Target
  handshake : Handshake
  deriving DecidableEq

namespace State

/-- The start of a warm-up before a kick. -/
def initial : State := ⟨0, .kick, .notTriggered⟩

instance : Inhabited State := ⟨initial⟩

/-- The fields of a state as data. -/
def entries (s : State) : List (String × Datum) :=
  [("walk_frames", .natural s.walkFrames), ("target", s.target.datum),
    ("handshake", s.handshake.datum)]

/-- A state as data. -/
def datum (s : State) : Datum := .record s.entries

/-- A state as a term. -/
def term (s : State) : Text.Term :=
  .record "BehaviourTaskState" [("walk_frames", .whole s.walkFrames),
    ("target", s.target.term), ("handshake", s.handshake.term)]

/-- The fields of a state. -/
def record (σ : Type) [Source σ] : Record σ State where
  title := "struct BehaviourTaskState"
  fields := [
    .of "walk_frames" true (Source.whole UInt32.size "u32") fun walkFrames s =>
      { s with walkFrames },
    .of "target" true Target.read fun target s => { s with target },
    .of "handshake" true Handshake.read fun handshake s => { s with handshake }]
  start := initial
  lenient := false

/-- Reads a state. -/
def read {σ : Type} [Source σ] (s : σ) : Reading State := (record σ).read s

end State

/-! ## Status -/

/-- What a task shows of itself: the phase of the last tick, and its state. -/
structure Status where
  phase : Phase
  state : State
  deriving DecidableEq

namespace Status

instance : Inhabited Status := ⟨⟨default, default⟩⟩

/-- A status as data: one record with the phase and the fields of the state. -/
def datum (s : Status) : Datum := .record (("phase", s.phase.datum) :: s.state.entries)

/-- A status as a term. -/
def term (s : Status) : Text.Term :=
  .record "TaskStatus" [("phase", s.phase.term), ("state", s.state.term)]

variable {σ : Type} [Source σ]

/-- Reads the entries of a status: the phase, wherever it stands, and the others as data. -/
def readEntries : List (σ × σ) → Option Phase → List (Datum × Datum) →
    Reading (Option Phase × List (Datum × Datum))
  | [], phase, others => pure (phase, others.reverse)
  | (key, value) :: entries, phase, others => do
    match ← Source.label "field identifier" pure key with
    | .name "phase" =>
      if phase.isSome then throw (.of (.duplicate "phase"))
      else readEntries entries (some (← Phase.read value)) others
    | .name name => readEntries entries phase ((.text name, ← Source.buffer value) :: others)
    | .position n => readEntries entries phase ((.natural n, ← Source.buffer value) :: others)

/-- Whether an entry belongs to the state. -/
def isStateEntry (entry : Datum × Datum) : Bool :=
  match entry.1 with
  | .text name => ["walk_frames", "target", "handshake"].contains name
  | _ => false

/-- An entry whose value is a choice with an empty table says no more than the choice alone. -/
def settle : Datum × Datum → Datum × Datum
  | (key, .table [(name, .table [])]) => (key, .table [(name, .unit)])
  | entry => entry

/-- Reads a status from the entries of a table. A list is no status, since the fields of the state
have no fixed places in it. -/
def readParts : Opened σ → Reading Status
  | .items _ _ => throw (.of (.type .sequence "struct TaskStatus"))
  | .entries entries close => do
    let (phase, others) ← readEntries entries none []
    closing close
    match phase with
    | none => throw (.of (.missing "phase"))
    | some phase =>
      let others := (others.filter isStateEntry).map settle
      return ⟨phase, ← State.read (Datum.table others)⟩

/-- Reads a status. -/
def read (s : σ) : Reading Status := Source.record "struct TaskStatus" readParts s

end Status

end Striker
