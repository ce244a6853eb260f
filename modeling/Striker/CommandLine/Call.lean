/-
Calls: what the words of a command line ask for. The first word says what to do; after it come
options, each at most once, whose value follows after an equals sign or as the next word.
-/
import Striker.Files.Path
import Striker.Number.Numeral
import Striker.Simulation

namespace Striker

/-- What to simulate, and where the settings come from and the log goes to. -/
structure RunOptions where
  config : Option Path
  scenario : Scenario
  trace : Option Path
  deriving DecidableEq

/-- What the program is asked to do. -/
inductive Call where
  /-- Run a simulation. -/
  | run (o : RunOptions)
  /-- Show the settings in effect. -/
  | config (path : Option Path)
  deriving DecidableEq

namespace Call

/-! ## Options -/

/-- The byte that a word which is no value begins with. -/
def hyphen : UInt8 := 0x2d

/-- The byte between an option and its value. -/
def equals : UInt8 := 0x3d

/-- A word as an option, with its value if that is a part of the word. -/
def option? (word : Bytes) : Option (String × Option Bytes) :=
  match word with
  | first :: second :: rest =>
    if first = hyphen ∧ second = hyphen ∧ rest ≠ [] then do
      let name ← Text.decode? (rest.takeWhile (· ≠ equals))
      match rest.dropWhile (· ≠ equals) with
      | [] => return (name, none)
      | _ :: value => return (name, some value)
    else none
  | _ => none

/-- Whether a word can be the value of the option before it. A hyphen alone can. -/
def isValue (word : Bytes) : Bool := word.head? ≠ some hyphen || word = [hyphen]

/-- The options that words give, in order. A word of two hyphens may end them, but nothing may come
after it. -/
def options? : List Bytes → Option (List (String × Bytes))
  | [] => some []
  | word :: words =>
    match option? word with
    | some (name, some value) => do return (name, value) :: (← options? words)
    | some (name, none) => match words with
      | [] => none
      | value :: words =>
        if isValue value then do return (name, value) :: (← options? words) else none
    | none => if word = [hyphen, hyphen] ∧ words = [] then some [] else none

/-! ## Values -/

/-- A path, which may not be empty. -/
def path? (value : Bytes) : Option Path := if value = [] then none else some ⟨value⟩

/-- A number of 64 bits without a sign. -/
def word? (value : Bytes) : Option UInt64 := (Text.decode? value).bind word64?

/-- A count of 32 bits. A minus sign may stand before nothing but zero. -/
def count? (value : Bytes) : Option UInt32 := do
  let text ← Text.decode? value
  match text.toList with
  | '-' :: digits => if (← digitsIn? 10 digits) = 0 then some 0 else none
  | _ => word32? text

/-- A number with a fraction. -/
def double? (value : Bytes) : Option Double := (Text.decode? value).bind Binary.ofText?

/-! ## Calls -/

/-- What is simulated where no option says otherwise. -/
def standardRun : RunOptions := ⟨none, .standard, none⟩

/-- Sets the option with the given name. -/
def setRun? (o : RunOptions) : String × Bytes → Option RunOptions
  | ("config", value) => do return { o with config := some (← path? value) }
  | ("frames", value) => do return { o with scenario.frames := ← word? value }
  | ("seed", value) => do return { o with scenario.seed := ← word? value }
  | ("lineup-frames", value) => do return { o with scenario.lineupFrames := ← count? value }
  | ("action-frames", value) => do return { o with scenario.actionFrames := ← count? value }
  | ("dropout", value) => do return { o with scenario.dropout := ← double? value }
  | ("trace", value) => do return { o with trace := some (← path? value) }
  | _ => none

/-- Sets the only option that there is for showing settings. -/
def setConfig? (_ : Option Path) : String × Bytes → Option (Option Path)
  | ("config", value) => do return some (← path? value)
  | _ => none

/-- The options of words, if none of them comes twice. -/
def distinct? (words : List Bytes) : Option (List (String × Bytes)) :=
  (options? words).filter fun options => (options.map (·.1)).Nodup

/-- What the words of a command line ask for. -/
def ofWords? : List Bytes → Option Call
  | [] => none
  | first :: words =>
    if first = Text.encode "run" then do
      return .run (← (← distinct? words).foldlM setRun? standardRun)
    else if first = Text.encode "config" then do
      return .config (← (← distinct? words).foldlM setConfig? none)
    else none

end Call

end Striker
