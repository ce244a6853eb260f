/-
Loading settings from a file. The extension of the file says which format it has. What was read is
checked, so that settings that were loaded are valid.
-/
import Striker.Event
import Striker.Files.Basic
import Striker.Json.Cursor
import Striker.Json.Text
import Striker.Settings.Basic
import Striker.Text.Blank
import Striker.Yaml.Cursor
import Striker.Yaml.Text

namespace Striker

/-- Why something cannot be done. -/
inductive Failure where
  | invalid (e : Invalid)
  | file (e : FileError)
  | yaml (p : Problem)
  | json (p : Problem)
  | unsupported (path : Path)
  deriving DecidableEq

namespace Failure

/-- A failure that another file would not mend. -/
def isFatal : Failure → Bool
  | invalid _ => true
  | _ => false

/-- What lies behind a failure, in words, unless the failure says it all. -/
def cause? : Failure → Option String
  | invalid _ => none
  | file e => some e.message
  | yaml p => some (p.message Yaml.wording)
  | json p => some (p.message Json.wording)
  | unsupported _ => none

/-- A failure in words. -/
def message : Failure → String
  | invalid e => "Invalid config: " ++ e.message
  | file e => "IO error: " ++ e.message
  | yaml p => "YAML error: " ++ p.message Yaml.wording
  | json p => "JSON error: " ++ p.message Json.wording
  | unsupported path => "Unsupported config format: " ++ path.text

end Failure

/-- The text formats of settings. -/
inductive TextFormat where
  | yaml
  | json
  deriving DecidableEq

/-- The format that an extension stands for, in letters of either case. -/
def TextFormat.ofExtension? (extension : Bytes) : Option TextFormat :=
  match (Text.decode? extension).map Text.lower with
  | some "yaml" => some .yaml
  | some "yml" => some .yaml
  | some "json" => some .json
  | _ => none

/-- Settings that were loaded, and what is said about it. -/
structure Loaded where
  settings : Settings
  event : Event
  deriving DecidableEq

namespace Settings

/-- Reads settings from a text of the given format. -/
def parse (format : TextFormat) (text : String) : Except Failure Settings :=
  match format with
  | .yaml => (Yaml.read read text).mapError .yaml
  | .json => (Json.read read text).mapError .json

/-- Settings from what the file at a path holds. -/
def ofFile (path : Path) (content : Bytes) : Except Failure Loaded := do
  match Text.decode? content with
  | none => throw (.file .notText)
  | some text => match path.extension?.bind TextFormat.ofExtension? with
    | none => throw (.unsupported path)
    | some format =>
      let s ← parse format text
      s.check.mapError .invalid
      return ⟨s, .settingsLoaded path.text s.walkFrames s.threshold⟩

/-- Loads settings. -/
def load {m : Type → Type} [Monad m] [Storage m] (path : Path) : m (Except Failure Loaded) := do
  match ← Storage.read path with
  | .ok content => return ofFile path content
  | .error e => return .error (.file e)

end Settings

end Striker
