/-
Data: the values that the text formats have in common, and what can go wrong when one is read as a
value of a certain type. A problem is a cause; its wording, which differs a little between the
formats, is made in one place.
-/
import Striker.Number.Notation
import Striker.Text.Quoted

namespace Striker

/-- A value of the text formats. -/
inductive Datum where
  | unit
  | flag (b : Bool)
  | natural (n : Nat)
  | integer (i : Int)
  | single (x : Single)
  | double (x : Double)
  | text (s : String)
  | list (items : List Datum)
  | table (entries : List (Datum × Datum))

/-- A table whose keys are texts. -/
def Datum.record (fields : List (String × Datum)) : Datum :=
  .table (fields.map fun (name, value) => (.text name, value))

/-- The datum of what may be missing. -/
def Datum.option {α : Type} (datum : α → Datum) : Option α → Datum
  | none => .unit
  | some a => datum a

/-! ## Problems -/

/-- What a reader met in the place of what it wanted. -/
inductive Found where
  | flag (b : Bool)
  | unsigned (n : Nat)
  | signed (i : Int)
  | wide (i : Int)
  | real (x : Double)
  | text (s : String)
  | unit
  | option
  | sequence
  | map
  | choice
  deriving DecidableEq

/-- Why a value is not a value of the wanted type. -/
inductive Mismatch where
  | type (found : Found) (expected : String)
  | value (found : Found) (expected : String)
  | length (n : Nat) (expected : String)
  | variant (name : String) (known : List String)
  | missing (field : String)
  | duplicate (field : String)
  deriving DecidableEq

/-- A text that cannot be read on: wrong at some place, or at its end too early. -/
inductive Fault where
  | malformed
  | truncated
  deriving DecidableEq

/-- One step from a value into a part of it. -/
inductive Step where
  | key (name : String)
  | index (n : Nat)
  | unnamed
  deriving DecidableEq

/-- The way from the whole document to a part of it. -/
abbrev Place := List Step

/-- What ends the reading of a document. A mismatch has a place when its format tells one. -/
inductive Problem where
  | fault (f : Fault)
  | mismatch (m : Mismatch) (place : Option Place)
  deriving DecidableEq

/-- A mismatch that has no place yet. -/
def Problem.of (m : Mismatch) : Problem := .mismatch m none

/-- Gives a mismatch without a place the given one. -/
def Problem.locate (place : Place) : Problem → Problem
  | .mismatch m none => .mismatch m (some place)
  | p => p

/-! ## Wording -/

/-- The words of a format: how it names the unit value, and how it spells numbers. -/
structure Wording where
  unit : String
  real : Layout

/-- What was found, in words. -/
def Found.describe (w : Wording) : Found → String
  | .flag b => "boolean " ++ "`" ++ (if b then "true" else "false") ++ "`"
  | .unsigned n => "integer `" ++ toString n ++ "`"
  | .signed i => "integer `" ++ toString i ++ "`"
  | .wide i => "integer `" ++ toString i ++ "` as " ++ (if i < 0 then "i128" else "u128")
  | .real x => "floating point `" ++ w.real.write x ++ "`"
  | .text s => "string " ++ Text.quote s
  | .unit => w.unit
  | .option => "Option value"
  | .sequence => "sequence"
  | .map => "map"
  | .choice => "enum"

/-- A list of names to choose from. -/
def describeChoices : List String → String
  | [] => "there are no variants"
  | [a] => "expected `" ++ a ++ "`"
  | [a, b] => "expected `" ++ a ++ "` or `" ++ b ++ "`"
  | names => "expected one of " ++ ", ".intercalate (names.map fun n => "`" ++ n ++ "`")

/-- A mismatch in words. -/
def Mismatch.message (w : Wording) : Mismatch → String
  | .type found expected => "invalid type: " ++ found.describe w ++ ", expected " ++ expected
  | .value found expected => "invalid value: " ++ found.describe w ++ ", expected " ++ expected
  | .length n expected => "invalid length " ++ toString n ++ ", expected " ++ expected
  | .variant name known => "unknown variant `" ++ name ++ "`, " ++ describeChoices known
  | .missing field => "missing field `" ++ field ++ "`"
  | .duplicate field => "duplicate field `" ++ field ++ "`"

/-- A place in words: names separated by points, indices in brackets. The whole document is a
point. -/
def Place.render : Place → String
  | [] => "."
  | first :: rest => rest.foldl step (start first)
where
  /-- The words for a step from the whole document. -/
  start : Step → String
    | .key name => name
    | .index n => ".[" ++ toString n ++ "]"
    | .unnamed => "?"
  /-- The words for one more step. -/
  step (before : String) : Step → String
    | .key name => before ++ "." ++ name
    | .index n => before ++ "[" ++ toString n ++ "]"
    | .unnamed => before ++ ".?"

/-- A fault in words. -/
def Fault.message : Fault → String
  | .malformed => "the text cannot be read on"
  | .truncated => "the text ends too early"

/-- A problem in words, with its place in front unless that is only a point. -/
def Problem.message (w : Wording) : Problem → String
  | .fault f => f.message
  | .mismatch m none => m.message w
  | .mismatch m (some place) =>
    if place.render = "." then m.message w else place.render ++ ": " ++ m.message w

/-! ## Data as what was found -/

/-- How a datum is named where it does not belong. -/
def Datum.found : Datum → Found
  | .unit => .unit
  | .flag b => .flag b
  | .natural n => .unsigned n
  | .integer i => .signed i
  | .single x => .real x.convert
  | .double x => .real x
  | .text s => .text s
  | .list _ => .sequence
  | .table _ => .map

end Striker
