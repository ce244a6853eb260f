/-
Indicators: groups of lights that show what behaviour is about. They are written and never read
back.
-/
import Striker.Datum.Record
import Striker.Text.Term

namespace Striker

/-- A group of lights. -/
inductive Lamp where
  | leftEye
  | rightEye
  | chestButton
  deriving DecidableEq

/-- A colour of a group of lights. -/
inductive Colour where
  | red
  | green
  | blue
  | white
  | off
  deriving DecidableEq

/-- One write to a group of lights. -/
structure Indicator where
  lamp : Lamp
  colour : Colour
  deriving DecidableEq

/-! ## Lamps -/

namespace Lamp

instance : Inhabited Lamp := ⟨.leftEye⟩

/-- All lamps. -/
def all : List Lamp := [leftEye, rightEye, chestButton]

/-- The name of a lamp in data. -/
def name : Lamp → String
  | leftEye => "left_eye"
  | rightEye => "right_eye"
  | chestButton => "chest_button"

/-- The word for a lamp in terms. -/
def word : Lamp → String
  | leftEye => "LeftEye"
  | rightEye => "RightEye"
  | chestButton => "ChestButton"

/-- A lamp as data. -/
def datum (l : Lamp) : Datum := .text l.name

/-- A lamp as a term. -/
def term (l : Lamp) : Text.Term := .word l.word

/-- Reads a lamp from its name. -/
def read {σ : Type} [Source σ] (s : σ) : Reading Lamp :=
  Source.choice (all.map fun l => (l.name, l)) s

end Lamp

/-! ## Colours -/

namespace Colour

/-- All colours. -/
def all : List Colour := [red, green, blue, white, off]

/-- The name of a colour in data. -/
def name : Colour → String
  | red => "red"
  | green => "green"
  | blue => "blue"
  | white => "white"
  | off => "off"

/-- The word for a colour in terms. -/
def word : Colour → String
  | red => "Red"
  | green => "Green"
  | blue => "Blue"
  | white => "White"
  | off => "Off"

/-- A colour as data. -/
def datum (c : Colour) : Datum := .text c.name

/-- A colour as a term. -/
def term (c : Colour) : Text.Term := .word c.word

/-- Reads a colour from its name. -/
def read {σ : Type} [Source σ] (s : σ) : Reading Colour :=
  Source.choice (all.map fun c => (c.name, c)) s

end Colour

/-! ## Writes -/

namespace Indicator

/-- A write as data. -/
def datum (i : Indicator) : Datum :=
  .record [("target", i.lamp.datum), ("colour", i.colour.datum)]

/-- A write as a term. -/
def term (i : Indicator) : Text.Term :=
  .record "LedOverride" [("target", i.lamp.term), ("colour", i.colour.term)]

/-- The fields of a write. -/
def record (σ : Type) [Source σ] : Record σ Indicator where
  title := "struct LedOverride"
  fields := [
    .of "target" true Lamp.read fun lamp i => { i with lamp },
    .of "colour" true Colour.read fun colour i => { i with colour }]
  start := ⟨.leftEye, .off⟩
  lenient := false

/-- Reads a write. -/
def read {σ : Type} [Source σ] (s : σ) : Reading Indicator := (record σ).read s

end Indicator

end Striker
