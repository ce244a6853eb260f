/-
JSON documents as a source for typed readers. A reader goes through the document from the front, so
of two faults it meets the one that it reaches first, and what it does not look at it only reads
over. Numbers and strings are evaluated where they are looked at.
-/
import Striker.Datum.Source
import Striker.Json.Value

namespace Striker.Json

/-- A value of a document; `room` is how many lists and tables may still be opened inside each
other. -/
structure Cursor where
  room : Nat
  node : Node

namespace Cursor

/-- A fault as the outcome of reading. -/
def lift {α : Type} : Except Fault α → Reading α
  | .ok a => pure a
  | .error f => throw (.fault f)

/-- A value in the place of something of another type. -/
def mismatch {α : Type} (expected : String) (c : Cursor) : Reading α :=
  match c.node with
  | .null => throw (.of (.type .unit expected))
  | .flag b => throw (.of (.type (.flag b) expected))
  | .number n => do (← lift n.value).mismatch expected
  | .string s => do throw (.of (.type (.text (← lift s.value)) expected))
  | .array _ => throw (.of (.type .sequence expected))
  | .object _ => throw (.of (.type .map expected))
  | .fragment f => throw (.fault f)
  | .broken f => throw (.fault f)

/-- Reads a number from the value it has as a datum. -/
def number {α : Type} (read : Datum → Reading α) (expected : String) (c : Cursor) :
    Reading α :=
  match c.node with
  | .number n => do read (← lift n.value)
  | _ => c.mismatch expected

/-! ## Lists and tables -/

/-- The items of an array, and how it ends. -/
def items (room : Nat) : Items → List Cursor × Option Fault
  | .close f => ([], f)
  | .item value rest =>
    let (parts, close) := items room rest
    (⟨room, value⟩ :: parts, close)

/-- The members of an object, and how it ends. -/
def members (room : Nat) : Members → List (Cursor × Cursor) × Option Fault
  | .close f => ([], f)
  | .member name value rest =>
    let (parts, close) := members room rest
    ((⟨room, name⟩, ⟨room, value⟩) :: parts, close)

/-- Reads the parts of a value that has parts. A value nested too deeply is malformed. -/
def opened {α : Type} (expected : String) (read : Opened Cursor → Reading α) (c : Cursor) :
    Reading α :=
  match c.node with
  | .array list =>
    if c.room ≤ 1 then throw (.fault .malformed)
    else
      let (parts, close) := items (c.room - 1) list
      read (.items parts close)
  | .object table =>
    if c.room ≤ 1 then throw (.fault .malformed)
    else
      let (parts, close) := members (c.room - 1) table
      read (.entries parts close)
  | _ => c.mismatch expected

/-! ## Names -/

/-- The name that a string gives. -/
def name (expected : String) (c : Cursor) : Reading String :=
  match c.node with
  | .string s => lift s.value
  | _ => c.mismatch expected

/-- A value that says nothing. -/
def null (c : Cursor) : Reading Unit :=
  match c.node with
  | .null => pure ()
  | _ => c.mismatch "unit"

/-- A choice is a string, or an object of one member whose value is null. Anything else in its
place is malformed. -/
def choice {α : Type} (choices : List (String × α)) (c : Cursor) : Reading α :=
  match c.node with
  | .string s => do Datum.variant choices (← lift s.value)
  | .broken f => throw (.fault f)
  | .object table =>
    if c.room ≤ 1 then throw (.fault .malformed)
    else match table with
      | .close f => throw (.fault (f.getD .malformed))
      | .member word value rest => do
        let a ← Datum.variant choices (← name "variant identifier" ⟨c.room - 1, word⟩)
        null ⟨c.room - 1, value⟩
        match rest with
        | .close f => closing f
        | .member _ _ _ => throw (.fault .malformed)
        return a
  | _ => throw (.fault .malformed)

instance : Source Cursor where
  whole bound expected := number (Datum.whole bound expected) expected
  single := number (Datum.real "f32") "f32"
  double := number (Datum.real "f64") "f64"
  flag c := match c.node with
    | .flag b => pure b
    | _ => c.mismatch "a boolean"
  optional c := match c.node with
    | .null => pure none
    | _ => pure (some c)
  choice := choice
  label expected read c := do read (.name (← c.name expected))
  record := opened
  parts := opened
  datum _ c := lift (c.node.datum c.room)
  skip c := lift c.node.skip
  surplus _ _ := .fault .malformed

end Cursor

/-- Reads a whole text: one value, and nothing but space after it. -/
def read {α : Type} (reader : Cursor → Reading α) (text : String) : Except Problem α :=
  Reading.outcome 0 do
    let d := Document.ofText text
    let value ← reader ⟨depthLimit, d.root⟩
    closing d.close
    return value

end Striker.Json
