/-
Sources: what a typed reader may ask of a part of a document, whatever the format. Every format
gives its own answers; the readers of the library's types are written once, against this
interface. Where a part of a document only repeats another, reading it may cost much more than
writing it, so the repetitions in a whole document are counted.
-/
import Striker.Datum.Basic

namespace Striker

/-! ## Reading -/

/-- Reading parts of a document, one after the other, with an outcome or a problem. The state is how
many repetitions are still allowed. -/
abbrev Reading := StateT Nat (Except Problem)

namespace Reading

/-- The outcome, with the given number of repetitions allowed. -/
def outcome {α : Type} (repetitions : Nat) (r : Reading α) : Except Problem α :=
  (r repetitions).map (·.1)

/-- Gives a mismatch without a place the given one. -/
def locate {α : Type} (place : Place) (r : Reading α) : Reading α := fun left =>
  (r left).mapError (Problem.locate place)

/-- Uses up a repetition, if there is one left. -/
def repetition : Reading Unit := do
  match ← get with
  | 0 => throw (.fault .malformed)
  | left + 1 => set left

end Reading

/-! ## Sources -/

/-- The parts of a list or table, as far as the document goes; `close` says why it does not go on
to the proper end. -/
inductive Opened (σ : Type) where
  | items (parts : List σ) (close : Option Fault)
  | entries (parts : List (σ × σ)) (close : Option Fault)

/-- What a key names: a field by its name, or by its position. -/
inductive Label where
  | name (s : String)
  | position (n : Nat)
  deriving DecidableEq

/-- A part of a document as a typed reader sees it. -/
class Source (σ : Type) where
  /-- A whole number from zero up to the bound, which is not included. -/
  whole : (bound : Nat) → (expected : String) → σ → Reading Nat
  single : σ → Reading Single
  double : σ → Reading Double
  flag : σ → Reading Bool
  /-- The part itself, unless it stands for nothing. -/
  optional : σ → Reading (Option σ)
  /-- One of the named values. -/
  choice : {α : Type} → List (String × α) → σ → Reading α
  /-- Reads what a key or a tag names. -/
  label : {α : Type} → (expected : String) → (Label → Reading α) → σ → Reading α
  /-- Reads the parts of a part that is wanted as a record. -/
  record : {α : Type} → (expected : String) → (Opened σ → Reading α) → σ → Reading α
  /-- Reads the parts of a part that may be of any kind but has to have parts. -/
  parts : {α : Type} → (expected : String) → (Opened σ → Reading α) → σ → Reading α
  /-- The part as a datum; `expected` says what it may be. -/
  datum : (expected : String) → σ → Reading Datum
  /-- Reads over a part. -/
  skip : σ → Reading Unit
  /-- The problem of a list in the place of a record that has items left over. -/
  surplus : (read total : Nat) → Problem

namespace Source

variable {σ : Type} [Source σ]

/-- The part as a datum that is kept for later. -/
def buffer (s : σ) : Reading Datum := datum "any value" s

/-- A whole number of 32 bits. -/
def word32 (s : σ) : Reading UInt32 :=
  UInt32.ofNat <$> whole UInt32.size "u32" s

/-- A whole number of 64 bits. -/
def word64 (s : σ) : Reading UInt64 :=
  UInt64.ofNat <$> whole UInt64.size "u64" s

/-- Something that may be missing. -/
def option {α : Type} (read : σ → Reading α) (s : σ) : Reading (Option α) := do
  match ← optional s with
  | none => return none
  | some part => return some (← read part)

end Source

/-- Nothing when the list or table was closed properly, otherwise its fault. -/
def closing : Option Fault → Reading Unit
  | none => pure ()
  | some f => throw (.fault f)

/-- A count of elements in words. -/
def describeElements (n : Nat) : String :=
  toString n ++ (if n = 1 then " element" else " elements")

/-! ## Data as a source -/

namespace Datum

/-- A datum in the place of something of another type. -/
def mismatch {α : Type} (expected : String) (d : Datum) : Reading α :=
  throw (.of (.type d.found expected))

/-- A number, rounded to the wanted format. -/
def real? {f : Format} : Datum → Option (Binary f)
  | natural n => some (.ofNat n)
  | integer i => some (.ofInt i)
  | single x => some x.convert
  | double x => some x.convert
  | _ => none

/-- A whole number within bounds. A number outside them has the right type and a wrong value. -/
def whole (bound : Nat) (expected : String) (d : Datum) : Reading Nat :=
  match d with
  | natural n => if n < bound then pure n else throw (.of (.value (.unsigned n) expected))
  | integer i =>
    if 0 ≤ i ∧ i.toNat < bound then pure i.toNat else throw (.of (.value (.signed i) expected))
  | d => d.mismatch expected

/-- A number in the given format. -/
def real {f : Format} (expected : String) (d : Datum) : Reading (Binary f) :=
  match d.real? with
  | some x => pure x
  | none => d.mismatch expected

/-- The value of a name, if it is one of the names to choose from. -/
def variant {α : Type} (choices : List (String × α)) (name : String) : Reading α :=
  match choices.find? (·.1 == name) with
  | some (_, a) => pure a
  | none => throw (.of (.variant name (choices.map (·.1))))

/-- The value that a label chooses, by its name or by its position. -/
def pick {α : Type} (choices : List (String × α)) : Label → Reading α
  | .name s => variant choices s
  | .position n => match choices[n]? with
    | some (_, a) => pure a
    | none =>
      let expected := "variant index 0 <= i < " ++ toString choices.length
      throw (.of (.value (.unsigned n) expected))

/-- Reads what a key names. -/
def label {α : Type} (expected : String) (read : Label → Reading α) (d : Datum) : Reading α :=
  match d with
  | text name => read (.name name)
  | natural n => read (.position n)
  | d => d.mismatch expected

/-- A choice is a text, or a table of one entry whose key chooses and whose value says nothing. -/
def choice {α : Type} (choices : List (String × α)) (d : Datum) : Reading α :=
  match d with
  | text name => variant choices name
  | table [(key, value)] => do
    let a ← key.label "variant identifier" (pick choices)
    match value with
    | unit => return a
    | value => value.mismatch "unit"
  | table _ => throw (.of (.value .map "map with a single key"))
  | d => d.mismatch "string or map"

/-- Reads the parts of a datum that has parts. -/
def open? {α : Type} (expected : String) (read : Opened Datum → Reading α) (d : Datum) :
    Reading α :=
  match d with
  | list items => read (.items items none)
  | table entries => read (.entries entries none)
  | d => d.mismatch expected

instance : Source Datum where
  whole := whole
  single := real "f32"
  double := real "f64"
  flag
    | flag b => pure b
    | d => d.mismatch "a boolean"
  optional
    | unit => pure none
    | d => pure (some d)
  choice := choice
  label := label
  record := open?
  parts := open?
  datum _ d := pure d
  skip _ := pure ()
  surplus read total := .of (.length total (describeElements read ++ " in sequence"))

end Datum

end Striker
