/-
Records: reading a value with named fields from any source. Fields come in any order, unknown ones
are read over, none may come twice, and those that are required may not be missing. Where a source
gives a list, its items are the fields in order.
-/
import Striker.Datum.Source

namespace Striker

/-- One field of a record of type `α`: how a part of a source is put into the record. -/
structure Field (σ α : Type) where
  name : String
  /-- Whether a table without this field is an error. -/
  required : Bool
  put : σ → α → Reading α

/-- A field whose value is read and then set. -/
def Field.of {σ α β : Type} (name : String) (required : Bool) (read : σ → Reading β)
    (set : β → α → α) : Field σ α :=
  ⟨name, required, fun s a => do return set (← read s) a⟩

/-- A record type: its title in messages, its fields, the record that reading starts from, and
whether a list may leave out fields at its end. -/
structure Record (σ α : Type) where
  title : String
  fields : List (Field σ α)
  start : α
  lenient : Bool

namespace Record

variable {σ α : Type} [Source σ]

/-- The field that a label names. -/
def field? (r : Record σ α) : Label → Option (Field σ α)
  | .name s => r.fields.find? (·.name == s)
  | .position n => r.fields[n]?

/-- Puts the entries of a table into a record, one after the other. `seen` are the names of the
fields that are already there. -/
def fill (r : Record σ α) : List (σ × σ) → List String → α → Reading (List String × α)
  | [], seen, a => pure (seen, a)
  | (key, value) :: rest, seen, a => do
    match ← Source.label "field identifier" (fun l => pure (r.field? l)) key with
    | none => do
      Source.skip value
      r.fill rest seen a
    | some f =>
      if f.name ∈ seen then throw (.of (.duplicate f.name))
      else r.fill rest (f.name :: seen) (← f.put value a)

/-- A table as a record. -/
def ofEntries (r : Record σ α) (entries : List (σ × σ)) (close : Option Fault) :
    Reading α := do
  let (seen, a) ← r.fill entries [] r.start
  closing close
  match r.fields.find? fun f => f.required && !seen.contains f.name with
  | some f => throw (.of (.missing f.name))
  | none => return a

/-- Puts the items of a list into the fields, in order; `read` of them are already there. -/
def line (r : Record σ α) (close : Option Fault) :
    List (Field σ α) → List σ → (read : Nat) → α → Reading α
  | [], [], _, a => do
    closing close
    return a
  | [], rest, read, _ => throw (Source.surplus σ read (read + rest.length))
  | _ :: _, [], read, a => do
    closing close
    if r.lenient then return a
    else throw (.of (.length read (r.title ++ " with " ++ describeElements r.fields.length)))
  | f :: fields, item :: rest, read, a => do r.line close fields rest (read + 1) (← f.put item a)

/-- The parts of a source as a record. -/
def ofOpened (r : Record σ α) : Opened σ → Reading α
  | .items parts close => r.line close r.fields parts 0 r.start
  | .entries parts close => r.ofEntries parts close

/-- Reads a record. -/
def read (r : Record σ α) (s : σ) : Reading α :=
  Source.record r.title r.ofOpened s

end Record

end Striker
