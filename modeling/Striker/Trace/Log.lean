/-
Logs: what happened in each tick, in order, to answer afterwards why the robot did what it did. A
log is written as JSON, one record a line.
-/
import Striker.Json.Text
import Striker.Trace.Summary

namespace Striker

/-- What happened in one tick: what motion reported, what was asked for, and the status of the task
afterwards. -/
structure Entry (σ : Type) where
  frame : Nat
  active : Action
  request : Request
  status : σ
  deriving DecidableEq

/-- The entries of a run, in the order of its ticks. -/
structure Log (σ : Type) where
  entries : List (Entry σ)
  deriving DecidableEq

/-- An entry as data. -/
def Entry.datum {σ : Type} (status : σ → Datum) (e : Entry σ) : Datum :=
  .record [("frame", .natural e.frame), ("motion_active", e.active.datum),
    ("request", e.request.datum), ("status", status e.status)]

namespace Log

variable {σ : Type}

/-- A log without entries. -/
def empty : Log σ := ⟨[]⟩

/-- A log with one more entry. -/
def push (l : Log σ) (e : Entry σ) : Log σ := ⟨l.entries ++ [e]⟩

/-- The number of entries. -/
def size (l : Log σ) : Nat := l.entries.length

/-- The commands given, in order. -/
def bodies (l : Log σ) : List Command := l.entries.map fun e => e.request.body

/-- Counts the requests of entries, given the summary so far and the action asked for before. -/
def summarize : List (Entry σ) → Option Action → Summary → Summary
  | [], _, s => s
  | e :: rest, previous, s =>
    summarize rest (some e.request.body.action) (s.record previous e.request)

/-- The summary of a log. -/
def summary (l : Log σ) : Summary := summarize l.entries none .empty

/-- The line of an entry, with its end. -/
def line (status : σ → Datum) (e : Entry σ) : String := Json.text (e.datum status) ++ "\n"

/-- A log as text, one line for each entry. -/
def text (status : σ → Datum) (l : Log σ) : String := String.join (l.entries.map (line status))

end Log

end Striker
