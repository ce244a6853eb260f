/-
Reports: what the program puts out and how it ends. What went wrong is told with everything that lies
behind it.
-/
import Striker.CommandLine.Console

namespace Striker

/-- What the program puts out, and the code that it ends with. -/
structure Report where
  code : Nat
  pieces : List Piece
  errors : String
  deriving DecidableEq

namespace Report

/-- What the program prints. -/
def output (r : Report) : String := Piece.printed r.pieces

/-- What the standard output holds: what the program prints, and the lines of the log. -/
def stdout (c : Console) (lookup : String → Option String) (r : Report) : String :=
  c.render (c.shows lookup) 0 r.pieces

end Report

/-- What went wrong, and what lies behind it, nearest first. -/
structure Complaint where
  message : String
  causes : List String
  deriving DecidableEq

namespace Complaint

/-- A text whose lines after the first begin with `width` spaces. -/
def indent (width : Nat) (s : String) : List Char :=
  s.toList.flatMap fun c => if c = '\n' then '\n' :: List.replicate width ' ' else [c]

/-- The number of a cause, right-aligned. -/
def label (n : Nat) : List Char :=
  let digits := Nat.toDigits 10 n
  List.replicate (5 - digits.length) ' ' ++ digits ++ [':', ' ']

/-- Causes on lines of their own; several are numbered. -/
def causeLines : List String → List (List Char)
  | [] => []
  | [cause] => [List.replicate 4 ' ' ++ indent 4 cause]
  | causes => causes.zipIdx.map fun (cause, n) => label n ++ indent 7 cause

/-- A complaint as text. -/
def text (c : Complaint) : String :=
  let causes := match c.causes with
    | [] => []
    | causes => "\n\nCaused by:".toList ++ (causeLines causes).flatMap ('\n' :: ·)
  "Error: " ++ c.message ++ String.ofList causes ++ "\n"

/-- The report of a complaint, after what was put out before. -/
def report (pieces : List Piece) (c : Complaint) : Report := ⟨1, pieces, c.text⟩

end Complaint

end Striker
