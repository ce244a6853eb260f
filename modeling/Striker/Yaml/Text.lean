/-
YAML text of data in block style: an entry of a table is a line, and a table inside another is
indented by two. Texts are written as they are, since all that is ever written are names, which
need no quotes.
-/
import Striker.Datum.Basic

namespace Striker.Yaml

/-- The spelling of numbers of 32 bits. -/
def singleLayout : Layout := ⟨some (-6, 12), false, true, .even, ".nan", ".inf", "-.inf"⟩

/-- The spelling of numbers of 64 bits. -/
def doubleLayout : Layout := ⟨some (-5, 15), false, true, .even, ".nan", ".inf", "-.inf"⟩

/-- The words that YAML has for what was found. -/
def wording : Wording := ⟨"unit value", ⟨none, false, true, .up, "NaN", "inf", "-inf"⟩⟩

/-- The characters of a scalar; nothing, for a list or a table. -/
def scalar? : Datum → Option (List Char)
  | .unit => some ['n', 'u', 'l', 'l']
  | .flag true => some ['t', 'r', 'u', 'e']
  | .flag false => some ['f', 'a', 'l', 's', 'e']
  | .natural n => some (Nat.toDigits 10 n)
  | .integer i => some ((if i < 0 then ['-'] else []) ++ Nat.toDigits 10 i.natAbs)
  | .single x => some (singleLayout.write x).toList
  | .double x => some (doubleLayout.write x).toList
  | .text s => some s.toList
  | .list [] => some ['[', ']']
  | .table [] => some ['\x7b', '\x7d']
  | _ => none

/-- A line that is indented under another. -/
def indent (line : List Char) : List Char := ' ' :: ' ' :: line

mutual

/-- The lines of a datum, without their ends. -/
def lines : Datum → List (List Char)
  | .list items => itemLines items
  | .table entries => entryLines entries
  | d => (scalar? d).toList

/-- The lines of items. -/
def itemLines : List Datum → List (List Char)
  | [] => []
  | d :: rest => (match scalar? d with
    | some word => [['-', ' '] ++ word]
    | none => ['-'] :: (lines d).map indent) ++ itemLines rest

/-- The lines of entries. -/
def entryLines : List (Datum × Datum) → List (List Char)
  | [] => []
  | (key, d) :: rest => (match scalar? d with
    | some word => [(scalar? key).getD [] ++ [':', ' '] ++ word]
    | none => ((scalar? key).getD [] ++ [':']) :: (lines d).map indent) ++ entryLines rest

end

/-- The characters of a datum: its lines, each with its end. -/
def write (d : Datum) : List Char :=
  match scalar? d with
  | some word => word ++ ['\n']
  | none => (lines d).flatMap (· ++ ['\n'])

/-- The text of a datum. -/
def text (d : Datum) : String := String.ofList (write d)

end Striker.Yaml
