/-
JSON text of data: no space anywhere, the entries of a table in their order. Numbers have the
fewest digits that read back; a number that is not finite has no spelling and is written as null.
Control characters are escaped, so a text never holds a line end.
-/
import Striker.Datum.Basic

namespace Striker.Json

/-- The spelling of numbers of 32 bits. -/
def singleLayout : Layout := ⟨some (-6, 12), true, true, .even, "null", "null", "null"⟩

/-- The spelling of numbers of 64 bits. -/
def doubleLayout : Layout := ⟨some (-5, 15), true, true, .even, "null", "null", "null"⟩

/-- The words that JSON has for what was found. -/
def wording : Wording := ⟨"null", doubleLayout⟩

/-- How a character stands in a string. -/
def escape (c : Char) : List Char :=
  if c = '"' ∨ c = '\\' then ['\\', c]
  else if c.toNat = 8 then ['\\', 'b']
  else if c.toNat = 9 then ['\\', 't']
  else if c.toNat = 10 then ['\\', 'n']
  else if c.toNat = 12 then ['\\', 'f']
  else if c.toNat = 13 then ['\\', 'r']
  else if c.toNat < 32 then
    ['\\', 'u', '0', '0', Nat.digitChar (c.toNat / 16), Nat.digitChar (c.toNat % 16)]
  else [c]

/-- A string. -/
def writeString (s : String) : List Char := '"' :: s.toList.flatMap escape ++ ['"']

/-- A truth value. -/
def writeFlag (b : Bool) : List Char :=
  if b then ['t', 'r', 'u', 'e'] else ['f', 'a', 'l', 's', 'e']

mutual

/-- The characters of a datum. -/
def write : Datum → List Char
  | .unit => ['n', 'u', 'l', 'l']
  | .flag b => writeFlag b
  | .natural n => Nat.toDigits 10 n
  | .integer i => (if i < 0 then ['-'] else []) ++ Nat.toDigits 10 i.natAbs
  | .single x => (singleLayout.write x).toList
  | .double x => (doubleLayout.write x).toList
  | .text s => writeString s
  | .list items => '[' :: writeItems items
  | .table entries => '\x7b' :: writeEntries entries

/-- The characters of items and of the bracket after them. -/
def writeItems : List Datum → List Char
  | [] => [']']
  | [d] => write d ++ [']']
  | d :: rest => write d ++ ',' :: writeItems rest

/-- The characters of entries and of the brace after them. -/
def writeEntries : List (Datum × Datum) → List Char
  | [] => ['\x7d']
  | [(key, d)] => write key ++ ':' :: write d ++ ['\x7d']
  | (key, d) :: rest => write key ++ ':' :: write d ++ ',' :: writeEntries rest

end

/-- The text of a datum. -/
def text (d : Datum) : String := String.ofList (write d)

/-! ## Order of keys -/

/-- Whether one key stands before another; only texts have an order. -/
def keyBefore : Datum → Datum → Bool
  | .text a, .text b => a < b
  | _, _ => false

/-- Puts an entry where its key belongs; an entry with the same key gives way to it. -/
def insertEntry (key value : Datum) : List (Datum × Datum) → List (Datum × Datum)
  | [] => [(key, value)]
  | (k, v) :: rest =>
    if keyBefore key k then (key, value) :: (k, v) :: rest
    else if keyBefore k key then (k, v) :: insertEntry key value rest
    else (key, value) :: rest

mutual

/-- The datum with the entries of every table in the order of their keys. Of two entries with one
key the later counts. -/
def sorted : Datum → Datum
  | .list items => .list (sortedItems items)
  | .table entries => .table (sortedEntries entries [])
  | d => d

/-- Items with their tables in order. -/
def sortedItems : List Datum → List Datum
  | [] => []
  | d :: rest => sorted d :: sortedItems rest

/-- Entries put into a table in order, one after the other. -/
def sortedEntries : List (Datum × Datum) → List (Datum × Datum) → List (Datum × Datum)
  | [], done => done
  | (key, value) :: rest, done => sortedEntries rest (insertEntry key (sorted value) done)

end

end Striker.Json
