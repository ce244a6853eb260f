/-
Quoted scalars. Between single quotes a quote is written twice and nothing else is special. Between
double quotes a backslash begins an escape, or takes the end of its line away. Both fold lines.
-/
import Striker.Number.Numeral
import Striker.Yaml.Gap

namespace Striker.Yaml

/-- Escapes of one letter, and what they stand for. -/
def letterEscape? (c : Char) : Option Char :=
  match c with
  | '0' => some '\x00'
  | 'a' => some '\x07'
  | 'b' => some '\x08'
  | 't' => some '\t'
  | '\t' => some '\t'
  | 'n' => some '\n'
  | 'v' => some '\x0b'
  | 'f' => some '\x0c'
  | 'r' => some '\r'
  | 'e' => some '\x1b'
  | ' ' => some ' '
  | '"' => some '"'
  | '/' => some '/'
  | '\\' => some '\\'
  | 'N' => some '\x85'
  | '_' => some '\xa0'
  | 'L' => some '\u2028'
  | 'P' => some '\u2029'
  | _ => none

/-- How many digits follow the letter of a numbered escape. -/
def escapeDigits? (c : Char) : Option Nat :=
  match c with
  | 'x' => some 2
  | 'u' => some 4
  | 'U' => some 8
  | _ => none

/-- The character with the number that the digits give. -/
def numberedChar? (digits : List Char) : Option Char := do
  let n ← digitsIn? 16 digits
  if h : n.isValidChar then return Char.ofNatAux n h else none

/-- The character that an escape stands for, after its backslash, and the length of the escape. -/
def escape? : List Char → Option (Char × Nat)
  | [] => none
  | c :: rest =>
    match letterEscape? c with
    | some d => some (d, 1)
    | none => do
      let n ← escapeDigits? c
      let digits := rest.take n
      if digits.length = n then return (← numberedChar? digits, n + 1) else none

/-- Reads a quoted scalar after its first quote. `before` is what was read so far, last character
first, and `gap` what was seen since the last word, if that is over; `skipped` characters were read
already as a part of an escape. -/
def readQuoted (double : Bool) (before : List Char) (gap : Option Gap) (p : Position) :
    (skipped : Nat) → List Char → Option (List Char × Input)
  | n + 1, _ :: rest => readQuoted double before gap p n rest
  | _, '\r' :: '\n' :: rest =>
    readQuoted double before (some ((gap.getD .empty).lineEnd ['\n'])) (p.newLine 2) 0 rest
  | _, c :: rest =>
    let text := (gap.getD .empty).text.reverse ++ before
    if isBreak c then
      readQuoted double before (some ((gap.getD .empty).lineEnd (breakText c))) (p.after c) 0 rest
    else if isBlank c then
      readQuoted double before (some ((gap.getD .empty).blank c)) (p.after c) 0 rest
    else if gap.isSome ∧ isMarker p (c :: rest) then none
    else if double then
      if c = '"' then some (text.reverse, ⟨p.after c, rest⟩)
      else if c = '\\' then
        match rest with
        | '\r' :: '\n' :: _ => readQuoted double text (some .continued) (p.newLine 3) 2 rest
        | d :: _ =>
          if isBreak d then readQuoted double text (some .continued) ((p.after c).after d) 1 rest
          else match escape? rest with
            | some (e, n) =>
              readQuoted double (e :: text) none ((rest.take n).foldl .after (p.after c)) n rest
            | none => none
        | [] => none
      else readQuoted double (c :: text) none (p.after c) 0 rest
    else if c = '\'' then
      match rest with
      | '\'' :: _ => readQuoted double ('\'' :: text) none ((p.after c).after c) 1 rest
      | _ => some (text.reverse, ⟨p.after c, rest⟩)
    else readQuoted double (c :: text) none (p.after c) 0 rest
  | _, [] => none

end Striker.Yaml
