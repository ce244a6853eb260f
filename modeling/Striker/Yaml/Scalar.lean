/-
What scalars stand for. A plain scalar without a tag may be nothing, a truth value, a number or else
a text; a quoted one is a text. The standard tags ask for a value of one kind.
-/
import Striker.Yaml.Document

namespace Striker.Yaml

/-! ## Words and numbers -/

/-- The words for nothing. -/
def isNull (text : String) : Bool := ["null", "Null", "NULL", "~"].contains text

/-- The words for truth values. -/
def flag? (text : String) : Option Bool :=
  if ["true", "True", "TRUE"].contains text then some true
  else if ["false", "False", "FALSE"].contains text then some false
  else none

/-- Whether digits with a zero in front are no number. -/
def isPadded (text : String) : Bool :=
  match text.toList with
  | '-' :: cs => padded cs
  | '+' :: cs => padded cs
  | cs => padded cs
where
  /-- Digits only, at least two, the first a zero. -/
  padded : List Char → Bool
    | '0' :: c :: rest => (c :: rest).all Char.isDigit
    | _ => false

/-- The base that two signs in front tell, and what stands after them. -/
def based? : List Char → Option (Nat × List Char)
  | '0' :: 'x' :: rest => some (16, rest)
  | '0' :: 'o' :: rest => some (8, rest)
  | '0' :: 'b' :: rest => some (2, rest)
  | _ => none

/-- A natural number: hexadecimal, octal or binary, or decimal without zeros in front, after at most
one plus sign. -/
def natural? (text : String) : Option Nat :=
  let cs := match text.toList with
    | '+' :: rest => rest
    | cs => cs
  match (based? cs).bind fun (base, digits) => digitsIn? base digits with
  | some n => some n
  | none => if isPadded text then none else digitsIn? 10 cs

/-- A negative number: a minus sign before a number in one of the bases. -/
def negative? (text : String) : Option Int :=
  match text.toList with
  | '-' :: cs =>
    match (based? cs).bind fun (base, digits) => digitsIn? base digits with
    | some n => some (-n)
    | none => if isPadded text then none else (digitsIn? 10 cs).map fun n => -n
  | _ => none

/-- A number with a fraction, or one of the words for infinity and for what is no number. -/
def double? (text : String) : Option Double :=
  let words (names : List String) : Bool := names.contains text
  if words [".inf", ".Inf", ".INF", "+.inf", "+.Inf", "+.INF"] then some (.infinite false)
  else if words ["-.inf", "-.Inf", "-.INF"] then some (.infinite true)
  else if words [".nan", ".NaN", ".NAN"] then some .nan
  else (Binary.ofText? text).filter Binary.isFinite

/-! ## Values -/

/-- A scalar as a value, or an integer that is too large for one. -/
inductive Value where
  | datum (d : Datum)
  | wide (i : Int)

/-- An integer in one of the widths; nothing beyond 128 bits. -/
def integer? (text : String) : Option Value :=
  match natural? text, negative? text with
  | some n, _ =>
    if n < UInt64.size then some (.datum (.natural n))
    else if n < UInt64.size * UInt64.size then some (.wide n)
    else none
  | none, some i =>
    if i.natAbs ≤ UInt64.size / 2 then some (.datum (.integer i))
    else if i.natAbs ≤ UInt64.size * UInt64.size / 2 then some (.wide i)
    else none
  | none, none => none

/-- The value of a scalar whose text decides what it is. -/
def plainValue (text : String) : Value :=
  if text = "" ∨ isNull text then .datum .unit
  else match flag? text with
    | some b => .datum (.flag b)
    | none => match integer? text with
      | some v => v
      | none => match (double? text).filter fun _ => !isPadded text with
        | some x => .datum (.double x)
        | none => .datum (.text text)

/-- The tags of the standard kinds. -/
def standardTag (kind : String) : Option String := some ("tag:yaml.org,2002:" ++ kind)

/-- The value of a scalar. A standard tag does not let a text of another kind pass. -/
def Scalar.value (s : Scalar) : Except Mismatch Value :=
  let refuse (expected : String) : Except Mismatch Value :=
    .error (.value (.text s.text) expected)
  if s.tag = none then
    if s.style = .plain then .ok (plainValue s.text) else .ok (.datum (.text s.text))
  else if s.tag = standardTag "bool" then
    match flag? s.text with
    | some b => .ok (.datum (.flag b))
    | none => refuse "a boolean"
  else if s.tag = standardTag "int" then
    match integer? s.text with
    | some v => .ok v
    | none => refuse "an integer"
  else if s.tag = standardTag "float" then
    match double? s.text with
    | some x => .ok (.datum (.double x))
    | none => refuse "a float"
  else if s.tag = standardTag "null" then
    if isNull s.text then .ok (.datum .unit) else refuse "null"
  else if (s.tag.any fun t => t.startsWith "!") ∧ s.style = .plain then .ok (plainValue s.text)
  else .ok (.datum (.text s.text))

/-- Why a scalar is not a value of the wanted type. -/
def Scalar.mismatch (expected : String) (s : Scalar) : Mismatch :=
  match s.value with
  | .ok (.datum d) => .type d.found expected
  | .ok (.wide i) => .type (.wide i) expected
  | .error m => m

/-- Whether a scalar may be read as a value of the kind with this tag: a plain one, and a literal
one with the tag. -/
def Scalar.admits (s : Scalar) (kind : String) : Bool :=
  s.style = .plain || (s.style = .literal && s.tag = standardTag kind)

/-- The name that a tag gives, if it is a tag of the document's own. A mark alone is a name. -/
def ownTag? (tag : Option String) : Option String :=
  match tag.map String.toList with
  | some ['!'] => some "!"
  | some ('!' :: rest) => some (String.ofList rest)
  | _ => none

end Striker.Yaml
