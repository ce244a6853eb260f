/-
Terms: the form in which values are shown for inspection. A term is a word, a number, a name applied
to one term, or a name with labelled parts in braces.
-/
import Striker.Number.Notation

namespace Striker.Text

/-- A value shown for inspection. -/
inductive Term where
  | word (text : String)
  | whole (n : Nat)
  | single (x : Single)
  | double (x : Double)
  | applied (name : String) (part : Term)
  | record (name : String) (parts : List (String × Term))

namespace Term

/-- Something that may be missing. -/
def option : Option Term → Term
  | none => word "None"
  | some t => applied "Some" t

mutual

/-- The text of a term. -/
def render : Term → String
  | word text => text
  | whole n => toString n
  | single x => Layout.inspection.write x
  | double x => Layout.inspection.write x
  | applied name part => name ++ "(" ++ part.render ++ ")"
  | record name parts => name ++ " \x7b " ++ renderParts parts ++ " \x7d"

/-- The parts of a record, separated by commas. -/
def renderParts : List (String × Term) → String
  | [] => ""
  | [(label, part)] => label ++ ": " ++ part.render
  | (label, part) :: rest => label ++ ": " ++ part.render ++ ", " ++ renderParts rest

end

end Term

end Striker.Text
