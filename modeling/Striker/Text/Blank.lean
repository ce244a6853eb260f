/-
Blanks: the characters with the property White_Space, and trimming text of them.
-/

namespace Striker.Text

/-- A blank of any kind: tabs, line ends, spaces of every width. -/
def isBlank (c : Char) : Bool :=
  let n := c.toNat
  (9 ≤ n && n ≤ 13) || n == 0x20 || n == 0x85 || n == 0xa0 || n == 0x1680
    || (0x2000 ≤ n && n ≤ 0x200a) || n == 0x2028 || n == 0x2029 || n == 0x202f || n == 0x205f
    || n == 0x3000

/-- The characters between the first and the last that are not blank. -/
def trimBlanks (cs : List Char) : List Char :=
  ((cs.dropWhile isBlank).reverse.dropWhile isBlank).reverse

/-- A text without blanks at either end. -/
def trim (s : String) : String := String.ofList (trimBlanks s.toList)

/-- The text with ASCII letters made small. -/
def lower (s : String) : String := String.ofList (s.toList.map Char.toLower)

end Striker.Text
