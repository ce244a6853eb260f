/-
Paths: bytes in which slashes separate names. A path need not be text; where one is shown, bytes
that are no text are replaced.
-/
import Striker.Text.Utf8

namespace Striker

/-- Bytes, as files and paths hold them. -/
abbrev Bytes := List UInt8

/-- A way through directories. -/
structure Path where
  bytes : Bytes
  deriving DecidableEq

namespace Path

/-- The byte between names. -/
def slash : UInt8 := 0x2f

/-- The byte before an extension. -/
def dot : UInt8 := 0x2e

/-- The path that a text says. -/
def ofText (s : String) : Path := ⟨Text.encode s⟩

/-- A path as text. -/
def text (p : Path) : String := Text.decodeLossy p.bytes

/-- The bytes between slashes; there is at least one group, and any of them may be empty. -/
def split : Bytes → List Bytes
  | [] => [[]]
  | b :: rest =>
    if b = slash then [] :: split rest
    else match split rest with
      | [] => [[b]]
      | name :: names => (b :: name) :: names

/-- The names of a path. The path of a directory may end with an empty one, and a path that begins
with one leads from the root. -/
def names (p : Path) : List Bytes := split p.bytes

/-- The last name of a path. -/
def fileName (p : Path) : Bytes := p.names.getLast?.getD []

/-- What follows the last dot of the last name; a name with its only dot in front has none. -/
def extension? (p : Path) : Option Bytes :=
  let reversed := p.fileName.reverse
  match reversed.dropWhile (· ≠ dot) with
  | _ :: _ :: _ => some (reversed.takeWhile (· ≠ dot)).reverse
  | _ => none

end Path

end Striker
