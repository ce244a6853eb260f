/-
Files: a directory with everything under it, as a value. Reading and writing follow a path name by
name, as an operating system does, and fail for the same reasons in the same order.
-/
import Striker.Files.Path

namespace Striker

/-- Why a file cannot be read or written. -/
inductive FileError where
  | notFound
  | notDirectory
  | isDirectory
  | nameTooLong
  | zeroByte
  | notText
  /-- Any other reason, in the words of the system. -/
  | other (reason : String)
  deriving DecidableEq

/-- A failure in words. -/
def FileError.message : FileError → String
  | notFound => "No such file or directory (os error 2)"
  | notDirectory => "Not a directory (os error 20)"
  | isDirectory => "Is a directory (os error 21)"
  | nameTooLong => "File name too long (os error 36)"
  | zeroByte => "file name contained an unexpected NUL byte"
  | notText => "stream did not contain valid UTF-8"
  | other reason => reason

/-- A place where files are read and written. -/
class Storage (m : Type → Type) where
  read : Path → m (Except FileError Bytes)
  /-- Replaces what a file holds; a file that is not there is made. -/
  write : Path → Bytes → m (Except FileError Unit)

/-- What stands in a directory. -/
inductive Item where
  | file (content : Bytes)
  | directory
  deriving DecidableEq

/-- The names that lead to an item, the last one first. Names that lead out of the directory begin
with two dots, or with an empty name if they begin at the root. -/
abbrev Way := List Bytes

/-- A directory with everything under it. Directories on the way to an item need no entry. -/
structure Files where
  entries : List (Way × Item)
  deriving DecidableEq

namespace Files

/-- The name of the directory itself. -/
def here : Bytes := [Path.dot]

/-- The name of the directory around. -/
def above : Bytes := [Path.dot, Path.dot]

/-- The longest name that an item may have. -/
def nameLimit : Nat := 255

/-- The length that no path may have. -/
def pathLimit : Nat := 4096

/-- Whether nothing but steps to the directory around, or to the root, is on the way. -/
def isOutside (w : Way) : Bool := w.all fun name => name = above || name = []

/-- What a way leads to. -/
def item? (f : Files) (w : Way) : Option Item :=
  match f.entries.lookup w with
  | some item => some item
  | none =>
    if isOutside w ∨ f.entries.any (fun (other, _) => w.isSuffixOf other) then some .directory
    else none

/-- The way to the directory around. -/
def leave : Way → Way
  | [] => [above]
  | name :: w => if name = [] then [[]] else if name = above then above :: name :: w else w

/-- Follows one name, from what has to be a directory. -/
def enter (f : Files) (w : Way) (name : Bytes) : Except FileError Way :=
  if f.item? w ≠ some .directory then .error .notDirectory
  else if name = [] ∨ name = here then .ok w
  else if name = above then .ok (leave w)
  else if nameLimit < name.length then .error .nameTooLong
  else if (f.item? (name :: w)).isSome then .ok (name :: w)
  else .error .notFound

/-- Follows names one after the other. -/
def follow (f : Files) (w : Way) (names : List Bytes) : Except FileError Way :=
  names.foldlM f.enter w

/-- Where a path begins, and the names that it goes on with. -/
def start (p : Path) : Way × List Bytes :=
  match p.names with
  | [] :: rest => ([[]], rest)
  | names => ([], names)

/-- Refuses what is no path at all. -/
def checkPath (p : Path) : Except FileError Unit :=
  if p.bytes.contains 0 then .error .zeroByte
  else if pathLimit ≤ p.bytes.length then .error .nameTooLong
  else if p.bytes = [] then .error .notFound
  else .ok ()

/-- What the file at a path holds. -/
def read (f : Files) (p : Path) : Except FileError Bytes := do
  checkPath p
  let (w, names) := start p
  match f.item? (← f.follow w names) with
  | some (.file content) => return content
  | some .directory => throw .isDirectory
  | none => throw .notFound

/-- Puts an item at a way, in the place of what is there. -/
def put (f : Files) (w : Way) (item : Item) : Files :=
  ⟨(w, item) :: f.entries.filter fun (other, _) => other ≠ w⟩

/-- The way to a file that is to be written. Its directory has to be there; a path that ends with a
slash can only be that of a directory. -/
def target (f : Files) (p : Path) : Except FileError Way := do
  let (w, names) := start p
  match names.reverse.dropWhile (· = []) with
  | [] => throw .isDirectory
  | last :: before =>
    let w ← f.follow w before.reverse
    if f.item? w ≠ some .directory then throw .notDirectory
    if names.getLast? = some [] ∨ last = here ∨ last = above then throw .isDirectory
    if nameLimit < last.length then throw .nameTooLong
    return last :: w

/-- The files after a file is written. -/
def write (f : Files) (p : Path) (content : Bytes) : Except FileError Files := do
  checkPath p
  let w ← f.target p
  if f.item? w = some .directory then throw .isDirectory
  return f.put w (.file content)

/-- The files after an item is put at the names of a path, and directories around it. -/
def add (f : Files) (p : Path) (item : Item) : Files :=
  f.put (p.names.filter (· ≠ [])).reverse item

/-- The files with the given paths. -/
def ofList (items : List (Path × Item)) : Files :=
  items.foldl (fun f (p, item) => f.add p item) ⟨[]⟩

instance : Storage (StateM Files) where
  read p := do return (← get).read p
  write p content := do
    match (← get).write p content with
    | .ok f =>
      set f
      return .ok ()
    | .error e => return .error e

end Files

end Striker
