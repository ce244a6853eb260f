/-
YAML documents as a source for typed readers. A reader sees nodes by what it wants of them: a plain
scalar is a number for a reader of numbers and a name for a reader of names. A mismatch tells its
place in the document. Aliases are followed, but not for ever: nodes may be nested, and aliases
followed, only so often.
-/
import Striker.Datum.Source
import Striker.Yaml.Scalar

namespace Striker.Yaml

/-- A node of a document. -/
structure Cursor where
  /-- The nodes that aliases stand for. -/
  anchors : List (Nat × Node)
  /-- How many nodes may still be opened inside each other. -/
  room : Nat
  place : Place
  /-- The node; nothing, where the document has none. -/
  node : Option Node
  /-- What is wrong behind the node, if it is the root of a document. -/
  after : Option Fault

namespace Cursor

/-- A stream that goes wrong. -/
def fault {α : Type} : Reading α := throw (.fault .malformed)

/-- A mismatch at the place of the cursor. -/
def refuse {α : Type} (c : Cursor) (m : Mismatch) : Reading α :=
  throw (.mismatch m (some c.place))

/-- Gives a mismatch that has no place the place of the cursor. -/
def locate {α : Type} (c : Cursor) (r : Reading α) : Reading α := r.locate c.place

/-- The node that the last of the anchors with a number has. -/
def target (anchors : List (Nat × Node)) (number : Nat) : Node :=
  match anchors.reverse.lookup number with
  | some node => node
  | none => .broken

/-- A node, with an alias followed. -/
def resolve (anchors : List (Nat × Node)) : Node → Reading Node
  | .alias number => do
    Reading.repetition
    return target anchors number
  | node => pure node

/-- The cursor, with an alias followed. -/
def follow (c : Cursor) : Reading Cursor :=
  match c.node with
  | none => pure c
  | some node => do return { c with node := ← resolve c.anchors node }

/-- A node in the place of something of another type. -/
def mismatch {α : Type} (expected : String) (c : Cursor) : Reading α :=
  match c.node with
  | some (.scalar _ s) => c.refuse (s.mismatch expected)
  | some (.sequence _ _ _) => c.refuse (.type .sequence expected)
  | some (.mapping _ _ _) => c.refuse (.type .map expected)
  | _ => fault

/-! ## Scalars -/

/-- Reads a scalar that may be of a kind, if it is. -/
def scalar {α : Type} (kind expected : String) (read : String → Option (Reading α))
    (c : Cursor) : Reading α := do
  let c ← c.follow
  match c.node with
  | some (.scalar _ s) =>
    if s.admits kind then
      match read s.text with
      | some r => c.locate r
      | none => c.mismatch expected
    else c.mismatch expected
  | _ => c.mismatch expected

/-- A whole number. One that does not fit into a word is of another type. -/
def whole (bound : Nat) (expected : String) : Cursor → Reading Nat :=
  scalar "int" expected fun text =>
    ((natural? text).filter (· < UInt64.size)).map fun n => Datum.whole bound expected (.natural n)

/-- A number in the given format. -/
def real {f : Format} (expected : String) : Cursor → Reading (Binary f) :=
  scalar "float" expected fun text => (double? text).map fun x => pure x.convert

/-- A truth value. -/
def flag : Cursor → Reading Bool :=
  scalar "bool" "a boolean" fun text => (flag? text).map pure

/-- The text of a scalar. -/
def name (expected : String) (c : Cursor) : Reading String := do
  let c ← c.follow
  match c.node with
  | some (.scalar _ s) => return s.text
  | _ => c.mismatch expected

/-- Whether a node stands for nothing: a plain scalar that says so. Any tag but that of nothing
makes it something. -/
def isNothing (c : Cursor) : Reading Bool :=
  match c.node with
  | none => pure true
  | some (.scalar _ s) =>
    if s.style ≠ .plain then pure false
    else if s.tag = none then pure (s.text = "" || isNull s.text)
    else if s.tag = standardTag "null" then
      if isNull s.text then pure true else throw (.of (.value (.text s.text) "null"))
    else pure false
  | some .broken => fault
  | some _ => pure false

/-- The node, unless it stands for nothing. -/
def optional (c : Cursor) : Reading (Option Cursor) := do
  let c ← c.follow
  if ← c.isNothing then return none else return some c

/-! ## Sequences and mappings -/

/-- The step from a mapping to the value of a key. -/
def stepTo : Node → Step
  | .scalar _ s => .key s.text
  | _ => .unnamed

/-- How a list of parts ends. -/
def ending (proper : Bool) : Option Fault := if proper then none else some .malformed

/-- A part of a node. -/
def part (c : Cursor) (node : Node) (steps : List Step) : Cursor :=
  { c with node := some node, place := c.place ++ steps, after := none }

/-- The items of a sequence, from the one with the given number on, and how it ends. -/
def items (c : Cursor) : Nat → Items → List Cursor × Option Fault
  | _, .close proper => ([], ending proper)
  | n, .item value rest =>
    let (parts, close) := items c (n + 1) rest
    (c.part value [.index n] :: parts, close)

/-- The entries of a mapping, and how it ends. A key has the place of its mapping. -/
def entries (c : Cursor) : Entries → List (Cursor × Cursor) × Option Fault
  | .close proper => ([], ending proper)
  | .entry key value rest =>
    let (parts, close) := entries c rest
    ((c.part key [], c.part value [stepTo key]) :: parts, close)

/-- Reads the parts of a node, one level further in. -/
def inside {α : Type} (read : Cursor → Reading α) (c : Cursor) : Reading α :=
  if c.room = 0 then fault else c.locate (read { c with room := c.room - 1 })

/-- Reads the parts of a sequence. -/
def ofItems {α : Type} (read : Opened Cursor → Reading α) (list : Items) : Cursor → Reading α :=
  inside fun c =>
    let (parts, close) := c.items 0 list
    read (.items parts close)

/-- Reads the parts of a mapping. -/
def ofEntries {α : Type} (read : Opened Cursor → Reading α) (table : Entries) :
    Cursor → Reading α :=
  inside fun c =>
    let (parts, close) := c.entries table
    read (.entries parts close)

/-- Reads the entries of a mapping. A node with nothing in it is a mapping without entries. -/
def record {α : Type} (expected : String) (read : Opened Cursor → Reading α) (c : Cursor) :
    Reading α := do
  let c ← c.follow
  match c.node with
  | none => c.locate (read (.entries [] none))
  | some (.mapping _ _ table) => c.ofEntries read table
  | some (.scalar _ s) =>
    if s.text = "" ∧ s.style = .plain then c.locate (read (.entries [] none))
    else c.mismatch expected
  | _ => c.mismatch expected

/-- Reads the parts of a sequence or a mapping, neither of which may have a tag of its own. -/
def open? {α : Type} (expected : String) (read : Opened Cursor → Reading α) (c : Cursor) :
    Reading α := do
  let c ← c.follow
  let tagged (tag : Option String) (r : Reading α) : Reading α :=
    if (ownTag? tag).isSome then c.refuse (.type .choice expected) else r
  match c.node with
  | none => c.refuse (.type .option expected)
  | some (.mapping _ tag table) => tagged tag (c.ofEntries read table)
  | some (.sequence _ tag list) => tagged tag (c.ofItems read list)
  | some (.scalar _ s) => tagged s.tag (c.mismatch expected)
  | _ => fault

/-- Reads the parts of a node, and looks at what is behind it before anything is done with them. -/
def parts {α : Type} (expected : String) (read : Opened Cursor → Reading α) (c : Cursor) :
    Reading α := do
  let a ← c.open? expected read
  closing c.after
  return a

/-! ## Choices -/

/-- A node that is only there to have a tag: nothing is written after the tag, or a word that
says so. -/
def unit (c : Cursor) : Reading Unit :=
  match c.node with
  | some (.scalar _ s) =>
    if s.style = .plain ∧ (s.text = "" ∨ isNull s.text) then pure ()
    else c.refuse (.value (.text s.text) "null")
  | _ => c.mismatch "unit"

/-- A choice is a tag with nothing after it, or a scalar without one. -/
def choose {α : Type} (choices : List (String × α)) (c : Cursor) : Reading α :=
  let tagged (tag : String) : Reading α := do
    let a ← Datum.variant choices tag
    c.unit
    return a
  let untagged (found : Found) : Reading α :=
    c.refuse (.type found "a YAML tag starting with '!'")
  match c.node with
  | some (.scalar _ s) => match ownTag? s.tag with
    | some tag => tagged tag
    | none => c.locate (Datum.variant choices s.text)
  | some (.sequence _ tag _) => match ownTag? tag with
    | some tag => tagged tag
    | none => untagged .sequence
  | some (.mapping _ tag _) => match ownTag? tag with
    | some tag => tagged tag
    | none => untagged .map
  | _ => fault

/-- Reads a choice. An unknown tag has no place of its own, but the place of an alias for it. -/
def choice {α : Type} (choices : List (String × α)) (c : Cursor) : Reading α :=
  match c.node with
  | some (.alias _) => c.locate do (← c.follow).choose choices
  | _ => c.choose choices

/-! ## Data -/

/-- Reads items one after the other. -/
def bufferItems (read : Place → Node → Reading Datum) (place : Place) :
    Nat → Items → Reading (List Datum)
  | _, .close proper => if proper then return [] else throw (.fault .malformed)
  | n, .item value rest => do
    let d ← read (place ++ [.index n]) value
    return d :: (← bufferItems read place (n + 1) rest)

/-- Reads entries one after the other. -/
def bufferEntries (read : Place → Node → Reading Datum) (place : Place) :
    Entries → Reading (List (Datum × Datum))
  | .close proper => if proper then return [] else throw (.fault .malformed)
  | .entry key value rest => do
    let k ← read place key
    let d ← read (place ++ [stepTo key]) value
    return (k, d) :: (← bufferEntries read place rest)

/-- Reads a node as data, with every alias in it followed. Data has no room for tags of the
document's own. -/
def bufferNode (anchors : List (Nat × Node)) (expected : String) :
    Nat → Place → Node → Reading Datum
  | room, place, node => do
    let refuse (m : Mismatch) : Reading Datum := throw (.mismatch m (some place))
    match ← resolve anchors node with
    | .scalar _ s =>
      if (ownTag? s.tag).isSome then throw (.fault .malformed)
      match s.value with
      | .ok (.datum d) => return d
      | .ok (.wide i) => refuse (.type (.wide i) expected)
      | .error m => refuse m
    | .sequence _ tag list =>
      match room with
      | 0 => throw (.fault .malformed)
      | room + 1 =>
        if (ownTag? tag).isSome then throw (.fault .malformed)
        return .list (← bufferItems (bufferNode anchors "any value" room) place 0 list)
    | .mapping _ tag table =>
      match room with
      | 0 => throw (.fault .malformed)
      | room + 1 =>
        if (ownTag? tag).isSome then throw (.fault .malformed)
        return .table (← bufferEntries (bufferNode anchors "any value" room) place table)
    | _ => throw (.fault .malformed)

/-- The node as data. -/
def datum (expected : String) (c : Cursor) : Reading Datum :=
  match c.node with
  | none => pure .unit
  | some node => bufferNode c.anchors expected c.room c.place node

/-! ## Reading over -/

mutual

/-- Whether a node goes on to its end. -/
def isComplete : Node → Bool
  | .scalar _ _ => true
  | .sequence _ _ items => itemsComplete items
  | .mapping _ _ entries => entriesComplete entries
  | .alias _ => true
  | .broken => false

/-- Whether items go on to their end. -/
def itemsComplete : Items → Bool
  | .close proper => proper
  | .item value rest => isComplete value && itemsComplete rest

/-- Whether entries go on to their end. -/
def entriesComplete : Entries → Bool
  | .close proper => proper
  | .entry key value rest => isComplete key && isComplete value && entriesComplete rest

end

/-- Reads over a node; aliases in it are not followed. -/
def skip (c : Cursor) : Reading Unit :=
  if c.node.all isComplete then pure () else fault

instance : Source Cursor where
  whole := whole
  single := real "f32"
  double := real "f64"
  flag := flag
  optional := optional
  choice := choice
  label expected read c := do c.locate (read (.name (← c.name expected)))
  record := record
  parts := parts
  datum := datum
  skip := skip
  surplus _ _ := .fault .malformed

end Cursor

/-- How many nodes may be opened inside each other. -/
def depthLimit : Nat := 128

/-- Reads a whole stream: one document and nothing after it. Aliases may be followed a hundred times
as often as there are beginnings and ends of nodes. -/
def read {α : Type} (reader : Cursor → Reading α) (text : String) : Except Problem α :=
  let d := Document.ofText text
  let anchors := match d.root with
    | some root => root.numbered
    | none => []
  let marks := match d.root with
    | some root => root.marks
    | none => 1
  let after := if d.ended then none else some .malformed
  Reading.outcome (100 * marks) do
    let value ← reader ⟨anchors, depthLimit, [], d.root, after⟩
    closing after
    return value

end Striker.Yaml
