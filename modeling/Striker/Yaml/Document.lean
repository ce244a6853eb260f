/-
YAML documents as far as they can be read. A stream that goes wrong somewhere still has everything
before that place, and the fault is a part of the tree, in its place. Anchors give nodes a number;
an alias holds the number of the node it stands for, which may be a node around it.
-/
import Striker.Datum.Basic
import Striker.Yaml.Scan

namespace Striker.Yaml

/-- A scalar: its tag, its text and how it is written. -/
structure Scalar where
  tag : Option String
  text : String
  style : Style
  deriving DecidableEq

mutual

/-- A node of a document, with the number that its anchor gives it. Where the stream goes wrong it
is broken. -/
inductive Node where
  | scalar (anchor : Option Nat) (s : Scalar)
  | sequence (anchor : Option Nat) (tag : Option String) (items : Items)
  | mapping (anchor : Option Nat) (tag : Option String) (entries : Entries)
  | alias (target : Nat)
  | broken

/-- The items of a sequence up to its end, or up to where the stream goes wrong. -/
inductive Items where
  | close (proper : Bool)
  | item (value : Node) (rest : Items)

/-- The entries of a mapping, likewise. -/
inductive Entries where
  | close (proper : Bool)
  | entry (key value : Node) (rest : Entries)

end

/-- The scalar that stands where nothing is written. -/
def Scalar.empty : Scalar := ⟨none, "", .plain⟩

/-- The node that stands where nothing is written. -/
def Node.empty : Node := .scalar none .empty

/-! ## Names -/

/-- What names mean in a document: the handles of tags and the numbers of anchors. -/
structure Names where
  handles : List (String × String)
  anchors : List (String × Nat)

/-- What names mean before anything is said about them. -/
def Names.standard : Names := ⟨[("!", "!"), ("!!", "tag:yaml.org,2002:")], []⟩

/-- Gives an anchor its number, which is how many names there are; a name that is used again stays
one name. -/
def Names.anchor (n : Names) : Option String → Option Nat × Names
  | none => (none, n)
  | some name =>
    let number := n.anchors.length
    let others := n.anchors.filter fun (other, _) => other != name
    (some number, { n with anchors := (name, number) :: others })

/-- A tag in full, if its handle means something. -/
def Names.tag? (n : Names) (handle suffix : String) : Option String :=
  if handle = "" then some suffix else (n.handles.lookup handle).map (· ++ suffix)

/-! ## Nodes -/

/-- The properties before a node: its anchor, and its tag as handle and suffix. -/
structure Properties where
  anchor : Option String
  tag : Option (String × String)

/-- Reads properties: an anchor and a tag, in either order. -/
def readProperties : List Token → Properties × List Token
  | .anchor a :: .tag h s :: rest => (⟨some a, some (h, s)⟩, rest)
  | .tag h s :: .anchor a :: rest => (⟨some a, some (h, s)⟩, rest)
  | .anchor a :: rest => (⟨some a, none⟩, rest)
  | .tag h s :: rest => (⟨none, some (h, s)⟩, rest)
  | rest => (⟨none, none⟩, rest)

/-- What was read of a node, what names mean after it, and the tokens left. After a fault there are
none. -/
structure Read (α : Type) where
  value : α
  names : Names
  rest : List Token

/-- The outcome where a stream goes wrong. -/
def Read.fault {α : Type} (value : α) (names : Names) : Read α := ⟨value, names, []⟩

/-- Whether an item of a block is empty: the next token belongs to the block. -/
def isItemEnd : Token → Bool
  | .blockEntry => true
  | .blockEnd => true
  | _ => false

/-- Whether a part of an entry is empty: the next token belongs to the block. -/
def isEntryEnd : Token → Bool
  | .key => true
  | .value => true
  | .blockEnd => true
  | _ => false

/-- Whether an item of a sequence without indentation is empty. -/
def isLooseEnd (t : Token) : Bool := t = .blockEntry || isEntryEnd t

mutual

/-- Reads a node. In a block there may be blocks; `loose` says that a sequence needs no indentation
here. -/
def readNode : Nat → (block loose : Bool) → Names → List Token → Read Node
  | 0, _, _, names, _ => .fault .broken names
  | fuel + 1, block, loose, names, tokens =>
    match tokens with
    | .alias name :: rest => match names.anchors.lookup name with
      | some target => ⟨.alias target, names, rest⟩
      | none => .fault .broken names
    | tokens =>
      let (p, rest) := readProperties tokens
      let tag := p.tag.map fun (handle, suffix) => names.tag? handle suffix
      if tag = some none ∨ rest = [] then .fault .broken names
      else
        let tag := tag.join
        let (anchor, named) := names.anchor p.anchor
        match rest with
        | .scalar text style :: rest =>
          ⟨.scalar anchor ⟨tag, text, style⟩, named, rest⟩
        | .openSequence :: rest =>
          let r := readFlowItems fuel true named rest
          ⟨.sequence anchor tag r.value, r.names, r.rest⟩
        | .openMapping :: rest =>
          let r := readFlowEntries fuel true named rest
          ⟨.mapping anchor tag r.value, r.names, r.rest⟩
        | token :: rest =>
          if loose ∧ token = .blockEntry then
            let r := readLooseItems fuel named (token :: rest)
            ⟨.sequence anchor tag r.value, r.names, r.rest⟩
          else if block ∧ token = .blockSequence then
            let r := readItems fuel named rest
            ⟨.sequence anchor tag r.value, r.names, r.rest⟩
          else if block ∧ token = .blockMapping then
            let r := readEntries fuel named rest
            ⟨.mapping anchor tag r.value, r.names, r.rest⟩
          else if p.anchor.isSome ∨ tag.isSome then
            ⟨.scalar anchor ⟨tag, "", .plain⟩, named, token :: rest⟩
          else .fault .broken names
        | [] => .fault .broken names

/-- Reads the node of an item or entry, which may be empty. -/
def readPart : Nat → (ends : Token → Bool) → (loose : Bool) → Names → List Token → Read Node
  | 0, _, _, names, _ => .fault .broken names
  | fuel + 1, ends, loose, names, tokens =>
    match tokens with
    | [] => .fault .broken names
    | t :: rest =>
      if ends t then ⟨.empty, names, t :: rest⟩ else readNode fuel true loose names (t :: rest)

/-- Reads the items of a block sequence. -/
def readItems : Nat → Names → List Token → Read Items
  | 0, names, _ => .fault (.close false) names
  | fuel + 1, names, tokens =>
    match tokens with
    | .blockEntry :: rest =>
      let item := readPart fuel isItemEnd false names rest
      let r := readItems fuel item.names item.rest
      ⟨.item item.value r.value, r.names, r.rest⟩
    | .blockEnd :: rest => ⟨.close true, names, rest⟩
    | _ => .fault (.close false) names

/-- Reads the items of a sequence without indentation, which ends where no item follows. -/
def readLooseItems : Nat → Names → List Token → Read Items
  | 0, names, _ => .fault (.close false) names
  | fuel + 1, names, tokens =>
    match tokens with
    | .blockEntry :: rest =>
      let item := readPart fuel isLooseEnd false names rest
      let r := readLooseItems fuel item.names item.rest
      ⟨.item item.value r.value, r.names, r.rest⟩
    | [] => .fault (.close false) names
    | rest => ⟨.close true, names, rest⟩

/-- Reads the entries of a block mapping. A value that is missing is empty. -/
def readEntries : Nat → Names → List Token → Read Entries
  | 0, names, _ => .fault (.close false) names
  | fuel + 1, names, tokens =>
    match tokens with
    | .key :: rest =>
      let key := readPart fuel isEntryEnd true names rest
      let value := match key.rest with
        | .value :: rest => readPart fuel isEntryEnd true key.names rest
        | [] => .fault .broken key.names
        | rest => ⟨.empty, key.names, rest⟩
      let r := readEntries fuel value.names value.rest
      ⟨.entry key.value value.value r.value, r.names, r.rest⟩
    | .blockEnd :: rest => ⟨.close true, names, rest⟩
    | _ => .fault (.close false) names

/-- Reads the node of an item or entry inside brackets, which may be empty. -/
def readFlowPart : Nat → (close : Token) → Names → List Token → Read Node
  | 0, _, names, _ => .fault .broken names
  | fuel + 1, close, names, tokens =>
    match tokens with
    | [] => .fault .broken names
    | t :: rest =>
      if t = .flowEntry ∨ t = close then ⟨.empty, names, t :: rest⟩
      else readNode fuel false false names (t :: rest)

/-- Reads the value of an entry inside brackets, if a colon stands before it. -/
def readFlowValue : Nat → (close : Token) → Names → List Token → Read Node
  | 0, _, names, _ => .fault .broken names
  | fuel + 1, close, names, tokens =>
    match tokens with
    | .value :: rest => readFlowPart fuel close names rest
    | [] => .fault .broken names
    | rest => ⟨.empty, names, rest⟩

/-- Reads the items of a sequence in brackets. An item may be a mapping of one entry. -/
def readFlowItems : Nat → (first : Bool) → Names → List Token → Read Items
  | 0, _, names, _ => .fault (.close false) names
  | fuel + 1, first, names, tokens =>
    let item (tokens : List Token) : Read Items :=
      match tokens with
      | .closeSequence :: rest => ⟨.close true, names, rest⟩
      | .key :: rest =>
        let pair := readPair fuel names rest
        let r := readFlowItems fuel false pair.names pair.rest
        ⟨.item (.mapping none none pair.value) r.value, r.names, r.rest⟩
      | [] => .fault (.close false) names
      | tokens =>
        let node := readNode fuel false false names tokens
        let r := readFlowItems fuel false node.names node.rest
        ⟨.item node.value r.value, r.names, r.rest⟩
    match tokens with
    | .closeSequence :: rest => ⟨.close true, names, rest⟩
    | .flowEntry :: rest => if first then item tokens else item rest
    | tokens => if first then item tokens else .fault (.close false) names

/-- Reads the one entry of a mapping that is an item in brackets. A missing key takes the sign
after it away. -/
def readPair : Nat → Names → List Token → Read Entries
  | 0, names, _ => .fault (.close false) names
  | fuel + 1, names, tokens =>
    let key : Read Node := match tokens with
      | [] => .fault .broken names
      | t :: rest =>
        if t = .value ∨ t = .flowEntry ∨ t = .closeSequence then ⟨.empty, names, rest⟩
        else readNode fuel false false names (t :: rest)
    let value := readFlowValue fuel .closeSequence key.names key.rest
    ⟨.entry key.value value.value (.close (!value.rest.isEmpty)), value.names, value.rest⟩

/-- Reads the entries of a mapping in braces. -/
def readFlowEntries : Nat → (first : Bool) → Names → List Token → Read Entries
  | 0, _, names, _ => .fault (.close false) names
  | fuel + 1, first, names, tokens =>
    let entry (tokens : List Token) : Read Entries :=
      match tokens with
      | .closeMapping :: rest => ⟨.close true, names, rest⟩
      | .key :: rest =>
        let key : Read Node := match rest with
          | .value :: _ => ⟨.empty, names, rest⟩
          | rest => readFlowPart fuel .closeMapping names rest
        let value := readFlowValue fuel .closeMapping key.names key.rest
        let r := readFlowEntries fuel false value.names value.rest
        ⟨.entry key.value value.value r.value, r.names, r.rest⟩
      | [] => .fault (.close false) names
      | tokens =>
        let key := readNode fuel false false names tokens
        let value : Node := if key.rest = [] then .broken else .empty
        let r := readFlowEntries fuel false key.names key.rest
        ⟨.entry key.value value r.value, r.names, r.rest⟩
    match tokens with
    | .closeMapping :: rest => ⟨.close true, names, rest⟩
    | .flowEntry :: rest => if first then entry tokens else entry rest
    | tokens => if first then entry tokens else .fault (.close false) names

end

/-! ## Documents -/

/-- Reads the directives before a document. A version has to be 1.1 or 1.2 and may be told once; a
handle may be given a meaning once. -/
def readDirectives : (told : Bool) → List (String × String) → List Token →
    Option (List (String × String) × List Token)
  | told, handles, .version major minor :: rest =>
    if told ∨ major ≠ 1 ∨ (minor ≠ 1 ∧ minor ≠ 2) then none
    else readDirectives true handles rest
  | told, handles, .handle name start :: rest =>
    if handles.any fun (other, _) => other == name then none
    else readDirectives told ((name, start) :: handles) rest
  | _, handles, rest => some (handles, rest)

/-- Whether a document has no content: the next token is no part of it. -/
def isDocumentEnd : Token → Bool
  | .version _ _ => true
  | .handle _ _ => true
  | .documentStart => true
  | .documentEnd => true
  | .streamEnd => true
  | _ => false

/-- A stream: the root of its first document, unless there is no document, and whether the stream
ends properly after it. -/
structure Document where
  root : Option Node
  ended : Bool

/-- Whether the stream ends here. -/
def endsStream : List Token → Bool
  | .documentEnd :: rest => endsStream rest
  | [.streamEnd] => true
  | _ => false

/-- Reads the first document of a stream. It begins with a sign, or with its first node. Reading a
node takes a token or leaves it to the next level up, so four times the tokens are enough. -/
def Document.ofTokens (tokens : List Token) : Document :=
  let fuel := 4 * tokens.length + 4
  let finish (r : Read Node) : Document := ⟨some r.value, endsStream r.rest⟩
  match tokens with
  | [] => ⟨some .broken, false⟩
  | .streamEnd :: _ => ⟨none, true⟩
  | t :: rest =>
    if isDocumentEnd t ∧ t ≠ .documentEnd then
      match readDirectives false [] (t :: rest) with
      | some (handles, .documentStart :: rest) =>
        let names := { Names.standard with handles := handles ++ Names.standard.handles }
        match rest with
        | [] => ⟨some .broken, false⟩
        | t :: rest =>
          if isDocumentEnd t then finish ⟨.empty, names, t :: rest⟩
          else finish (readNode fuel true false names (t :: rest))
      | _ => ⟨some .broken, false⟩
    else finish (readNode fuel true false .standard (t :: rest))

/-- Reads a text. -/
def Document.ofText (text : String) : Document := .ofTokens (tokens text).1

/-! ## Aliases -/

mutual

/-- The nodes with a number, in the order of the document. -/
def Node.numbered : Node → List (Nat × Node)
  | .scalar anchor s => (anchor.map fun n => (n, .scalar anchor s)).toList
  | .sequence anchor tag items =>
    (anchor.map fun n => (n, .sequence anchor tag items)).toList ++ items.numbered
  | .mapping anchor tag entries =>
    (anchor.map fun n => (n, .mapping anchor tag entries)).toList ++ entries.numbered
  | .alias _ => []
  | .broken => []

/-- The nodes with a number among items. -/
def Items.numbered : Items → List (Nat × Node)
  | .close _ => []
  | .item value rest => value.numbered ++ rest.numbered

/-- The nodes with a number among entries. -/
def Entries.numbered : Entries → List (Nat × Node)
  | .close _ => []
  | .entry key value rest => key.numbered ++ value.numbered ++ rest.numbered

end

mutual

/-- How many beginnings and ends of nodes there are in a node. -/
def Node.marks : Node → Nat
  | .scalar _ _ => 1
  | .sequence _ _ items => 1 + items.marks
  | .mapping _ _ entries => 1 + entries.marks
  | .alias _ => 1
  | .broken => 0

/-- The beginnings and ends in items, and the end after them. -/
def Items.marks : Items → Nat
  | .close proper => if proper then 1 else 0
  | .item value rest => value.marks + rest.marks

/-- The beginnings and ends in entries, and the end after them. -/
def Entries.marks : Entries → Nat
  | .close proper => if proper then 1 else 0
  | .entry key value rest => key.marks + value.marks + rest.marks

end

end Striker.Yaml
