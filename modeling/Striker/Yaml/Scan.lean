/-
The tokens of a stream. Where a block begins and ends follows from indentation, and whether a node
is a key is known only when a colon follows it; so the token before a possible key is inserted
afterwards, and tokens that a possible key might still stand before are not yet certain. A stream
that goes wrong has its certain tokens and nothing after them.
-/
import Striker.Yaml.Token

namespace Striker.Yaml

/-- A place where a key may have begun, with the tokens before it. Where a key is the only thing
that may stand, it is required. -/
structure Candidate where
  number : Nat
  start : Position
  required : Bool
  deriving DecidableEq

/-- A stream that has been read up to some place. -/
structure Scan where
  input : Input
  /-- The tokens, last one first. -/
  tokens : List Token
  size : Nat
  /-- The possible key at this level of brackets. -/
  candidate : Option Candidate
  /-- The possible keys at the levels around it, innermost first. -/
  outer : List (Option Candidate)
  /-- Whether a key may begin here. -/
  allowed : Bool
  /-- The column of the innermost block, or -1. -/
  indent : Int
  /-- The columns of the blocks around it, innermost first. -/
  indents : List Int
  /-- Whether the end has been reached. -/
  ended : Bool

namespace Scan

/-- The start of a stream. -/
def ofText (cs : List Char) : Scan :=
  ⟨.ofText cs, [], 0, none, [], true, -1, [], false⟩

/-- Whether the place is inside brackets. -/
def isFlow (s : Scan) : Bool := !s.outer.isEmpty

/-- One more token. -/
def put (s : Scan) (t : Token) : Scan := { s with tokens := t :: s.tokens, size := s.size + 1 }

/-- A token put in after the first `number`. -/
def insert (s : Scan) (number : Nat) (t : Token) : Scan :=
  let later := s.size - number
  { s with tokens := s.tokens.take later ++ t :: s.tokens.drop later, size := s.size + 1 }

/-- A token of `n` characters that stand here. -/
def take (s : Scan) (n : Nat) (t : Token) : Scan := { s with input := s.input.advance n }.put t

/-! ## Blocks -/

/-- Begins a block at a column that is further in than the block around it. -/
def enter (s : Scan) (column : Nat) (number : Nat) (t : Token) : Scan :=
  if s.isFlow ∨ (column : Int) ≤ s.indent then s
  else { s with indent := column, indents := s.indent :: s.indents }.insert number t

/-- The block that a column belongs to: the blocks that end before it, its own column, and those
of the blocks around it. -/
def blockAt (column : Int) : Int → List Int → Nat × Int × List Int
  | indent, [] => (0, indent, [])
  | indent, around :: indents =>
    if column < indent then
      let (n, rest) := blockAt column around indents
      (n + 1, rest)
    else (0, indent, around :: indents)

/-- Ends the blocks that a column does not belong to. -/
def leave (s : Scan) (column : Int) : Scan :=
  if s.isFlow then s
  else
    let (n, indent, indents) := blockAt column s.indent s.indents
    { s with
      indent, indents
      tokens := List.replicate n .blockEnd ++ s.tokens
      size := s.size + n }

/-! ## Possible keys -/

/-- Whether a possible key is too far back: in another line, or more than 1024 bytes away. -/
def isStale (s : Scan) (c : Candidate) : Bool :=
  c.start.line < s.input.start.line || c.start.index + 1024 < s.input.start.index

/-- Gives up the possible keys that are too far back, unless one of them is required. -/
def settle (s : Scan) : Option Scan :=
  if (s.candidate :: s.outer).any fun c => c.any fun c => s.isStale c && c.required then none
  else
    let fresh (c : Option Candidate) : Option Candidate := c.filter fun c => !s.isStale c
    some { s with candidate := fresh s.candidate, outer := s.outer.map fresh }

/-- Gives up the possible key at this level, unless it is required. -/
def drop (s : Scan) : Option Scan :=
  if s.candidate.any Candidate.required then none else some { s with candidate := none }

/-- Remembers that a key may begin here. -/
def mark (s : Scan) : Option Scan :=
  if s.allowed then do
    let s ← s.drop
    let required := !s.isFlow && s.indent = s.input.start.column
    return { s with candidate := some ⟨s.size, s.input.start, required⟩ }
  else some s

/-- The tokens that no possible key may still stand before. -/
def certain (s : Scan) : List Token :=
  let first := (s.candidate :: s.outer).foldl (fun n c => match c with
    | some c => min n c.number
    | none => n) s.size
  (s.tokens.drop (s.size - first)).reverse

/-! ## Tokens -/

/-- Goes on over blanks, comments and line ends. After the end of a line a key may begin, and where
one may begin a tab is no blank. -/
def skipSpace (flow : Bool) (comment allowed : Bool) (p : Position) : List Char → Bool × Input
  | '\r' :: '\n' :: rest => skipSpace flow false (allowed || !flow) (p.newLine 2) rest
  | c :: rest =>
    if isBreak c then skipSpace flow false (allowed || !flow) (p.after c) rest
    else if comment ∨ c = ' ' ∨ (c = '\t' ∧ (flow ∨ !allowed))
        ∨ (c = '\ufeff' ∧ p.column = 0) then
      skipSpace flow comment allowed (p.after c) rest
    else if c = '#' then skipSpace flow true allowed (p.after c) rest
    else (allowed, ⟨p, c :: rest⟩)
  | [] => (allowed, ⟨p, []⟩)

/-- Ends all blocks. -/
def leaveAll (s : Scan) : Option Scan := do
  let s ← (s.leave (-1)).drop
  return { s with allowed := false }

/-- The end of the stream, which ends the line, too. -/
def finish (s : Scan) : Option Scan := do
  let start := s.input.start
  let start := if start.column = 0 then start else start.newLine 0
  let s ← { s with input := ⟨start, []⟩ }.leaveAll
  return { s.put .streamEnd with ended := true }

/-- An opening bracket. -/
def openBracket (s : Scan) (t : Token) : Option Scan := do
  let s ← s.mark
  return { s with candidate := none, outer := s.candidate :: s.outer, allowed := true }.take 1 t

/-- A closing bracket. -/
def closeBracket (s : Scan) (t : Token) : Option Scan := do
  let s ← s.drop
  let s := match s.outer with
    | candidate :: outer => { s with candidate, outer }
    | [] => s
  return { s with allowed := false }.take 1 t

/-- A sign before an item or key of a block, which begins the block if it is the first. -/
def blockSign (s : Scan) (start t : Token) : Option Scan :=
  if s.isFlow then some (s.take 1 t)
  else if s.allowed then
    some ((s.enter s.input.start.column s.size start).take 1 t)
  else none

/-- A hyphen before an item. -/
def hyphen (s : Scan) : Option Scan := do
  let s ← (← s.blockSign .blockSequence .blockEntry).drop
  return { s with allowed := true }

/-- A question mark before a key. -/
def questionMark (s : Scan) : Option Scan := do
  let s ← (← s.blockSign .blockMapping .key).drop
  return { s with allowed := !s.isFlow }

/-- A colon, which makes a possible key a key. -/
def colon (s : Scan) : Option Scan :=
  match s.candidate with
  | some c =>
    let s := (s.insert c.number .key).enter c.start.column c.number .blockMapping
    some ({ s with candidate := none, allowed := false }.take 1 .value)
  | none => do
    let s ← s.blockSign .blockMapping .value
    return { s with allowed := !s.isFlow }

/-- A token that a key may begin with. -/
def word (s : Scan) (read : Input → Option (Token × Input)) : Option Scan := do
  let s ← s.mark
  let (t, input) ← read s.input
  return { s with input, allowed := false }.put t

/-- A block scalar. -/
def block (s : Scan) (literal : Bool) : Option Scan := do
  let s ← s.drop
  let (text, input) ← readBlock literal s.indent (s.input.advance 1)
  let style := if literal then Style.literal else .folded
  return { s with input, allowed := true }.put (.scalar (String.ofList text) style)

/-- A quoted scalar. -/
def quoted (double : Bool) (i : Input) : Option (Token × Input) := do
  let (text, i) ← readQuoted double [] none (i.advance 1).start 0 (i.rest.drop 1)
  return (.scalar (String.ofList text) .quoted, i)

/-- A plain scalar. If it goes on to another line, a key may begin there. -/
def plain (s : Scan) : Option Scan := do
  let s ← s.mark
  let r ← readPlain (s.indent + 1) s.isFlow [] none s.input.start s.input.rest
  return { s with input := r.input, allowed := r.broken }.put
    (.scalar (String.ofList r.text) .plain)

/-- A sign that no plain scalar begins with, unless a word goes on after it. -/
def isSign (c : Char) : Bool :=
  ['-', '?', ':', ',', '[', ']', '\x7b', '\x7d', '#', '&', '*', '!', '|', '>', '\'', '"', '%', '@',
    '\x60'].contains c

/-- Whether a plain scalar may begin here. -/
def plainBegins (flow : Bool) (c : Char) (rest : List Char) : Bool :=
  (!isBlank c && !isSign c) || (c = '-' && !(rest.head?.any isBlank))
    || (!flow && (c = '?' || c = ':') && !wordEnds rest)

/-- Reads the token that stands here. -/
def token (s : Scan) : Option Scan :=
  let flow := s.isFlow
  match s.input.rest with
  | [] => s.finish
  | c :: rest =>
    if c = '%' ∧ s.input.start.column = 0 then do
      let s ← s.leaveAll
      let (t, input) ← readDirective (s.input.advance 1)
      return { s with input }.put t
    else if isMarker s.input.start (c :: rest) then do
      let s ← s.leaveAll
      return s.take 3 (if c = '-' then .documentStart else .documentEnd)
    else if c = '[' then s.openBracket .openSequence
    else if c = '\x7b' then s.openBracket .openMapping
    else if c = ']' then s.closeBracket .closeSequence
    else if c = '\x7d' then s.closeBracket .closeMapping
    else if c = ',' then do
      let s ← s.drop
      return { s with allowed := true }.take 1 .flowEntry
    else if c = '-' ∧ wordEnds rest then s.hyphen
    else if c = '?' ∧ (flow ∨ wordEnds rest) then s.questionMark
    else if c = ':' ∧ (flow ∨ wordEnds rest) then s.colon
    else if c = '*' then
      s.word fun i => (readAnchor (i.advance 1)).map fun (name, i) => (.alias name, i)
    else if c = '&' then
      s.word fun i => (readAnchor (i.advance 1)).map fun (name, i) => (.anchor name, i)
    else if c = '!' then s.word (readTag flow)
    else if c = '|' ∧ !flow then s.block true
    else if c = '>' ∧ !flow then s.block false
    else if c = '\'' then s.word (quoted false)
    else if c = '"' then s.word (quoted true)
    else if plainBegins flow c rest then s.plain
    else none

/-- Goes on to the next token and reads it. -/
def step (s : Scan) : Option Scan := do
  let (allowed, input) := skipSpace s.isFlow false s.allowed s.input.start s.input.rest
  let s ← { s with allowed, input }.settle
  (s.leave s.input.start.column).token

/-- Whether a text that goes wrong behind its end cannot be read on: a token may need four
characters to be told from others. -/
def isExhausted (s : Scan) : Bool := (s.input.rest.drop 3).isEmpty

/-- Reads tokens to the end of the stream, or to a fault; says which. What stands before a possible
key is certain only when the next token has been read, so a fault in reading on leaves the tokens
that were certain `before`. A text that is `cut` goes wrong behind its end. -/
def run (cut : Bool) : Nat → (before : Scan) → Scan → List Token × Bool
  | 0, before, _ => (before.certain, false)
  | fuel + 1, before, s =>
    match s.settle with
    | none => (before.certain, false)
    | some s =>
      if s.ended then (s.tokens.reverse, true)
      else match s.step with
        | none => (s.certain, false)
        | some next =>
          if cut && next.isExhausted then (s.certain, false) else run cut fuel s next

end Scan

/-- The tokens of a text. Each token takes a character at least, the end of the stream is one more,
and so is the look at what it left. -/
def tokens (text : String) : List Token × Bool :=
  let cs := text.toList
  let seen := legible [] [] blockSize cs
  let s := Scan.ofText seen
  Scan.run (seen.length < cs.length) (seen.length + 2) s s

end Striker.Yaml
