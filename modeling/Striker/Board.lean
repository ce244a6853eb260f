/-
The board: the memory that perception, behaviour and motion share. Each of its parts has one writer.
Requests are double buffered: behaviour writes the buffer that nobody reads and then turns the two
round, so motion always reads a complete request, and the one before stays where it is until the
next is published.
-/
import Striker.Request
import Striker.Sighting

namespace Striker

/-- Two requests, one of which is being read. -/
structure Buffer where
  first : Request
  second : Request
  /-- Whether the second is the one being read. -/
  flipped : Bool
  deriving DecidableEq

namespace Buffer

/-- Two empty requests, the first being read. -/
def empty : Buffer := ⟨default, default, false⟩

/-- The request that was published last. -/
def front (b : Buffer) : Request := if b.flipped then b.second else b.first

/-- The request that was published before that. -/
def back (b : Buffer) : Request := if b.flipped then b.first else b.second

/-- Writes the back buffer and makes it the front buffer. -/
def publish (b : Buffer) (r : Request) : Buffer :=
  if b.flipped then ⟨r, b.second, false⟩ else ⟨b.first, r, true⟩

/-- The number of the buffer being read. -/
def reading (b : Buffer) : Nat := if b.flipped then 1 else 0

end Buffer

/-- What the three writers have written. -/
structure Board where
  /-- Written by perception. -/
  sighting : Sighting
  /-- What motion reports that the body is doing. -/
  active : Action
  /-- How often motion has reported. -/
  uptime : Nat
  /-- Written by behaviour. -/
  requests : Buffer
  deriving DecidableEq

/-- What behaviour reads in one frame. -/
structure Snapshot where
  sighting : Sighting
  active : Action
  /-- The request published in the frame before. -/
  published : Request
  deriving DecidableEq

namespace Snapshot

/-- A snapshot as a term. -/
def term (s : Snapshot) : Text.Term :=
  .record "BlackboardSnapshot" [("perception", s.sighting.term),
    ("motion_active", s.active.term), ("published", s.published.term)]

end Snapshot

namespace Board

/-- A board that nobody has written to. -/
def empty : Board := ⟨.lost, .none, 0, .empty⟩

/-- Perception saw the ball. -/
def see (b : Board) (p : Position) : Board := { b with sighting := .ofPosition p }

/-- Perception lost the ball. -/
def lose (b : Board) : Board := { b with sighting := .lost }

/-- Motion reports what the body is doing. -/
def report (b : Board) (active : Action) : Board := { b with active, uptime := b.uptime + 1 }

/-- Behaviour publishes a request. -/
def publish (b : Board) (r : Request) : Board := { b with requests := b.requests.publish r }

/-- The request that was published last. -/
def request (b : Board) : Request := b.requests.front

/-- What behaviour would read now. -/
def snapshot (b : Board) : Snapshot := ⟨b.sighting, b.active, b.request⟩

end Board

end Striker
