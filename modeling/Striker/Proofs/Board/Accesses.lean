/-
The board under any mix of accesses. Perception, behaviour and motion write to it in any order, each
as often as it likes: perception sees or loses the ball, a request is published by hand or by the tick
of a runner, and motion updates. What was written is kept in a record beside the board, and the board
always shows the last of it: no write is lost, and none is seen before it is complete. The two buffers
take turns, so the request before the last one stays where it was.
-/
import Striker.Motion
import Striker.Proofs.Runner.Activation

namespace Striker

/-! ## Buffers -/

namespace Buffer

variable (b : Buffer) (r : Request)

/-- The two requests, in the places that the numbers of the buffers stand for. -/
def cells : List Request := [b.first, b.second]

theorem cells_reading : b.cells[b.reading]? = some b.front := by
  unfold cells reading front
  split <;> rfl

theorem cells_other : b.cells[1 - b.reading]? = some b.back := by
  unfold cells reading back
  split <;> rfl

/-- A request goes to the buffer that nobody reads. -/
theorem cells_publish : (b.publish r).cells = b.cells.set (1 - b.reading) r := by
  unfold cells reading publish
  split <;> rfl

theorem reading_publish : (b.publish r).reading = 1 - b.reading := by
  unfold reading publish
  cases b.flipped <;> rfl

theorem back_publish : (b.publish r).back = b.front := by
  unfold back front publish
  cases b.flipped <;> rfl

end Buffer

/-! ## Accesses -/

/-- An access to the board. Motion and runners may be any, and may be others each time. -/
inductive Access (τ : Type) where
  | see (p : Position)
  | lose
  | publish (r : Request)
  | update (m : Motion)
  | tick (r : Runner τ)

/-- What has been written to a board, by each of its writers, in order. -/
structure Writes where
  sightings : List Sighting
  reports : List Action
  requests : List Request

instance : Append Writes :=
  ⟨fun w v => ⟨w.sightings ++ v.sightings, w.reports ++ v.reports, w.requests ++ v.requests⟩⟩

/-- Nothing written. -/
def Writes.none : Writes := ⟨[], [], []⟩

theorem Writes.append_def (w v : Writes) : w ++ v =
    ⟨w.sightings ++ v.sightings, w.reports ++ v.reports, w.requests ++ v.requests⟩ := rfl

theorem Writes.append_assoc (u v w : Writes) : u ++ v ++ w = u ++ (v ++ w) := by
  simp only [append_def, List.append_assoc]

namespace Access

variable {τ σ : Type} [Behaviour τ σ]

/-- The board after an access. -/
def apply (b : Board) : Access τ → Board
  | see p => b.see p
  | lose => b.lose
  | publish r => b.publish r
  | update m => (m.update b).2
  | tick r => (r.tick b).board

/-- What an access writes: motion writes what it reports of itself when it has read the request, and
a runner writes the request that its record holds. -/
def writes (b : Board) : Access τ → Writes
  | see p => ⟨[⟨some p, some p.heading⟩], [], []⟩
  | lose => ⟨[.lost], [], []⟩
  | publish r => ⟨[], [], [r]⟩
  | update m => ⟨[], [(m.update b).1.report], []⟩
  | tick r => ⟨[], [], [(r.tick b).entry.request]⟩

/-- Whether an access publishes a request. -/
def publishes : Access τ → Bool
  | publish _ => true
  | tick _ => true
  | _ => false

/-- Whether an access is an update by motion. -/
def reports : Access τ → Bool
  | update _ => true
  | _ => false

end Access

namespace Board

variable {τ σ : Type} [Behaviour τ σ]

/-- The board after accesses. -/
def after (b : Board) (l : List (Access τ)) : Board := l.foldl Access.apply b

/-- What accesses write. -/
def written (b : Board) : List (Access τ) → Writes
  | [] => .none
  | a :: l => a.writes b ++ written (a.apply b) l

theorem written_length (b : Board) (l : List (Access τ)) :
    (b.written l).requests.length = l.countP Access.publishes ∧
      (b.written l).reports.length = l.countP Access.reports := by
  induction l generalizing b with
  | nil => exact ⟨rfl, rfl⟩
  | cons a l ih =>
    obtain ⟨hrequests, hreports⟩ := ih (a.apply b)
    have hr : (b.written (a :: l)).requests =
        (a.writes b).requests ++ ((a.apply b).written l).requests := rfl
    have hp : (b.written (a :: l)).reports =
        (a.writes b).reports ++ ((a.apply b).written l).reports := rfl
    rw [hr, hp, List.length_append, List.length_append, hrequests, hreports, List.countP_cons,
      List.countP_cons]
    cases a <;> simp [Access.writes, Access.publishes, Access.reports, Nat.add_comm]

/-! ## The last writes -/

/-- A board shows the last of what has been written to it. -/
structure Shows (b : Board) (w : Writes) : Prop where
  sighting : b.sighting = w.sightings.getLast?.getD .lost
  active : b.active = w.reports.getLast?.getD .none
  uptime : b.uptime = w.reports.length
  front : b.requests.front = w.requests.getLast?.getD default
  back : b.requests.back = w.requests.dropLast.getLast?.getD default
  reading : b.requests.reading = w.requests.length % 2

theorem shows_empty : empty.Shows .none := ⟨rfl, rfl, rfl, rfl, rfl, rfl⟩

theorem Shows.publish {b : Board} {w : Writes} (h : b.Shows w) (r : Request) :
    (b.publish r).Shows (w ++ ⟨[], [], [r]⟩) := by
  have hreading := h.reading
  simp only [Writes.append_def, List.append_nil]
  refine ⟨h.sighting, h.active, h.uptime, ?_, ?_, ?_⟩
  · rw [List.getLast?_concat]
    exact request_publish b r
  · rw [List.dropLast_concat, ← h.front]
    exact Buffer.back_publish _ _
  · show (b.requests.publish r).reading = (w.requests ++ [r]).length % 2
    rw [Buffer.reading_publish, List.length_append, List.length_singleton]
    omega

theorem Shows.look {b : Board} {w : Writes} (h : b.Shows w) (g : Sighting) :
    Shows { b with sighting := g } (w ++ ⟨[g], [], []⟩) := by
  simp only [Writes.append_def, List.append_nil]
  refine ⟨?_, h.active, h.uptime, h.front, h.back, h.reading⟩
  rw [List.getLast?_concat]
  rfl

theorem Shows.report {b : Board} {w : Writes} (h : b.Shows w) (a : Action) :
    (b.report a).Shows (w ++ ⟨[], [a], []⟩) := by
  simp only [Writes.append_def, List.append_nil]
  refine ⟨h.sighting, ?_, ?_, h.front, h.back, h.reading⟩
  · rw [List.getLast?_concat]
    rfl
  · rw [List.length_append, ← h.uptime]
    rfl

theorem Shows.apply {b : Board} {w : Writes} (h : b.Shows w) (a : Access τ) :
    (a.apply b).Shows (w ++ a.writes b) := by
  cases a with
  | see p => exact h.look ⟨some p, some p.heading⟩
  | lose => exact h.look .lost
  | publish r => exact h.publish r
  | update m => exact h.report (m.update b).1.report
  | tick r => exact h.publish (r.tick b).entry.request

theorem Shows.after {b : Board} {w : Writes} (h : b.Shows w) (l : List (Access τ)) :
    (b.after l).Shows (w ++ b.written l) := by
  induction l generalizing b w with
  | nil =>
    show b.Shows (w ++ Writes.none)
    simp only [Writes.append_def, Writes.none, List.append_nil]
    exact h
  | cons a l ih =>
    have hrest := ih (h.apply a)
    rw [Writes.append_assoc] at hrest
    exact hrest

/-- The board after any accesses shows the last sighting, the last report and the last request that
were written, and as many updates as there were. It reads the buffer whose number is that of the
publications modulo two, and the other one, which the next request goes to, holds the request before
the last. A tick reads exactly what the board shows, and changes nothing but the requests; its record
has the report that it read, and the request that the board then shows. An update reads the last
request, and changes nothing but the report and its number. -/
theorem shows_last_writes (l : List (Access τ)) :
    let b := empty.after l
    let w := empty.written l
    let sighting := w.sightings.getLast?.getD .lost
    let active := w.reports.getLast?.getD .none
    let request := w.requests.getLast?.getD default
    b.snapshot = ⟨sighting, active, request⟩ ∧
    b.uptime = l.countP Access.reports ∧
    b.requests.reading = l.countP Access.publishes % 2 ∧
    b.requests.cells[b.requests.reading]? = some request ∧
    b.requests.cells[1 - b.requests.reading]? = some (w.requests.dropLast.getLast?.getD default) ∧
    (∀ r, (b.publish r).requests.cells = b.requests.cells.set (1 - b.requests.reading) r ∧
      (b.publish r).requests.reading = 1 - b.requests.reading) ∧
    (∀ r : Runner τ,
      let ticked := Behaviour.tick r.task ⟨r.frame, sighting, active, request⟩
      (r.tick b).board = b.publish ticked.request ∧
      (r.tick b).runner.task = ticked.task ∧ (r.tick b).events = ticked.events ∧
      (r.tick b).entry = ⟨r.frame, active, ticked.request, Behaviour.status ticked.task⟩) ∧
    ∀ m : Motion, (m.update b).1 = m.step request.body.action ∧
      (m.update b).2 = { b with active := (m.update b).1.report, uptime := b.uptime + 1 } := by
  intro b w sighting active request
  have h : b.Shows w := shows_empty.after l
  obtain ⟨hrequests, hreports⟩ := written_length empty l
  have hsnapshot : b.snapshot = ⟨sighting, active, request⟩ := by
    unfold snapshot Board.request
    rw [h.sighting, h.active, h.front]
  have hrequest : b.request = request := h.front
  refine ⟨hsnapshot, h.uptime.trans hreports, ?_, ?_, ?_, fun r => ?_, fun r => ?_, fun m => ?_⟩
  · rw [h.reading, ← hrequests]
  · rw [Buffer.cells_reading, h.front]
  · rw [Buffer.cells_other, h.back]
  · exact ⟨Buffer.cells_publish _ r, Buffer.reading_publish _ r⟩
  · intro ticked
    have hcontext : Context.ofSnapshot r.frame b.snapshot = ⟨r.frame, sighting, active, request⟩ := by
      rw [hsnapshot]
      rfl
    have hran : Behaviour.tick r.task (.ofSnapshot r.frame b.snapshot) = ticked := by
      rw [hcontext]
    have hactive : b.active = active := h.active
    unfold Runner.tick
    rw [hran, hactive]
    exact ⟨rfl, rfl, rfl, rfl⟩
  · unfold Motion.update
    rw [hrequest]
    exact ⟨rfl, rfl⟩

end Board

end Striker
