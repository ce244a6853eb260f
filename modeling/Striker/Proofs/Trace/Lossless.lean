/-
Logs read back. The line of an entry is one document, and a reader finds in it what was written: whole
numbers by their digits, choices by their names, a command by its kind and by a turn that is kept as data
until the kind is known, and a status by its phase and by the fields of the state, which are kept as well.
Only a number that is not finite would be lost, since it is written as null; but no sighting leads the task
to such a turn.
-/
import Striker.Proofs.Json.Reading
import Striker.Proofs.Task.Calls
import Striker.Proofs.Trace.Lines
import Striker.Proofs.Trace.Totals

namespace Striker

open Json (Cursor nodeOf)

variable {room : Nat}

/-! ## Requests -/

theorem Indicator.read_nodeOf (hroom : 1 < room) (i : Indicator) :
    read (⟨room, nodeOf i.datum⟩ : Cursor) = pure i := by
  have hlamp : Lamp.read (⟨room - 1, nodeOf i.lamp.datum⟩ : Cursor) = pure i.lamp := by
    refine (Cursor.choice_nodeOf _ _ _).trans ?_
    cases i.lamp <;> rfl
  have hcolour : Colour.read (⟨room - 1, nodeOf i.colour.datum⟩ : Cursor) = pure i.colour := by
    refine (Cursor.choice_nodeOf _ _ _).trans ?_
    cases i.colour <;> rfl
  refine (Cursor.read_nodeOf hroom _ _).trans ?_
  simp only [Record.ofEntries, List.map_cons, List.map_nil]
  rw [Record.fill_of Cursor.names_nodeOf rfl (by simp) hlamp,
    Record.fill_of Cursor.names_nodeOf rfl (by simp) hcolour, Record.fill]
  rfl

theorem Command.read_nodeOf (hroom : 1 < room) {c : Command}
    (h : Json.read Source.single (Json.text (.single c.turn)) = .ok c.turn) :
    read (⟨room, nodeOf c.datum⟩ : Cursor) = pure c := by
  obtain ⟨d, hdatum, hsingle⟩ := Cursor.exists_datum_single (room - 1) h "any value"
  -- the kind comes first, and the turn is kept until it is known
  obtain ⟨make, hkind, hmake⟩ : ∃ make, readKind (⟨room - 1, nodeOf (.text c.kind)⟩ : Cursor) =
      pure make ∧ make c.turn = c := by
    cases c <;> exact ⟨_, Cursor.label_nodeOf _ _ _ _, rfl⟩
  have hparts : Source.parts "internally tagged enum BodyCommand" readParts
      (⟨room, nodeOf c.datum⟩ : Cursor) = pure (make, .table [(.text "turn", d)]) := by
    refine (Cursor.record_nodeOf hroom _ _ _).trans ?_
    simp [readParts, readEntries, Cursor.datum_text, hkind, Source.buffer, hdatum, closing]
  unfold read
  rw [hparts, pure_bind]
  show (rest make).ofEntries [(.text "turn", d)] none = pure c
  unfold Record.ofEntries
  rw [Record.fill_of Record.names_text rfl (by simp) hsingle, Record.fill, hmake]
  rfl

theorem Request.read_nodeOf (hroom : 2 < room) {r : Request}
    (h : Json.read Source.single (Json.text (.single r.body.turn)) = .ok r.body.turn) :
    read (⟨room, nodeOf r.datum⟩ : Cursor) = pure r := by
  have hbody := Command.read_nodeOf (show 1 < room - 1 by omega) h
  have hhint : Source.flag (⟨room - 1, nodeOf (.flag r.hint)⟩ : Cursor) = pure r.hint := rfl
  have hindicator : Source.option Indicator.read
      (⟨room - 1, nodeOf (.option Indicator.datum r.indicator)⟩ : Cursor) = pure r.indicator := by
    cases r.indicator with
    | none => rfl
    | some i =>
      have hi := Indicator.read_nodeOf (show 1 < room - 1 by omega) i
      show (Indicator.read (⟨room - 1, nodeOf i.datum⟩ : Cursor) >>= fun i => pure (some i)) = _
      rw [hi, pure_bind]
  refine (Cursor.read_nodeOf (by omega) _ _).trans ?_
  simp only [Record.ofEntries, List.map_cons, List.map_nil]
  rw [Record.fill_of Cursor.names_nodeOf rfl (by simp) hbody,
    Record.fill_of Cursor.names_nodeOf rfl (by simp) hhint,
    Record.fill_of Cursor.names_nodeOf rfl (by simp) hindicator, Record.fill]
  rfl

/-! ## Statuses -/

theorem State.read_datum {s : State} (h : s.walkFrames < UInt32.size) :
    read s.datum = (pure s : Reading State) := by
  have hwalk : Source.whole UInt32.size "u32" (Datum.natural s.walkFrames) = pure s.walkFrames :=
    if_pos h
  have htarget : Target.read s.target.datum = pure s.target := by
    cases s.target <;> rfl
  have hhandshake : Handshake.read s.handshake.datum = pure s.handshake := by
    cases s.handshake <;> rfl
  show (record Datum).ofEntries [(.text "walk_frames", .natural s.walkFrames),
    (.text "target", s.target.datum), (.text "handshake", s.handshake.datum)] none = _
  unfold Record.ofEntries
  rw [Record.fill_of Record.names_text rfl (by simp) hwalk,
    Record.fill_of Record.names_text rfl (by simp) htarget,
    Record.fill_of Record.names_text rfl (by simp) hhandshake, Record.fill]
  rfl

theorem Status.read_nodeOf (hroom : 1 < room) {s : Status} (h : s.state.walkFrames < UInt32.size) :
    read (⟨room, nodeOf s.datum⟩ : Cursor) = pure s := by
  have hphase : Phase.read (⟨room - 1, nodeOf s.phase.datum⟩ : Cursor) = pure s.phase := by
    refine (Cursor.choice_nodeOf _ _ _).trans ?_
    cases s.phase <;> rfl
  have hstate : State.read (Datum.table [(.text "walk_frames", .natural s.state.walkFrames),
      (.text "target", .text s.state.target.name), (.text "handshake", .text s.state.handshake.name)]) =
        (pure s.state : Reading State) := State.read_datum h
  have hwide : s.state.walkFrames < UInt64.size := Nat.lt_trans h (by decide)
  refine (Cursor.record_nodeOf hroom _ _ _).trans ?_
  simp [readParts, readEntries, State.entries, Cursor.label_nodeOf, hphase, Source.buffer, Cursor.datum_text,
    Cursor.datum_natural _ hwide, Target.datum, Handshake.datum, isStateEntry, settle, closing, hstate]

/-! ## Entries -/

namespace Entry

variable {σ τ : Type}

/-- The fields of an entry. -/
def record (τ : Type) [Source τ] [Inhabited σ] (status : τ → Reading σ) : Record τ (Entry σ) where
  title := "an entry of a log"
  fields := [
    .of "frame" true (Source.whole UInt64.size "u64") fun frame e => { e with frame },
    .of "motion_active" true Action.read fun active e => { e with active },
    .of "request" true Request.read fun request e => { e with request },
    .of "status" true status fun status e => { e with status }]
  start := ⟨0, default, default, default⟩
  lenient := false

/-- Reads an entry, given how its status is read. -/
def read [Source τ] [Inhabited σ] (status : τ → Reading σ) (s : τ) : Reading (Entry σ) :=
  (record τ status).read s

theorem read_nodeOf [Inhabited σ] {e : Entry σ} {status : σ → Datum} {readStatus : Cursor → Reading σ}
    (hroom : 3 < room) (hframe : e.frame < UInt64.size)
    (hturn : Json.read Source.single (Json.text (.single e.request.body.turn)) = .ok e.request.body.turn)
    (hstatus : readStatus ⟨room - 1, nodeOf (status e.status)⟩ = pure e.status) :
    read readStatus (⟨room, nodeOf (e.datum status)⟩ : Cursor) = pure e := by
  have hwhole : Source.whole UInt64.size "u64" (⟨room - 1, nodeOf (.natural e.frame)⟩ : Cursor) =
      pure e.frame := Cursor.whole_nodeOf _ hframe (Nat.le_refl _) _
  have hactive : Action.read (⟨room - 1, nodeOf e.active.datum⟩ : Cursor) = pure e.active := by
    refine (Cursor.choice_nodeOf _ _ _).trans ?_
    cases e.active <;> rfl
  have hrequest := Request.read_nodeOf (show 2 < room - 1 by omega) hturn
  refine (Cursor.read_nodeOf (by omega) _ _).trans ?_
  simp only [Record.ofEntries, List.map_cons, List.map_nil]
  rw [Record.fill_of Cursor.names_nodeOf rfl (by simp) hwhole,
    Record.fill_of Cursor.names_nodeOf rfl (by simp) hactive,
    Record.fill_of Cursor.names_nodeOf rfl (by simp) hrequest,
    Record.fill_of Cursor.names_nodeOf rfl (by simp) hstatus, Record.fill]
  rfl

end Entry

/-! ## Nulls -/

namespace Json

mutual

/-- A value without a null in it. -/
def Node.NullFree : Node → Prop
  | .null => False
  | .array items => items.NullFree
  | .object members => members.NullFree
  | _ => True

/-- Items without a null in them. -/
def Items.NullFree : Items → Prop
  | .close _ => True
  | .item value rest => value.NullFree ∧ rest.NullFree

/-- Members without a null in them. -/
def Members.NullFree : Members → Prop
  | .close _ => True
  | .member _ value rest => value.NullFree ∧ rest.NullFree

end

theorem nullFree_record (fields : List (String × Datum)) :
    (nodeOf (.record fields)).NullFree ↔ ∀ f ∈ fields, (nodeOf f.2).NullFree := by
  show (membersOf _).NullFree ↔ _
  induction fields with
  | nil => exact iff_of_true trivial (List.forall_mem_nil _)
  | cons f fields ih =>
    rw [List.forall_mem_cons, ← ih]
    exact Iff.rfl

end Json

/-! ## Logs of the task -/

/-- What is so in every entry of the task: the turn is a number, there is a light, and the warm-up is counted
within 32 bits. -/
structure Entry.Full (e : Entry Status) : Prop where
  turn : e.request.body.turn.isFinite = true
  indicator : ∃ i, e.request.indicator = some i
  counted : e.status.state.walkFrames < UInt32.size

namespace Entry.Full

variable {e : Entry Status}

theorem of_tick {r : Runner Task} (h : r.Sound) (b : Board) : (r.tick b).entry.Full where
  turn := by
    have hturn : (r.tick b).entry.request.body.turn = (r.context b).sighting.turn :=
      Task.decide_turn r.task (r.context b)
    rw [hturn]
    exact Sighting.turn_isFinite _
  indicator := ⟨_, rfl⟩
  counted := Nat.lt_of_le_of_lt (h.tick b).task.counted (UInt32.toNat_lt_size _)

theorem exists_datum_eq (h : e.Full) : ∃ lamp colour : String, e.datum Status.datum =
    .record [("frame", .natural e.frame), ("motion_active", .text e.active.name),
      ("request", .record [
        ("body", .record [("action", .text e.request.body.kind), ("turn", .single e.request.body.turn)]),
        ("doing_ball_line_up", .flag e.request.hint),
        ("led", .record [("target", .text lamp), ("colour", .text colour)])]),
      ("status", .record [("phase", .text e.status.phase.name),
        ("walk_frames", .natural e.status.state.walkFrames),
        ("target", .text e.status.state.target.name),
        ("handshake", .text e.status.state.handshake.name)])] := by
  obtain ⟨i, hi⟩ := h.indicator
  refine ⟨i.lamp.name, i.colour.name, ?_⟩
  rw [Entry.datum, Request.datum, hi]
  rfl

theorem named (h : e.Full) : Json.Named (e.datum Status.datum) := by
  obtain ⟨lamp, colour, hdatum⟩ := h.exists_datum_eq
  simp [hdatum, Json.named_record, Json.Named]

theorem nullFree (h : e.Full) : (nodeOf (e.datum Status.datum)).NullFree := by
  obtain ⟨lamp, colour, hdatum⟩ := h.exists_datum_eq
  simp [hdatum, Json.nullFree_record, nodeOf, Json.Node.NullFree, h.turn]

end Entry.Full

/-- The lines of a log. For every status, whatever its strings hold, the text of a log taken apart at the
line ends gives the JSON text of each entry, in order, and an empty rest. In a log of the task, ticked against
any boards, line `i` is that of frame `i` and has no null in it; and if the frame fits into 64 bits and the
turn, which is finite, is read back from its spelling alone, a reader of the line gets back the entry: its
frame, what motion reported, its request and its status. -/
theorem log_lines_lossless :
    (∀ {σ : Type} (status : σ → Datum) (l : Log σ), (l.text status).toList.splitOn '\n' =
      l.entries.map (fun e => Json.write (e.datum status)) ++ [[]]) ∧
    ∀ (t : Task) (boards : List Board),
      let log := (Runner.activate t).log boards
      let lines := (log.text Status.datum).toList.splitOn '\n'
      ∀ i e, log.entries[i]? = some e → ∃ line, lines[i]? = some line ∧ e.frame = i ∧
        (Json.Document.ofText (String.ofList line)).root.NullFree ∧
        (i < UInt64.size → (e.request.body.turn.isFinite = true →
            Json.read Source.single (Json.text (.single e.request.body.turn)) =
              .ok e.request.body.turn) →
          Json.read (Entry.read Status.read) (String.ofList line) = .ok e) := by
  refine ⟨fun status l => l.lines_text status, fun t boards => ?_⟩
  intro log lines i e he
  obtain ⟨b, hb, rfl⟩ := Option.map_eq_some_iff.1 ((Runner.log_getElem? _ _ _).symm.trans he)
  have hfull := Entry.Full.of_tick (Runner.sound_after t (boards.take i)) b
  have hframe : ((Runner.activate t).after (boards.take i)).frame = i := by
    rw [Runner.frame_after, List.length_take_of_le (List.getElem?_eq_some_iff.1 hb).1.le]
    exact Nat.zero_add i
  refine ⟨_, Log.line_getElem? Status.datum he, hframe, ?_, fun hi hback => ?_⟩
  · show (Json.Document.ofText (Json.text _)).root.NullFree
    rw [Json.ofText_text hfull.named]
    exact hfull.nullFree
  · have hstatus := Status.read_nodeOf (show 1 < Json.depthLimit - 1 by decide) hfull.counted
    have hread := Entry.read_nodeOf (by decide) (hframe.trans_lt hi) (hback hfull.turn) hstatus
    show Json.read (Entry.read Status.read) (Json.text _) = _
    rw [Json.read_text _ hfull.named, hread]
    rfl

/-- Where the heading to the ball is no number, or beyond all numbers, the turn that is written is zero, and
every line of such a log is read back. -/
theorem log_lines_of_strange_headings :
    let boards : List Board := [.nan, .infinite true, 0.5].map fun heading =>
      { Board.empty with sighting := ⟨none, some heading⟩ }
    let log := (Runner.activate (Task.mk .quick .initial .warmup none)).log boards
    log.bodies = [.walk 0, .walk 0, .walk 0.5] ∧
      ∀ (i : Nat) (e : Entry Status), log.entries[i]? = some e → ∃ line,
        ((log.text Status.datum).toList.splitOn '\n')[i]? = some line ∧
          Json.read (Entry.read Status.read) (String.ofList line) = .ok e := by
  intro boards log
  have hbodies : log.bodies = [.walk 0, .walk 0, .walk 0.5] := by decide +kernel
  refine ⟨hbodies, fun i e he => ?_⟩
  obtain ⟨line, hline, -, -, hread⟩ := log_lines_lossless.2 _ boards i e he
  refine ⟨line, hline, hread ?_ fun _ => ?_⟩
  · have hsize : i < log.bodies.length := by
      rw [Log.bodies, List.length_map]
      exact (List.getElem?_eq_some_iff.1 he).1
    rw [hbodies] at hsize
    exact Nat.lt_trans hsize (by decide)
  · have hbody : e.request.body ∈ [Command.walk 0, .walk 0, .walk 0.5] := by
      rw [← hbodies]
      exact List.mem_map_of_mem (List.mem_of_getElem? he)
    simp only [List.mem_cons, List.not_mem_nil, or_false] at hbody
    rcases hbody with hb | hb | hb <;> rw [hb] <;> decide +kernel

end Striker
