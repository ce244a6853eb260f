/-
Summaries against what they count. A runner keeps its summary tick by tick and remembers the action it asked
for last; a log counts its entries afterwards, the one before each of them at hand. Both come to the same
totals, which can be read off the requests: how many there are, how many of each kind, with a hint, and how
often a walk comes right after a ball action. So the totals of two logs, one behind the other, are the sums
of theirs, and one more attempt is completed where the second takes up with a walk after a ball action.
-/
import Striker.Proofs.Runner.Events
import Striker.Proofs.Simulation.Frames

namespace Striker

/-! ## Totals -/

namespace Summary

/-- The counts of two summaries together. -/
instance : Add Summary where
  add s t :=
    { ticks := s.ticks + t.ticks
      walks := s.walks + t.walks
      kicks := s.kicks + t.kicks
      dribbles := s.dribbles + t.dribbles
      kicksCompleted := s.kicksCompleted + t.kicksCompleted
      dribblesCompleted := s.dribblesCompleted + t.dribblesCompleted
      hints := s.hints + t.hints }

theorem add_def (s t : Summary) : s + t = ⟨s.ticks + t.ticks, s.walks + t.walks, s.kicks + t.kicks,
    s.dribbles + t.dribbles, s.kicksCompleted + t.kicksCompleted,
    s.dribblesCompleted + t.dribblesCompleted, s.hints + t.hints⟩ := rfl

theorem add_assoc (s t u : Summary) : s + t + u = s + (t + u) := by
  simp only [add_def, Nat.add_assoc]

theorem add_right_comm (s t u : Summary) : s + t + u = s + u + t := by
  simp only [add_def, Nat.add_right_comm]

@[simp] theorem add_empty (s : Summary) : s + empty = s := rfl

@[simp] theorem empty_add (s : Summary) : empty + s = s := by
  simp only [add_def, empty, Nat.zero_add]

/-- The totals of requests in a row. -/
def ofRequests (requests : List Request) : Summary :=
  let actions := requests.map (·.body.action)
  { ticks := requests.length
    walks := actions.count .walk
    kicks := actions.count .kick
    dribbles := actions.count .dribble
    kicksCompleted := (actions.zip actions.tail).count (.kick, .walk)
    dribblesCompleted := (actions.zip actions.tail).count (.dribble, .walk)
    hints := requests.countP (·.hint) }

/-- What a first action completes after a last one. -/
def seam (last first : Option Action) : Summary :=
  { empty with
    kicksCompleted := count (last = some .kick && first = some .walk)
    dribblesCompleted := count (last = some .dribble && first = some .walk) }

@[simp] theorem seam_none_left (first : Option Action) : seam none first = empty := rfl

@[simp] theorem seam_none_right (last : Option Action) : seam last none = empty := by
  simp [seam, empty, count]

theorem count_cons (a b : Action) (actions : List Action) :
    (a :: actions).count b = count (a = b) + actions.count b := by
  rw [List.count_cons, Nat.add_comm]
  by_cases h : a = b <;> simp [h, count]

theorem count_pairs_cons (a b : Action) (actions : List Action) :
    ((a :: actions).zip actions).count (b, .walk) =
      count (some a = some b && actions.head? = some .walk) +
        (actions.zip actions.tail).count (b, .walk) := by
  cases actions with
  | nil => simp [count]
  | cons c rest =>
    rw [List.zip_cons_cons, List.count_cons, Nat.add_comm, List.head?_cons, List.tail_cons]
    congr 1
    by_cases h : a = b <;> by_cases hc : c = .walk <;> simp [h, hc, count]

/-- One more request in front. -/
theorem ofRequests_cons (r : Request) (requests : List Request) : ofRequests (r :: requests) =
    record empty none r + seam (some r.body.action) (requests.map (·.body.action)).head? +
      ofRequests requests := by
  have hhint : (r :: requests).countP (·.hint) = count r.hint + requests.countP (·.hint) := by
    rw [List.countP_cons, Nat.add_comm]; rfl
  simp only [ofRequests, List.map_cons, List.tail_cons, count_cons, count_pairs_cons, hhint,
    List.length_cons, record, seam, empty, add_def]
  simp [count, Nat.add_comm]

theorem record_eq (s : Summary) (previous : Option Action) (r : Request) :
    s.record previous r = s + seam previous (some r.body.action) + record empty none r := by
  simp [record, seam, empty, add_def, count, and_comm]

end Summary

/-! ## Logs -/

namespace Log

variable {σ : Type}

/-- The requests of a log, in order. -/
def requests (l : Log σ) : List Request := l.entries.map Entry.request

/-- The last action that a log asks for. -/
def lastAction (l : Log σ) : Option Action := l.bodies.getLast?.map Command.action

/-- The first action that a log asks for. -/
def firstAction (l : Log σ) : Option Action := l.bodies.head?.map Command.action

/-- One log behind another. -/
def append (l k : Log σ) : Log σ := ⟨l.entries ++ k.entries⟩

theorem summarize_eq (entries : List (Entry σ)) (previous : Option Action) (s : Summary) :
    summarize entries previous s =
      s + .seam previous (Log.mk entries).firstAction + .ofRequests (Log.mk entries).requests := by
  -- the first entry completes what is before it, and is what the next one is compared with
  induction entries generalizing previous s with
  | nil =>
    show s = s + .seam previous none + .empty
    rw [Summary.seam_none_right, Summary.add_empty, Summary.add_empty]
  | cons e rest ih =>
    have hfirst : (Log.mk rest).firstAction =
        ((Log.mk rest).requests.map (·.body.action)).head? := by
      cases rest <;> rfl
    rw [summarize, ih, hfirst, Summary.record_eq]
    show _ = s + .seam previous (some e.request.body.action) +
      .ofRequests (e.request :: (Log.mk rest).requests)
    rw [Summary.ofRequests_cons]
    simp only [Summary.add_assoc]

/-- The summary of a log counts its requests. -/
theorem summary_eq (l : Log σ) : l.summary = .ofRequests l.requests := by
  rw [summary, summarize_eq, Summary.seam_none_left, Summary.add_empty, Summary.empty_add]

theorem summarize_append (entries more : List (Entry σ)) (previous : Option Action) (s : Summary) :
    summarize (entries ++ more) previous s =
      summarize more ((Log.mk entries).lastAction.or previous) (summarize entries previous s) := by
  induction entries generalizing previous s with
  | nil => rfl
  | cons e rest ih =>
    rw [List.cons_append, summarize, ih, summarize]
    congr 1
    cases rest <;> rfl

theorem summary_append (l k : Log σ) : (l.append k).summary =
    l.summary + k.summary + .seam l.lastAction k.firstAction := by
  rw [summary, append, summarize_append, summarize_eq, Option.or_none, ← summary_eq ⟨k.entries⟩,
    Summary.add_right_comm]
  rfl

end Log

/-! ## Activations -/

namespace Runner

section

variable {τ σ : Type} [Behaviour τ σ]

/-- The log of ticks against these boards. -/
def log (r : Runner τ) (boards : List Board) : Log σ :=
  (r.ticks boards).foldl (fun l x => l.push x.entry) .empty

theorem log_entries (r : Runner τ) (boards : List Board) :
    (r.log boards).entries = (r.ticks boards).map Ran.entry := by
  have hpush : ∀ (ran : List (Ran τ σ)) (l : Log σ),
      (ran.foldl (fun l x => l.push x.entry) l).entries = l.entries ++ ran.map Ran.entry := by
    intro ran
    induction ran with
    | nil => simp
    | cons x ran ih =>
      intro l
      rw [List.foldl_cons, ih]
      simp [Log.push]
  exact hpush _ _

theorem log_getElem? (r : Runner τ) (boards : List Board) (i : Nat) :
    (r.log boards).entries[i]? =
      boards[i]?.map fun b => ((r.after (boards.take i)).tick b).entry := by
  rw [log_entries, List.getElem?_map, ticks_getElem?, Option.map_map]
  rfl

/-- Counting the entries of ticks afterwards gives what the runner has counted in them. -/
theorem summarize_ticks (r : Runner τ) (boards : List Board) :
    Log.summarize ((r.ticks boards).map Ran.entry) r.last r.summary = (r.after boards).summary := by
  induction boards generalizing r with
  | nil => rfl
  | cons b boards ih => exact ih (r.tick b).runner

theorem frames_ticks (r : Runner τ) (boards : List Board) :
    (r.ticks boards).map (fun x => x.entry.frame) = List.range' r.frame boards.length := by
  induction boards generalizing r with
  | nil => rfl
  | cons b boards ih => exact congrArg (r.frame :: ·) (ih (r.tick b).runner)

end

end Runner

/-- For every kind of task, every task of it and every series of boards that its activation is ticked
against, the summary that the runner keeps is the one of the log of its entries, whose frames are counted
from zero. No count is higher than the number of ticks, and deactivation tells that number and the completed
kicks and dribbles. The summary of any log is the totals of its requests. For two logs, one behind the
other, it is the sum of theirs, and one attempt more where the first ends with a ball action and the second
begins with a walk. And what a simulation returns as its summary is that of its log. -/
theorem summaries_agree :
    (∀ {τ σ : Type} [Behaviour τ σ] (t : τ) (boards : List Board),
      let r := (Runner.activate t).after boards
      let log := (Runner.activate t).log boards
      r.summary = log.summary ∧
      log.entries.map Entry.frame = List.range boards.length ∧
      (∀ k ∈ r.summary.counts, k ≤ boards.length) ∧
      r.deactivation = .deactivated (Behaviour.name r.task) boards.length
        log.summary.kicksCompleted log.summary.dribblesCompleted) ∧
    (∀ {σ : Type} (l k : Log σ), l.summary = .ofRequests l.requests ∧
      (l.append k).summary = l.summary + k.summary + .seam l.lastAction k.firstAction) ∧
    ∀ (settings : Settings) (scenario : Scenario) (sim : Simulation),
      Simulation.ofScenario settings scenario = .ok sim → sim.run.summary = sim.run.log.summary := by
  refine ⟨fun t boards => ?_, fun l k => ⟨l.summary_eq, l.summary_append k⟩, fun _ _ _ h =>
    (Simulation.log_summary h).symm⟩
  intro r log
  have hsummary : r.summary = log.summary := by
    rw [Log.summary, Runner.log_entries]
    exact (Runner.summarize_ticks _ boards).symm
  have hframe : r.frame = boards.length := by
    rw [Runner.frame_after]
    exact Nat.zero_add _
  refine ⟨hsummary, ?_, ?_, ?_⟩
  · rw [Runner.log_entries, List.map_map, List.range_eq_range']
    exact Runner.frames_ticks _ boards
  · exact Runner.counts_after t boards
  · rw [← hsummary, ← hframe]
    rfl

/-- The standard scenario with the quick settings is simulated, and its summary is that of its log. -/
theorem summaries_agree_in_standard_scenario : ∃ sim, Simulation.ofScenario .quick .standard = .ok sim ∧
    sim.run.summary = sim.run.log.summary := by
  have h : Simulation.ofScenario .quick .standard = .ok _ :=
    Simulation.ofScenario_eq_ok.2 ⟨by decide +kernel, by decide +kernel, rfl⟩
  exact ⟨_, h, summaries_agree.2.2 _ _ _ h⟩

end Striker
