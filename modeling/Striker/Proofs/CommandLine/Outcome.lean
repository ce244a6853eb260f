/-
How a call to run a simulation ends. It goes through four stages: the settings are loaded and
overridden, the banner is printed, the scenario is set up and run, and the log is written. Each stage can
end the call, and what has come out and been written by then tells which of them did. Settings in effect
are valid, so only the chance of losing the ball is left to be refused after the banner.
-/
import Striker.Proofs.CommandLine.Console
import Striker.Proofs.Files.Written
import Striker.Proofs.Settings.Overrides
import Striker.Proofs.Simulation.Frames
import Striker.Proofs.Trace.Lines

namespace Striker

/-! ## Words -/

namespace Call

/-- No option moves the ball at the start. -/
theorem setRun?_distance {o o' : RunOptions} {option : String × Bytes}
    (h : setRun? o option = some o') : o'.scenario.distance = o.scenario.distance := by
  unfold setRun? at h
  split at h
  all_goals first
    | cases h
    | obtain ⟨x, -, hx⟩ := Option.bind_eq_some_iff.1 h
      cases hx
      rfl

theorem foldlM_setRun?_distance {options : List (String × Bytes)} {o o' : RunOptions}
    (h : options.foldlM setRun? o = some o') : o'.scenario.distance = o.scenario.distance := by
  induction options generalizing o with
  | nil =>
    cases h
    rfl
  | cons option options ih =>
    rw [List.foldlM_cons] at h
    obtain ⟨next, hnext, hrest⟩ := Option.bind_eq_some_iff.1 h
    rw [ih hrest, setRun?_distance hnext]

/-- The ball of a run that words ask for starts at the standard distance. -/
theorem ofWords?_distance {words : List Bytes} {o : RunOptions} (h : ofWords? words = some (.run o)) :
    o.scenario.distance = Scenario.standard.distance := by
  unfold ofWords? at h
  split at h
  · cases h
  · split at h
    · obtain ⟨options, -, h⟩ := Option.bind_eq_some_iff.1 h
      obtain ⟨o', ho', h⟩ := Option.bind_eq_some_iff.1 h
      cases h
      exact foldlM_setRun?_distance ho'
    · split at h
      · obtain ⟨options, -, h⟩ := Option.bind_eq_some_iff.1 h
        obtain ⟨path, -, h⟩ := Option.bind_eq_some_iff.1 h
        cases h
      · cases h

end Call

/-! ## Settings -/

namespace Settings

/-- Overriding succeeds only with valid settings. -/
theorem check_of_override {lookup : String → Option String} {s : Settings}
    (h : (s.override lookup).outcome = .ok ()) : (s.override lookup).settings.check = .ok () := by
  unfold override at h ⊢
  split at h
  · cases h
  · split at h
    · cases h
    · exact h

/-- Loading from files changes nothing. -/
theorem load_run (path : Path) (files : Files) :
    (load path : StateM Files (Except Failure Loaded)).run files =
      pure ((files.read path).mapError .file >>= ofFile path, files) := by
  unfold load
  rw [StateT.run_bind, Files.run_read, pure_bind]
  cases files.read path <;> rfl

/-- A file holds settings if it is text in the format that its extension names, and is read as valid
settings. Loading says which file it was, and two of its settings. -/
theorem ofFile_eq_ok {path : Path} {content : Bytes} {loaded : Loaded} :
    ofFile path content = .ok loaded ↔ ∃ text format, Text.decode? content = some text ∧
      path.extension?.bind TextFormat.ofExtension? = some format ∧
      parse format text = .ok loaded.settings ∧ loaded.settings.check = .ok () ∧
      loaded.event = .settingsLoaded path.text loaded.settings.walkFrames loaded.settings.threshold := by
  obtain ⟨s, event⟩ := loaded
  unfold ofFile
  cases Text.decode? content with
  | none => simp [throw, throwThe, MonadExceptOf.throw]
  | some text =>
    cases path.extension?.bind TextFormat.ofExtension? with
    | none => simp [throw, throwThe, MonadExceptOf.throw]
    | some format =>
      cases hparse : parse format text with
      | error f => simp [hparse, bind, Except.bind]
      | ok t =>
        cases hcheck : t.check with
        | error e =>
          simp only [hparse, hcheck, bind, Except.bind, Except.mapError, Option.some.injEq,
            exists_and_left, exists_eq_left', Except.ok.injEq, reduceCtorEq, false_iff]
          rintro ⟨rfl, hvalid, -⟩
          cases hcheck.symm.trans hvalid
        | ok u =>
          simp only [hparse, hcheck, bind, Except.bind, Except.mapError, pure, Except.pure,
            Option.some.injEq, exists_and_left, exists_eq_left', Except.ok.injEq, Loaded.mk.injEq]
          constructor
          · rintro ⟨rfl, rfl⟩
            exact ⟨rfl, hcheck, rfl⟩
          · rintro ⟨rfl, -, rfl⟩
            exact ⟨rfl, rfl⟩

end Settings

namespace Program

variable {lookup : String → Option String} {files : Files} {config : Option Path} {s t : Settings}

/-- The settings that a run starts from: the standard ones, or those of a file. -/
def Loads (files : Files) (config : Option Path) (t : Settings) : Prop :=
  match config with
  | none => t = .standard
  | some path => ∃ content loaded, files.read path = .ok content ∧
      Settings.ofFile path content = .ok loaded ∧ loaded.settings = t

/-- What is reported once settings are loaded: the file that they come from, and the overrides. -/
def preparation (lookup : String → Option String) (config : Option Path) (t : Settings) : List Event :=
  (config.map fun path => .settingsLoaded path.text t.walkFrames t.threshold).toList ++
    (t.override lookup).events

/-- Settings that are loaded become others, for which all overrides can be applied. -/
structure Arrives (lookup : String → Option String) (files : Files) (config : Option Path)
    (t s : Settings) : Prop where
  loads : Loads files config t
  outcome : (t.override lookup).outcome = .ok ()
  settings : (t.override lookup).settings = s

/-- The settings that the program arrives at, without changing a file. -/
def InEffect (lookup : String → Option String) (files : Files) (config : Option Path) (s : Settings) :
    Prop :=
  ∃ p : Prepared, (settings lookup config : StateM Files Prepared).run files = pure (p, files) ∧
    p.outcome = .ok s

theorem loads_some {path : Path} : Loads files (some path) t ↔ ∃ loaded,
    ((files.read path).mapError .file >>= Settings.ofFile path) = .ok loaded ∧ loaded.settings = t := by
  cases hread : files.read path with
  | error e => simp [Loads, hread, Except.mapError, bind, Except.bind]
  | ok content => simp [Loads, hread, Except.mapError, bind, Except.bind]

/-- Either there are settings to start from, which is reported, or there are none. -/
theorem load_run (config : Option Path) (files : Files) :
    ∃ p : Prepared, (load config : StateM Files Prepared).run files = pure (p, files) ∧
      ((∃ t, (∀ t', Loads files config t' ↔ t' = t) ∧ p = ⟨.ok t, (config.map fun path =>
          .settingsLoaded path.text t.walkFrames t.threshold).toList⟩) ∨
        ∃ c, (∀ t, ¬ Loads files config t) ∧ p = ⟨.error c, []⟩) := by
  cases config with
  | none => exact ⟨_, rfl, .inl ⟨.standard, fun _ => .rfl, rfl⟩⟩
  | some path =>
    have hload := Settings.load_run path files
    unfold load
    rw [StateT.run_bind, hload, pure_bind]
    cases h : (files.read path).mapError .file >>= Settings.ofFile path with
    | error f =>
      refine ⟨_, rfl, .inr ⟨_, fun t ht => ?_, rfl⟩⟩
      obtain ⟨loaded, hloaded, -⟩ := loads_some.1 ht
      rw [h] at hloaded
      cases hloaded
    | ok loaded =>
      refine ⟨_, rfl, .inl ⟨loaded.settings, fun t => ?_, ?_⟩⟩
      · rw [loads_some, h]
        simp [eq_comm]
      · cases hread : files.read path with
        | error e =>
          rw [hread] at h
          cases h
        | ok content =>
          rw [hread] at h
          obtain ⟨_, _, -, -, -, -, hevent⟩ := Settings.ofFile_eq_ok.1 h
          rw [hevent]
          rfl

/-- Looking for settings changes no file. It reports all that is known of loaded settings, whether they
can be overridden or not. -/
theorem settings_run (lookup : String → Option String) (config : Option Path) (files : Files) :
    ∃ p : Prepared, (settings lookup config : StateM Files Prepared).run files = pure (p, files) ∧
      ((∃ t, (∀ t', Loads files config t' ↔ t' = t) ∧ p.events = preparation lookup config t ∧
          ∀ s, p.outcome = .ok s ↔ (t.override lookup).outcome = .ok () ∧
            (t.override lookup).settings = s) ∨
        ∃ c, (∀ t, ¬ Loads files config t) ∧ p = ⟨.error c, []⟩) := by
  obtain ⟨p, hload, hp⟩ := load_run config files
  refine ⟨p.override lookup, ?_, ?_⟩
  · unfold settings
    rw [StateT.run_bind, hload]
    rfl
  rcases hp with ⟨t, ht, rfl⟩ | ⟨c, hnone, rfl⟩
  · refine .inl ⟨t, ht, rfl, fun s => ?_⟩
    cases h : (t.override lookup).outcome <;> simp [Prepared.override, Except.map, Except.mapError, h]
  · exact .inr ⟨c, hnone, rfl⟩

theorem inEffect_iff_outcome {p : Prepared}
    (hrun : (settings lookup config : StateM Files Prepared).run files = pure (p, files)) :
    InEffect lookup files config s ↔ p.outcome = .ok s := by
  constructor
  · rintro ⟨q, hq, hs⟩
    cases congrArg Prod.fst (hrun.symm.trans hq)
    exact hs
  · exact fun hs => ⟨p, hrun, hs⟩

/-- Settings are in effect if the program arrives at them from some that it loads. -/
theorem inEffect_iff : InEffect lookup files config s ↔ ∃ t, Arrives lookup files config t s := by
  obtain ⟨p, hrun, hp⟩ := settings_run lookup config files
  rw [inEffect_iff_outcome hrun]
  rcases hp with ⟨t, ht, -, hs⟩ | ⟨c, hnone, rfl⟩
  · rw [hs]
    constructor
    · rintro ⟨houtcome, hsettings⟩
      exact ⟨t, (ht t).2 rfl, houtcome, hsettings⟩
    · rintro ⟨t', hloads, houtcome, hsettings⟩
      obtain rfl := (ht t').1 hloads
      exact ⟨houtcome, hsettings⟩
  · refine ⟨nofun, ?_⟩
    rintro ⟨t, ht⟩
    exact absurd ht.loads (hnone t)

theorem Arrives.inEffect (h : Arrives lookup files config t s) : InEffect lookup files config s :=
  inEffect_iff.2 ⟨t, h⟩

/-- Settings in effect are valid. -/
theorem InEffect.check (h : InEffect lookup files config s) : s.check = .ok () := by
  obtain ⟨t, ht⟩ := inEffect_iff.1 h
  exact ht.settings ▸ Settings.check_of_override ht.outcome

theorem InEffect.unique (hs : InEffect lookup files config s) (ht : InEffect lookup files config t) :
    s = t := by
  obtain ⟨p, hrun, hp⟩ := hs
  exact Except.ok.inj (hp.symm.trans ((inEffect_iff_outcome hrun).1 ht))

theorem exists_inEffect_iff : (∃ s, InEffect lookup files config s) ↔
    ∃ t, Loads files config t ∧ (t.override lookup).outcome = .ok () := by
  constructor
  · rintro ⟨s, hs⟩
    obtain ⟨t, ht⟩ := inEffect_iff.1 hs
    exact ⟨t, ht.loads, ht.outcome⟩
  · rintro ⟨t, ht, houtcome⟩
    exact ⟨_, Arrives.inEffect ⟨ht, houtcome, rfl⟩⟩

/-! ## Stages -/

/-- Whether a number is a chance. -/
def IsChance (p : Double) : Prop := Binary.atMost 0 p = true ∧ p.atMost 1 = true

/-- With settings in effect, and the ball at its standard place, nothing but the chance of losing the
ball can be refused. -/
theorem ofScenario_cases {s : Settings} {scenario : Scenario} (hs : s.check = .ok ())
    (hd : scenario.distance = Scenario.standard.distance) :
    (∃ sim, IsChance scenario.dropout ∧ Simulation.ofScenario s scenario = .ok sim) ∨
      (¬ IsChance scenario.dropout ∧
        Simulation.ofScenario s scenario = .error (.dropout scenario.dropout)) := by
  have hfinite : scenario.distance.isFinite = true := by
    rw [hd]
    decide +kernel
  by_cases hp : IsChance scenario.dropout
  · have hcheck : scenario.check = .ok () := by
      simp [Scenario.check, hp.1, hp.2, hfinite]
    exact .inl ⟨_, hp, Simulation.ofScenario_eq_ok.2 ⟨hcheck, hs, rfl⟩⟩
  · have hcheck : scenario.check = .error (.dropout scenario.dropout) := by
      unfold Scenario.check
      rw [if_pos]
      simpa [IsChance, Classical.or_iff_not_imp_left] using hp
    refine .inr ⟨hp, ?_⟩
    unfold Simulation.ofScenario
    rw [hcheck]
    rfl

/-- What is said of a log that was written. -/
def writtenLine (log : Log Status) (path : Path) : String :=
  "📝 Trace: " ++ path.text ++ " (" ++ toString log.size ++ " ticks)\n"

/-- What comes out once a log is written. -/
def ending (log : Log Status) (path : Path) : List Piece :=
  [.event (.traceWritten path.text log.size), .text (writtenLine log path)]

theorem writeTrace_run_ok {log : Log Status} {path : Path} {after : Files}
    (h : files.write path (Text.encode (log.text Status.datum)) = .ok after) :
    (writeTrace log path : StateM Files (Except Complaint (List Piece))).run files =
      pure (.ok (ending log path), after) := by
  unfold writeTrace
  rw [StateT.run_bind, Files.run_write_ok h, pure_bind]
  rfl

theorem writeTrace_run_error {log : Log Status} {path : Path} {e : FileError}
    (h : files.write path (Text.encode (log.text Status.datum)) = .error e) :
    (writeTrace log path : StateM Files (Except Complaint (List Piece))).run files =
      pure (.error ⟨"writing trace " ++ path.text, [e.message]⟩, files) := by
  unfold writeTrace
  rw [StateT.run_bind, Files.run_write_error h, pure_bind]
  rfl

/-- What comes out once settings are loaded. -/
def prelude (lookup : String → Option String) (config : Option Path) (t : Settings) : List Piece :=
  (preparation lookup config t).map .event

/-- The ways in which a run can end, with the report and the files after it. -/
inductive Ends (lookup : String → Option String) (files : Files) (o : RunOptions) :
    Report → Files → Prop
  /-- No settings can be loaded. -/
  | unloaded (c : Complaint) : (∀ t, ¬ Loads files o.config t) → Ends lookup files o (c.report []) files
  /-- The settings that are loaded cannot be overridden. -/
  | unset (t : Settings) (c : Complaint) : Loads files o.config t →
      (∀ s, ¬ InEffect lookup files o.config s) →
      Ends lookup files o (c.report (prelude lookup o.config t)) files
  /-- The chance of losing the ball is refused. -/
  | refused (t s : Settings) : Arrives lookup files o.config t s → ¬ IsChance o.scenario.dropout →
      Ends lookup files o
        (Complaint.report (prelude lookup o.config t ++ opening s o.scenario)
          ⟨(Failure.invalid (.dropout o.scenario.dropout)).message, []⟩) files
  /-- The simulation has run, and nothing is to be written. -/
  | shown (t s : Settings) (sim : Simulation) : Arrives lookup files o.config t s →
      IsChance o.scenario.dropout → Simulation.ofScenario s o.scenario = .ok sim → o.trace = none →
      Ends lookup files o
        ⟨0, prelude lookup o.config t ++ opening s o.scenario ++ course sim.run, ""⟩ files
  /-- The simulation has run, and its log is written. -/
  | written (t s : Settings) (sim : Simulation) (path : Path) (after : Files) :
      Arrives lookup files o.config t s → IsChance o.scenario.dropout →
      Simulation.ofScenario s o.scenario = .ok sim → o.trace = some path →
      files.write path (Text.encode (sim.run.log.text Status.datum)) = .ok after →
      Ends lookup files o
        ⟨0, prelude lookup o.config t ++ opening s o.scenario ++ course sim.run ++
          ending sim.run.log path, ""⟩ after
  /-- The simulation has run, and its log cannot be written. -/
  | unwritten (t s : Settings) (sim : Simulation) (path : Path) (e : FileError) :
      Arrives lookup files o.config t s → IsChance o.scenario.dropout →
      Simulation.ofScenario s o.scenario = .ok sim → o.trace = some path →
      files.write path (Text.encode (sim.run.log.text Status.datum)) = .error e →
      Ends lookup files o
        (Complaint.report (prelude lookup o.config t ++ opening s o.scenario ++ course sim.run)
          ⟨"writing trace " ++ path.text, [e.message]⟩) files

theorem simulate_ends (lookup : String → Option String) {o : RunOptions}
    (hd : o.scenario.distance = Scenario.standard.distance)
    (files : Files) : ∃ report after,
      (simulate lookup o : StateM Files Report).run files = pure (report, after) ∧
        Ends lookup files o report after := by
  obtain ⟨p, hsettings, hp⟩ := settings_run lookup o.config files
  unfold simulate
  rw [StateT.run_bind, hsettings, pure_bind]
  rcases hp with ⟨t, ht, hevents, houtcome⟩ | ⟨c, hnone, rfl⟩
  · have hloads : Loads files o.config t := (ht t).2 rfl
    cases hcase : p.outcome with
    | error c =>
      refine ⟨_, _, rfl, ?_⟩
      rw [hevents]
      refine .unset t c hloads fun s => ?_
      rw [inEffect_iff_outcome hsettings, hcase]
      exact nofun
    | ok s =>
      obtain ⟨hok, hs⟩ := (houtcome s).1 hcase
      have harrives : Arrives lookup files o.config t s := ⟨hloads, hok, hs⟩
      rcases ofScenario_cases harrives.inEffect.check hd with ⟨sim, hp, hsim⟩ | ⟨hp, herror⟩
      · cases htrace : o.trace with
        | none =>
          refine ⟨_, _, ?_, .shown t s sim harrives hp hsim htrace⟩
          simp only [hsim, hevents]
          rfl
        | some path =>
          cases hwrite : files.write path (Text.encode (sim.run.log.text Status.datum)) with
          | ok after =>
            refine ⟨_, _, ?_, .written t s sim path after harrives hp hsim htrace hwrite⟩
            have hrun := writeTrace_run_ok hwrite
            simp only [hsim, hevents]
            rw [StateT.run_bind, hrun, pure_bind]
            rfl
          | error e =>
            refine ⟨_, _, ?_, .unwritten t s sim path e harrives hp hsim htrace hwrite⟩
            have hrun := writeTrace_run_error hwrite
            simp only [hsim, hevents]
            rw [StateT.run_bind, hrun, pure_bind]
            rfl
      · refine ⟨_, _, ?_, .refused t s harrives hp⟩
        simp only [herror, hevents]
        rfl
  · exact ⟨_, _, rfl, .unloaded c hnone⟩

/-! ## Runs -/

variable {o : RunOptions} {report : Report} {after : Files}

theorem Ends.code_eq_zero (h : Ends lookup files o report after) : report.code = 0 ↔
    (∃ s, InEffect lookup files o.config s) ∧ IsChance o.scenario.dropout ∧
      ∀ path, o.trace = some path → files.Writable path := by
  cases h with
  | unloaded c hnone =>
    refine ⟨fun h => absurd h Nat.one_ne_zero, ?_⟩
    rintro ⟨⟨s, hs⟩, -⟩
    obtain ⟨t, ht⟩ := inEffect_iff.1 hs
    exact absurd ht.loads (hnone t)
  | unset t c ht hnone =>
    refine ⟨fun h => absurd h Nat.one_ne_zero, ?_⟩
    rintro ⟨⟨s, hs⟩, -⟩
    exact absurd hs (hnone s)
  | refused t s hs hp => exact ⟨fun h => absurd h Nat.one_ne_zero, fun h => absurd h.2.1 hp⟩
  | shown t s sim hs hp hsim htrace =>
    refine ⟨fun _ => ⟨⟨s, hs.inEffect⟩, hp, fun path hpath => ?_⟩, fun _ => rfl⟩
    rw [htrace] at hpath
    cases hpath
  | written t s sim path after hs hp hsim htrace hwrite =>
    refine ⟨fun _ => ⟨⟨s, hs.inEffect⟩, hp, fun other hother => ?_⟩, fun _ => rfl⟩
    rw [htrace] at hother
    cases hother
    exact Files.writable_of_write hwrite
  | unwritten t s sim path e hs hp hsim htrace hwrite =>
    refine ⟨fun h => absurd h Nat.one_ne_zero, ?_⟩
    rintro ⟨-, -, hwritable⟩
    obtain ⟨after, hafter⟩ := hwritable path htrace _
    rw [hwrite] at hafter
    cases hafter

/-- Nothing is written unless the run succeeds and is asked to write its log. -/
theorem Ends.files_eq (h : Ends lookup files o report after)
    (hn : report.code ≠ 0 ∨ o.trace = none) : after = files := by
  cases h with
  | written t s sim path after hs hp hsim htrace hwrite =>
    rcases hn with hcode | hnone
    · exact absurd rfl hcode
    · rw [hnone] at htrace
      cases htrace
  | _ => rfl

/-- Before settings are in effect nothing is printed, and at most their loading and overriding is
reported. -/
theorem Ends.pieces_of_unset (h : Ends lookup files o report after)
    (hn : ∀ s, ¬ InEffect lookup files o.config s) :
    (∀ t, ¬ Loads files o.config t) ∧ report.pieces = [] ∨
      ∃ t, Loads files o.config t ∧ report.pieces = prelude lookup o.config t := by
  cases h with
  | unloaded c hnone => exact .inl ⟨hnone, rfl⟩
  | unset t c ht => exact .inr ⟨t, ht, rfl⟩
  | refused t s hs => exact absurd hs.inEffect (hn s)
  | shown t s sim hs => exact absurd hs.inEffect (hn s)
  | written t s sim path after hs => exact absurd hs.inEffect (hn s)
  | unwritten t s sim path e hs => exact absurd hs.inEffect (hn s)

/-- Before a refused chance nothing but the banner is printed. -/
theorem Ends.pieces_of_refused (h : Ends lookup files o report after)
    (hs : InEffect lookup files o.config s) (hp : ¬ IsChance o.scenario.dropout) :
    ∃ t, Loads files o.config t ∧
      report.pieces = prelude lookup o.config t ++ opening s o.scenario := by
  cases h with
  | unloaded c hnone =>
    obtain ⟨t, ht⟩ := inEffect_iff.1 hs
    exact absurd ht.loads (hnone t)
  | unset t c ht hnone => exact absurd hs (hnone s)
  | refused t s' ht =>
    obtain rfl := hs.unique ht.inEffect
    exact ⟨t, ht.loads, rfl⟩
  | shown t s' sim ht hp' => exact absurd hp' hp
  | written t s' sim path after ht hp' => exact absurd hp' hp
  | unwritten t s' sim path e ht hp' => exact absurd hp' hp

/-- A run that succeeds and is asked to write its log has written it. -/
theorem Ends.of_code_eq_zero (h : Ends lookup files o report after) (hcode : report.code = 0)
    {path : Path} (hpath : o.trace = some path) : ∃ t s sim, Arrives lookup files o.config t s ∧
      Simulation.ofScenario s o.scenario = .ok sim ∧
      files.write path (Text.encode (sim.run.log.text Status.datum)) = .ok after ∧
      report.pieces = prelude lookup o.config t ++ opening s o.scenario ++ course sim.run ++
        ending sim.run.log path := by
  cases h with
  | unloaded => cases hcode
  | unset => cases hcode
  | refused => cases hcode
  | shown t s sim hs hp hsim htrace =>
    rw [htrace] at hpath
    cases hpath
  | written t s sim path after hs hp hsim htrace hwrite =>
    rw [htrace] at hpath
    cases hpath
    exact ⟨t, s, sim, hs, hsim, hwrite, rfl⟩
  | unwritten => cases hcode

/-! ## Standard output -/

@[simp] theorem printed_prelude : Piece.printed (prelude lookup config t) = "" :=
  Piece.printed_events _

/-- The line about the file that settings come from. -/
def loadedLine (console : Console) (config : Option Path) (t : Settings) : String :=
  (config.map fun path =>
    console.line 0 (.settingsLoaded path.text t.walkFrames t.threshold)).getD ""

/-- Where nothing is said about the log, no line but that one comes first. -/
theorem render_prelude {console : Console} (h : lookup Console.filterVariable = none)
    (rest : List Piece) :
    console.render (console.shows lookup) 0 (prelude lookup config t ++ rest) =
      loadedLine console config t ++
        console.render (console.shows lookup) config.toList.length rest := by
  -- Overrides are reported for debugging only.
  have hhidden : ∀ e ∈ (t.override lookup).events, console.shows lookup e = false := by
    intro e he
    simp [Console.shows_of_unset h, Settings.level_of_mem_events he]
  cases config with
  | none =>
    refine (Console.render_events_of_hidden hhidden rest).trans ?_
    simp [loadedLine]
  | some path =>
    have hshown : console.shows lookup (.settingsLoaded path.text t.walkFrames t.threshold) = true := by
      rw [Console.shows_of_unset h]
      rfl
    simp [prelude, preparation, Console.render, hshown, Console.render_events_of_hidden hhidden,
      loadedLine]

/-! ## Calls -/

/-- A run that words ask for ends with the code zero exactly if the settings are loaded and overridden,
the chance of losing the ball is one, and the log can be written where it is asked for. Settings that the
program arrives at are valid, and then nothing but that chance is refused. Without settings nothing is
printed, and with a refused chance nothing but the banner; what else comes out are lines of the log. By
default these are the line about the file that was loaded, and after the banner the one that the run
starts; with the log turned off there are none. Only a run that ends with zero changes a file, the one of
the log. Then that file holds one line for each frame, and the summary that is printed is that of the
log. -/
theorem run_outcome (console : Console) (lookup : String → Option String) {words : List Bytes}
    {o : RunOptions} (h : Call.ofWords? words = some (.run o)) (files : Files) :
    ∃ report after, (run lookup words : StateM Files Report).run files = pure (report, after) ∧
      (report.code = 0 ↔ (∃ t, Loads files o.config t ∧ (t.override lookup).outcome = .ok ()) ∧
        IsChance o.scenario.dropout ∧ ∀ path, o.trace = some path → files.Writable path) ∧
      (∀ config s, InEffect lookup files config s → s.check = .ok ()) ∧
      (∀ s e, InEffect lookup files o.config s →
        Simulation.ofScenario s o.scenario = .error e → e = .dropout o.scenario.dropout) ∧
      ((∀ s, ¬ InEffect lookup files o.config s) → report.output = "" ∧
        ((∀ t, ¬ Loads files o.config t) ∧ report.pieces = [] ∨
          ∃ t, Loads files o.config t ∧ report.pieces = prelude lookup o.config t ∧
            (lookup Console.filterVariable = none →
              report.stdout console lookup = loadedLine console o.config t))) ∧
      (∀ s, InEffect lookup files o.config s → ¬ IsChance o.scenario.dropout →
        report.output = banner s o.scenario ∧
        ∃ t, Loads files o.config t ∧ report.pieces = prelude lookup o.config t ++
            [.text (banner s o.scenario), .event (started s o.scenario)] ∧
          (lookup Console.filterVariable = none →
            report.stdout console lookup = loadedLine console o.config t ++ (banner s o.scenario ++
              console.line o.config.toList.length (started s o.scenario)))) ∧
      (lookup Console.filterVariable = some "off" → report.stdout console lookup = report.output) ∧
      (report.code ≠ 0 ∨ o.trace = none → after = files) ∧
      ∀ path, report.code = 0 → o.trace = some path → ∃ s sim, InEffect lookup files o.config s ∧
        o.scenario.distance = Scenario.standard.distance ∧
        Simulation.ofScenario s o.scenario = .ok sim ∧
        after.read path = .ok (Text.encode (sim.run.log.text Status.datum)) ∧
        (∃ w, after.item? w = some (.file (Text.encode (sim.run.log.text Status.datum))) ∧
          ∀ v, v ≠ w → after.item? v = files.item? v) ∧
        (sim.run.log.text Status.datum).toList.splitOn '\n' =
          sim.run.log.entries.map (fun e => Json.write (e.datum Status.datum)) ++ [[]] ∧
        sim.run.log.size = o.scenario.frames.toNat ∧
        ∃ t, Loads files o.config t ∧ report.pieces = prelude lookup o.config t ++
          [.text (banner s o.scenario), .event (started s o.scenario)] ++ sim.run.events.map .event ++
          [.event (finished sim.run), .text ("\n" ++ sim.run.log.summary.text ++
              "\nmotion performed:   " ++ toString sim.run.performed ++ "\n"),
            .event (.traceWritten path.text sim.run.log.size), .text (writtenLine sim.run.log path)] := by
  have hd := Call.ofWords?_distance h
  obtain ⟨report, after, hrun, hends⟩ := simulate_ends lookup hd files
  refine ⟨report, after, ?_, ?_, fun config s hs => hs.check, fun s e hs he => ?_, fun hn => ?_,
    fun s hs hp => ?_, fun hoff => report.stdout_of_off console hoff, hends.files_eq,
    fun path hcode htrace => ?_⟩
  · unfold run
    rw [h]
    exact hrun
  · rw [hends.code_eq_zero, exists_inEffect_iff]
  · rcases ofScenario_cases hs.check hd with ⟨sim, -, hsim⟩ | ⟨-, herror⟩
    · rw [hsim] at he
      cases he
    · rw [herror] at he
      cases he
      rfl
  · rcases hends.pieces_of_unset hn with ⟨hnone, hpieces⟩ | ⟨t, ht, hpieces⟩
    · refine ⟨?_, .inl ⟨hnone, hpieces⟩⟩
      rw [Report.output, hpieces]
      rfl
    · refine ⟨?_, .inr ⟨t, ht, hpieces, fun hunset => ?_⟩⟩
      · rw [Report.output, hpieces, printed_prelude]
      · rw [Report.stdout, hpieces, ← List.append_nil (prelude _ _ _), render_prelude hunset]
        simp [Console.render]
  · obtain ⟨t, ht, hpieces⟩ := hends.pieces_of_refused hs hp
    refine ⟨?_, t, ht, hpieces, fun hunset => ?_⟩
    · rw [Report.output, hpieces]
      simp [opening, Piece.printed]
    · rw [Report.stdout, hpieces, render_prelude hunset]
      simp [opening, Console.render, Console.shows_of_unset hunset, started, Event.level]
  · obtain ⟨t, s, sim, hs, hsim, hwrite, hpieces⟩ := hends.of_code_eq_zero hcode htrace
    have hframes := Simulation.frames_of_ofScenario hsim
    refine ⟨s, sim, hs.inEffect, hd, hsim, Files.read_write hwrite, Files.item?_write hwrite,
      Log.lines_text _ _, ?_, t, hs.loads, ?_⟩
    · rw [Log.size, Simulation.run_entries, List.length_map, List.length_range, hframes]
    · rw [hpieces, Simulation.log_summary hsim]
      simp [opening, course, ending, results]

/-- Three frames with the standard settings, and a log in an empty directory. -/
theorem run_outcome_of_three_frames :
    let quiet := fun name => if name = Console.filterVariable then some "off" else none
    ∃ report after, (run quiet (["run", "--frames", "3", "--trace", "log"].map Text.encode) :
        StateM Files Report).run ⟨[]⟩ = pure (report, after) ∧ report.code = 0 ∧
      report.stdout (.plain false) quiet = report.output ∧
      ∃ s sim, Simulation.ofScenario s { Scenario.standard with frames := 3 } = .ok sim ∧
        after.read (.ofText "log") = .ok (Text.encode (sim.run.log.text Status.datum)) ∧
        sim.run.log.size = 3 := by
  intro quiet
  have hwords : Call.ofWords? (["run", "--frames", "3", "--trace", "log"].map Text.encode) =
      some (.run ⟨none, { Scenario.standard with frames := 3 }, some (.ofText "log")⟩) := by
    decide +kernel
  obtain ⟨report, after, hrun, hcode, -, -, -, -, hoff, -, htrace⟩ :=
    run_outcome (.plain false) quiet hwords ⟨[]⟩
  have hsettings : (Settings.standard.override quiet).outcome = .ok () := by decide +kernel
  have hchance : IsChance Scenario.standard.dropout := by
    unfold IsChance
    decide +kernel
  have hzero : report.code = 0 := by
    refine hcode.2 ⟨⟨.standard, rfl, hsettings⟩, hchance, fun path hpath => ?_⟩
    cases hpath
    have hwrite : Files.write ⟨[]⟩ (.ofText "log") [] = .ok ⟨[([Text.encode "log"], .file [])]⟩ := rfl
    exact Files.writable_of_write hwrite
  obtain ⟨s, sim, -, -, hsim, hread, -, -, hsize, -⟩ := htrace _ hzero rfl
  exact ⟨report, after, hrun, hzero, hoff rfl, s, sim, hsim, hread, hsize⟩

/-- Where nothing is said about the log, a refused override and a refused chance leave lines of it on the
standard output: one instead of nothing, and one after the banner. -/
theorem log_lines_of_failures :
    let console := Console.dated "2025-03-01T12:00:00.000000Z"
    let sixty := fun name => if name = Settings.walkFramesVariable then some "sixty" else none
    let files : Files := ⟨[([Text.encode "c.yaml"], .file (Text.encode "walk_phase_frames: 45\n"))]⟩
    let failed := (run sixty (["run", "--config", "c.yaml"].map Text.encode) :
      StateM Files Report).run files
    let refused := (run (fun _ => none) (["run", "--dropout", "2"].map Text.encode) :
      StateM Files Report).run files
    (failed.1.code = 1 ∧ failed.1.stdout console sixty ≠ "" ∧
      failed.1.stdout console sixty = "2025-03-01T12:00:00.000000Z  INFO bh_core::config: " ++
        "behaviour config loaded path=c.yaml walk_phase_frames=45 near_field_threshold_mm=300.0\n") ∧
    refused.1.code = 1 ∧
      refused.1.stdout console (fun _ => none) ≠ banner .standard { Scenario.standard with dropout := 2 } ∧
      refused.1.stdout console (fun _ => none) =
        banner .standard { Scenario.standard with dropout := 2 } ++
          "2025-03-01T12:00:00.000000Z  INFO bh_sim: starting closed-loop run frames=600 seed=42 " ++
          "lineup_frames=10 action_frames=20 dropout=2.0 walk_phase_frames=60\n" := by
  intro console sixty files failed refused
  refine ⟨⟨?_, ?_, ?_⟩, ?_, ?_, ?_⟩ <;> decide +kernel

end Program

end Striker
