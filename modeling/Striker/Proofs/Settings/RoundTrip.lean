/-
Settings written and read back. Valid settings are written with four names and four words, and a reader of
either format puts each word into its field. Whole numbers and the names of lamps are read back as they
are; the threshold is, if its spelling alone is. So what is shown of the settings in effect can be saved
and loaded, and shows the same settings again, after whatever the log says of loading them.
-/
import Striker.Proofs.CommandLine.Outcome
import Striker.Proofs.Json.Reading
import Striker.Proofs.Yaml.Reading

namespace Striker

/-- Whether a number is read back from its spelling in a format. -/
def ReadsBack (x : Single) : TextFormat → Prop
  | .yaml => Yaml.read Source.single (Yaml.text (.single x)) = .ok x
  | .json => Json.read Source.single (Json.text (.single x)) = .ok x

/-- A number of YAML is read as one of 64 bits and then rounded, and rounding twice may go wrong. -/
theorem exists_not_readsBack : ∃ x : Single, x.isFinite = true ∧ ¬ ReadsBack x .yaml := by
  refine ⟨.signed false 0x15ae43fd, by decide, ?_⟩
  unfold ReadsBack
  decide +kernel

namespace Settings

/-- The text of settings in a format. -/
def text (s : Settings) : TextFormat → String
  | .yaml => Yaml.text s.datum
  | .json => Json.text s.datum

/-! ## Reading -/

variable {σ : Type} [Source σ]

/-- Settings are read from parts that are read as the names and values of their fields. -/
theorem ofEntries_fields (s : Settings) {k₁ k₂ k₃ k₄ v₁ v₂ v₃ v₄ : σ}
    (hk₁ : Record.Names k₁ "walk_phase_frames") (hk₂ : Record.Names k₂ "near_field_threshold_mm")
    (hk₃ : Record.Names k₃ "frame_rate_hz") (hk₄ : Record.Names k₄ "indicator")
    (hv₁ : Source.word32 v₁ = pure s.walkFrames) (hv₂ : Source.single v₂ = pure s.threshold)
    (hv₃ : Source.word32 v₃ = pure s.frameRate) (hv₄ : Lamp.read v₄ = pure s.lamp) :
    (record σ).ofEntries [(k₁, v₁), (k₂, v₂), (k₃, v₃), (k₄, v₄)] none = pure s := by
  unfold Record.ofEntries
  rw [Record.fill_cons hk₁ rfl (by simp) (Record.put_of hv₁),
    Record.fill_cons hk₂ rfl (by simp [Field.of]) (Record.put_of hv₂),
    Record.fill_cons hk₃ rfl (by simp [Field.of]) (Record.put_of hv₃),
    Record.fill_cons hk₄ rfl (by simp [Field.of]) (Record.put_of hv₄), Record.fill]
  rfl

/-! ## JSON -/

theorem read_json {s : Settings} (h : ReadsBack s.threshold .json) :
    read (⟨Json.depthLimit, Json.nodeOf s.datum⟩ : Json.Cursor) = pure s := by
  have hlamp : Lamp.read (⟨Json.depthLimit - 1, Json.nodeOf s.lamp.datum⟩ : Json.Cursor) =
      pure s.lamp := (Json.Cursor.choice_nodeOf _ _ _).trans s.lamp.variant_name
  refine (Json.Cursor.read_nodeOf (by decide) _ _).trans ?_
  exact ofEntries_fields s Json.Cursor.names_nodeOf Json.Cursor.names_nodeOf Json.Cursor.names_nodeOf
    Json.Cursor.names_nodeOf (Json.Cursor.word32_nodeOf _ _) (Json.Cursor.single_nodeOf _ h)
    (Json.Cursor.word32_nodeOf _ _) hlamp

/-- Settings are read back from their text in JSON. -/
theorem parse_json {s : Settings} (h : ReadsBack s.threshold .json) :
    parse .json (s.text .json) = .ok s := by
  have hnamed : Json.Named s.datum := by
    simp [datum, Datum.record, Json.Named, Json.EntriesNamed, Lamp.datum]
  unfold parse text
  dsimp only
  rw [Json.read_text read hnamed, read_json h]
  rfl

/-! ## YAML -/

/-- The names and words of settings. -/
def words (s : Settings) : List (String × String) :=
  [("walk_phase_frames", String.ofList (Nat.toDigits 10 s.walkFrames.toNat)),
    ("near_field_threshold_mm", Yaml.singleLayout.write s.threshold),
    ("frame_rate_hz", String.ofList (Nat.toDigits 10 s.frameRate.toNat)),
    ("indicator", s.lamp.name)]

theorem text_yaml (s : Settings) : s.text .yaml = String.ofList (s.words.flatMap Yaml.line) := by
  refine congrArg String.ofList ?_
  simp [Yaml.write, Yaml.scalar?, Yaml.lines, Yaml.entryLines, datum, Datum.record, words, Yaml.line,
    Lamp.datum]

theorem isWord_name (l : Lamp) : Yaml.IsWord l.name.toList := by
  cases l <;> simp only [Lamp.name, String.reduceToList] <;> decide

theorem isKey_names : ∀ key ∈ ["walk_phase_frames", "near_field_threshold_mm", "frame_rate_hz",
    "indicator"], Yaml.IsWord key.toList ∧ key.toList.length ≤ 1024 := by
  simp only [List.forall_mem_cons, String.reduceToList]
  decide

theorem isEntry_words {s : Settings} (h : s.threshold.isFinite = true) :
    ∀ e ∈ s.words, Yaml.IsEntry e := by
  have hwhole : ∀ n : Nat, Yaml.IsWord (String.ofList (Nat.toDigits 10 n)).toList := by
    intro n
    rw [String.toList_ofList]
    exact Yaml.isWord_toDigits n
  have hkeys := isKey_names
  simp only [words, List.forall_mem_cons] at hkeys ⊢
  obtain ⟨hwalk, hnear, hrate, hlamp, -⟩ := hkeys
  exact ⟨⟨hwalk.1, hwalk.2, hwhole _⟩, ⟨hnear.1, hnear.2, Yaml.isWord_write rfl h⟩,
    ⟨hrate.1, hrate.2, hwhole _⟩, ⟨hlamp.1, hlamp.2, isWord_name s.lamp⟩, List.forall_mem_nil _⟩

theorem read_yaml {s : Settings} (hfinite : s.threshold.isFinite = true)
    (h : ReadsBack s.threshold .yaml) : read (Yaml.Cursor.table s.words) = pure s := by
  have hthreshold : Yaml.IsWord (Yaml.singleLayout.write s.threshold).toList :=
    Yaml.isWord_write rfl hfinite
  obtain ⟨y, hdouble, hy⟩ := Yaml.exists_double_of_read hthreshold h
  show Source.record _ (record Yaml.Cursor).ofOpened (Yaml.Cursor.table s.words) = pure s
  rw [Yaml.Cursor.record_table]
  refine (congrArg (Reading.locate []) (ofEntries_fields s ?_ ?_ ?_ ?_ ?_ ?_ ?_ ?_)).trans
    (Reading.locate_pure [] s)
  · exact Yaml.Cursor.names_word
  · exact Yaml.Cursor.names_word
  · exact Yaml.Cursor.names_word
  · exact Yaml.Cursor.names_word
  · exact Yaml.Cursor.word32_word (Yaml.natural?_toDigits _)
  · exact (Yaml.Cursor.single_word hdouble).trans (congrArg pure hy)
  · exact Yaml.Cursor.word32_word (Yaml.natural?_toDigits _)
  · exact Yaml.Cursor.choice_word s.lamp.variant_name

/-- Settings are read back from their text in YAML. -/
theorem parse_yaml {s : Settings} (hfinite : s.threshold.isFinite = true)
    (h : ReadsBack s.threshold .yaml) : parse .yaml (s.text .yaml) = .ok s := by
  obtain ⟨hfirst, hrest⟩ := List.forall_mem_cons.1 (isEntry_words hfinite)
  obtain ⟨repetitions, hread⟩ := Yaml.read_lines read hfirst hrest
  have hlines : s.text .yaml = String.ofList ((_ :: _).flatMap Yaml.line) := text_yaml s
  unfold parse
  dsimp only
  rw [hlines, hread]
  show (Reading.outcome repetitions (read (Yaml.Cursor.table s.words))).mapError _ = _
  rw [read_yaml hfinite h]
  rfl

/-- Settings are read back from their text in either format. -/
theorem parse_text {s : Settings} (hs : s.check = .ok ()) {format : TextFormat}
    (h : ReadsBack s.threshold format) : parse format (s.text format) = .ok s := by
  obtain ⟨-, -, hfinite, -⟩ := check_eq_ok.1 hs
  cases format with
  | yaml => exact parse_yaml hfinite h
  | json => exact parse_json h

/-- A file that holds a text loads what the text is read as, if that is valid. -/
theorem ofFile_encode {path : Path} {format : TextFormat}
    (hformat : path.extension?.bind TextFormat.ofExtension? = some format) {text : String} {s : Settings} :
    (∃ loaded, ofFile path (Text.encode text) = .ok loaded ∧ loaded.settings = s) ↔
      parse format text = .ok s ∧ s.check = .ok () := by
  constructor
  · rintro ⟨loaded, hloaded, rfl⟩
    obtain ⟨text', format', htext, hformat', hread, hcheck, -⟩ := ofFile_eq_ok.1 hloaded
    rw [Text.decode?_encode] at htext
    cases htext
    cases hformat.symm.trans hformat'
    exact ⟨hread, hcheck⟩
  · rintro ⟨hread, hcheck⟩
    refine ⟨⟨s, .settingsLoaded path.text s.walkFrames s.threshold⟩, ofFile_eq_ok.2 ?_, rfl⟩
    exact ⟨text, format, Text.decode?_encode text, hformat, hread, hcheck, rfl⟩

end Settings

namespace Program

variable {lookup : String → Option String} {files : Files} {config : Option Path} {s t : Settings}

/-! ## Showing settings -/

/-- A call to show settings succeeds if there are settings in effect. It shows those, after what is
reported on the way to them. -/
theorem run_config {words : List Bytes} (h : Call.ofWords? words = some (.config config))
    (lookup : String → Option String) (files : Files) : ∃ report,
      (run lookup words : StateM Files Report).run files = pure (report, files) ∧
      (report.code = 0 ↔ ∃ s, InEffect lookup files config s) ∧
      ∀ t s, Arrives lookup files config t s →
        report = ⟨0, prelude lookup config t ++ [.text (s.text .yaml)], ""⟩ := by
  obtain ⟨p, hrun, hp⟩ := settings_run lookup config files
  have hinspect : run lookup words = (inspect lookup config : StateM Files Report) := by
    unfold run
    rw [h]
    rfl
  rw [hinspect]
  unfold inspect
  rw [StateT.run_bind, hrun, pure_bind]
  simp only [inEffect_iff_outcome hrun]
  cases hcase : p.outcome with
  | error c =>
    refine ⟨c.report (p.events.map .event), rfl, by simp [Complaint.report], fun t s hs => ?_⟩
    cases hcase.symm.trans ((inEffect_iff_outcome hrun).1 hs.inEffect)
  | ok s =>
    refine ⟨⟨0, p.events.map .event ++ [.text (s.text .yaml)], ""⟩, rfl, by simp, fun t s' hs => ?_⟩
    cases hcase.symm.trans ((inEffect_iff_outcome hrun).1 hs.inEffect)
    rcases hp with ⟨t', ht', hevents, -⟩ | ⟨c, hnone, -⟩
    · obtain rfl := (ht' t).1 hs.loads
      rw [hevents]
      rfl
    · exact absurd hs.loads (hnone t)

/-- A call to show settings shows those in effect, after what is reported on the way to them. -/
theorem run_of_arrives {words : List Bytes} (hwords : Call.ofWords? words = some (.config config))
    (h : Arrives lookup files config t s) : (run lookup words : StateM Files Report).run files =
      pure (⟨0, prelude lookup config t ++ [.text (s.text .yaml)], ""⟩, files) := by
  obtain ⟨report, hrun, -, hreport⟩ := run_config hwords lookup files
  rw [hrun, hreport t s h]

/-- Without the two variables nothing is overridden. -/
theorem override_of_unset (hwalk : lookup Settings.walkFramesVariable = none)
    (hnear : lookup Settings.thresholdVariable = none) (s : Settings) :
    s.override lookup = ⟨s, s.check, []⟩ := by
  simp [Settings.override, Settings.overrideWalkFrames, Settings.overrideThreshold, hwalk, hnear]

/-- Where a YAML file is asked for and nothing is overridden, what its text is read as is in effect. -/
theorem arrives_saved {path : Path} {saved : Files} {text : String}
    (hread : saved.read path = .ok (Text.encode text))
    (hformat : path.extension?.bind TextFormat.ofExtension? = some .yaml)
    (hwalk : lookup Settings.walkFramesVariable = none)
    (hnear : lookup Settings.thresholdVariable = none) :
    Arrives lookup saved (some path) t s ↔ (Settings.parse .yaml text = .ok t ∧ t.check = .ok ()) ∧
      t = s := by
  have hloads : Loads saved (some path) t ↔ Settings.parse .yaml text = .ok t ∧ t.check = .ok () := by
    rw [loads_some, hread]
    exact Settings.ofFile_encode hformat
  -- What is loaded is checked once more when nothing is overridden.
  have hoverride := override_of_unset hwalk hnear t
  constructor
  · rintro ⟨ht, -, hs⟩
    rw [hoverride] at hs
    exact ⟨hloads.1 ht, hs⟩
  · rintro ⟨ht, rfl⟩
    exact ⟨hloads.2 ht, by rw [hoverride, ht.2], by rw [hoverride]⟩

/-! ## The log -/

/-- The log shows nothing on the way to settings if it is turned off, or if they come from no file and
nothing is said about it. -/
theorem hidden_of_quiet {c : Console} (h : lookup Console.filterVariable = some "off" ∨
    lookup Console.filterVariable = none ∧ config = none) :
    ∀ e ∈ preparation lookup config t, c.shows lookup e = false := by
  intro e he
  rcases h with hoff | ⟨hunset, rfl⟩
  · rw [Console.shows_of_off hoff]
  · have hoverride : e ∈ (t.override lookup).events := he
    simp [Console.shows_of_unset hunset, Settings.level_of_mem_events hoverride]

/-- The line that settings are loaded from a file, if the log shows it. -/
def shownLine (c : Console) (lookup : String → Option String) (path : Path) (t : Settings) : String :=
  let e := Event.settingsLoaded path.text t.walkFrames t.threshold
  if c.shows lookup e then c.line 0 e else ""

/-- Without overrides that line is all that comes out before settings from a file. -/
theorem render_shown {c : Console} {path : Path} (hwalk : lookup Settings.walkFramesVariable = none)
    (hnear : lookup Settings.thresholdVariable = none) (text : String) :
    c.render (c.shows lookup) 0 (prelude lookup (some path) t ++ [.text text]) =
      shownLine c lookup path t ++ text := by
  have hpieces : prelude lookup (some path) t =
      [.event (.settingsLoaded path.text t.walkFrames t.threshold)] := by
    simp [prelude, preparation, override_of_unset hwalk hnear]
  rw [hpieces]
  unfold shownLine
  dsimp only
  split <;> simp_all [Console.render]

/-! ## Showing settings that were saved -/

/-- A text that is saved in a YAML file can be shown again if it is read as valid settings, and what comes
out are the line that they are loaded and their text. -/
theorem run_saved {path : Path} {saved : Files} {text : String} {words : List Bytes}
    (hread : saved.read path = .ok (Text.encode text))
    (hformat : path.extension?.bind TextFormat.ofExtension? = some .yaml)
    (hwords : Call.ofWords? words = some (.config (some path)))
    (hwalk : lookup Settings.walkFramesVariable = none)
    (hnear : lookup Settings.thresholdVariable = none) (c : Console) : ∃ report,
      (run lookup words : StateM Files Report).run saved = pure (report, saved) ∧
      (report.code = 0 ↔ ∃ t, Settings.parse .yaml text = .ok t ∧ t.check = .ok ()) ∧
      ∀ t, Settings.parse .yaml text = .ok t → t.check = .ok () → report.output = t.text .yaml ∧
        report.stdout c lookup = shownLine c lookup path t ++ t.text .yaml := by
  obtain ⟨report, hrun, hcode, hreport⟩ := run_config hwords lookup saved
  have heffect (t : Settings) : InEffect lookup saved (some path) t ↔
      Settings.parse .yaml text = .ok t ∧ t.check = .ok () := by
    rw [inEffect_iff]
    simp only [arrives_saved hread hformat hwalk hnear, exists_eq_right]
  refine ⟨report, hrun, by simp only [hcode, heffect], fun t hparse hcheck => ?_⟩
  obtain rfl := hreport t t ((arrives_saved hread hformat hwalk hnear).2 ⟨⟨hparse, hcheck⟩, rfl⟩)
  exact ⟨by simp [Report.output, Piece.printed], render_shown hwalk hnear _⟩

/-- Valid settings are read back from their text, in either format, if their threshold is. A call to show
settings ends with the code zero if there are settings in effect, and prints their text. With the log turned
off, and by default where no file is asked for, nothing else comes out. What comes out can be saved in a
YAML file, and shown where that file is asked for and nothing is overridden. The same comes out again, and
the code is zero again, exactly if what was saved is read as valid settings and is itself the line that they
are loaded and then their text. So if their text alone was saved it is printed again, and all is the same
exactly if that line is not shown, or empty. -/
theorem settings_round_trip (console : Console) (lookup : String → Option String) (files : Files) :
    (∀ (format : TextFormat) (s : Settings), s.check = .ok () → ReadsBack s.threshold format →
      Settings.parse format (s.text format) = .ok s) ∧
    ∀ (config : Option Path) (words : List Bytes), Call.ofWords? words = some (.config config) →
      ∃ report, (run lookup words : StateM Files Report).run files = pure (report, files) ∧
        (report.code = 0 ↔ ∃ s, InEffect lookup files config s) ∧
        ∀ s, InEffect lookup files config s → report.output = s.text .yaml ∧
          (lookup Console.filterVariable = some "off" ∨
              lookup Console.filterVariable = none ∧ config = none →
            report.stdout console lookup = report.output) ∧
          ∀ (console' : Console) (lookup' : String → Option String) (path : Path) (again : List Bytes)
            (others saved : Files), path.extension?.bind TextFormat.ofExtension? = some .yaml →
            Call.ofWords? again = some (.config (some path)) →
            lookup' Settings.walkFramesVariable = none → lookup' Settings.thresholdVariable = none →
            others.write path (Text.encode (report.stdout console lookup)) = .ok saved →
            ∃ report', (run lookup' again : StateM Files Report).run saved = pure (report', saved) ∧
              (report'.code = 0 ∧ report'.stdout console' lookup' = report.stdout console lookup ↔
                ∃ t, Settings.parse .yaml (report.stdout console lookup) = .ok t ∧ t.check = .ok () ∧
                  report.stdout console lookup = shownLine console' lookup' path t ++ t.text .yaml) ∧
              (ReadsBack s.threshold .yaml → report.stdout console lookup = report.output →
                report'.code = 0 ∧ report'.output = report.output ∧
                report'.stdout console' lookup' =
                  shownLine console' lookup' path s ++ report.stdout console lookup ∧
                (report'.stdout console' lookup' = report.stdout console lookup ↔
                  let loaded := Event.settingsLoaded path.text s.walkFrames s.threshold
                  console'.shows lookup' loaded = false ∨ console'.line 0 loaded = "")) := by
  refine ⟨fun format s hs h => Settings.parse_text hs h, ?_⟩
  intro config words hwords
  obtain ⟨report, hrun, hcode, hreport⟩ := run_config hwords lookup files
  refine ⟨report, hrun, hcode, fun s hs => ?_⟩
  obtain ⟨t, ht⟩ := inEffect_iff.1 hs
  have hpieces : report.pieces = prelude lookup config t ++ [.text (s.text .yaml)] := by
    rw [hreport t s ht]
  have houtput : report.output = s.text .yaml := by
    simp [Report.output, hpieces, Piece.printed]
  refine ⟨houtput, fun hquiet => ?_, ?_⟩
  · rw [Report.stdout, hpieces, prelude, Console.render_events_of_hidden (hidden_of_quiet hquiet), houtput]
    simp [Console.render]
  -- The second run reads whatever the first put out, lines of its log included.
  intro console' lookup' path again others saved hformat hagain hwalk hnear hwrite
  obtain ⟨report', hrun', hcode', hshown⟩ :=
    run_saved (Files.read_write hwrite) hformat hagain hwalk hnear console'
  refine ⟨report', hrun', ⟨?_, ?_⟩, fun hback halone => ?_⟩
  · rintro ⟨hzero, hsame⟩
    obtain ⟨t', hparse, hcheck⟩ := hcode'.1 hzero
    exact ⟨t', hparse, hcheck, hsame ▸ (hshown t' hparse hcheck).2⟩
  · rintro ⟨t', hparse, hcheck, hsame⟩
    exact ⟨hcode'.2 ⟨t', hparse, hcheck⟩, (hshown t' hparse hcheck).2.trans hsame.symm⟩
  · -- Only of the text alone is it known what it is read as.
    have hparse : Settings.parse .yaml (report.stdout console lookup) = .ok s := by
      rw [halone, houtput]
      exact Settings.parse_text hs.check hback
    obtain ⟨hprinted, hstdout⟩ := hshown s hparse hs.check
    rw [← houtput] at hprinted hstdout
    refine ⟨hcode'.2 ⟨s, hparse, hs.check⟩, hprinted, halone ▸ hstdout, ?_⟩
    rw [halone, hstdout]
    unfold shownLine
    dsimp only
    split <;> simp_all

/-- Settings with a threshold are read back in both formats. With the log turned off they are shown where a
variable gives the threshold, saved, and shown again. -/
def RoundTrips (raw : String) (x : Single) (shown : String) : Prop :=
  let given := fun name => if name = Settings.thresholdVariable then some raw
    else if name = Console.filterVariable then some "off" else none
  let quiet := fun name => if name = Console.filterVariable then some "off" else none
  (∀ format, Settings.parse format (Settings.text { Settings.standard with threshold := x } format) =
    .ok { Settings.standard with threshold := x }) ∧
  ∃ report report' saved,
    (run given [Text.encode "config"] : StateM Files Report).run ⟨[]⟩ = pure (report, ⟨[]⟩) ∧
    report.stdout (.plain false) given = "walk_phase_frames: 60\nnear_field_threshold_mm: " ++ shown ++
      "\nframe_rate_hz: 30\nindicator: left_eye\n" ∧
    Files.write ⟨[]⟩ (.ofText "settings.yaml") (Text.encode (report.stdout (.plain false) given)) =
      .ok saved ∧
    (run quiet (["config", "--config", "settings.yaml"].map Text.encode) :
      StateM Files Report).run saved = pure (report', saved) ∧
    report'.code = 0 ∧ report'.stdout (.plain false) quiet = report.stdout (.plain false) given

theorem ofWords?_config : Call.ofWords? [Text.encode "config"] = some (.config none) := by
  decide +kernel

theorem ofWords?_config_saved : Call.ofWords? (["config", "--config", "settings.yaml"].map Text.encode) =
    some (.config (some (.ofText "settings.yaml"))) := by
  decide +kernel

theorem write_saved (content : Bytes) : Files.write ⟨[]⟩ (.ofText "settings.yaml") content =
    .ok ⟨[([Text.encode "settings.yaml"], .file content)]⟩ := rfl

/-- An ordinary threshold, and minus zero, which only an override gives. -/
theorem settings_round_trip_samples : RoundTrips "300" 300 "300.0" ∧ RoundTrips "-0" (.zero true) "-0.0" := by
  have hsample (raw : String) (x : Single) (shown : String) (hread : Binary.ofText? (Text.trim raw) = some x)
      (hcheck : Settings.check { Settings.standard with threshold := x } = .ok ())
      (hyaml : ReadsBack x .yaml) (hjson : ReadsBack x .json)
      (htext : Settings.text { Settings.standard with threshold := x } .yaml =
        "walk_phase_frames: 60\nnear_field_threshold_mm: " ++ shown ++
          "\nframe_rate_hz: 30\nindicator: left_eye\n") : RoundTrips raw x shown := by
    unfold RoundTrips
    intro given quiet
    have hwalk : given Settings.walkFramesVariable = none := rfl
    have hnear : given Settings.thresholdVariable = some raw := rfl
    have hs : Arrives given ⟨[]⟩ none .standard { Settings.standard with threshold := x } := by
      refine ⟨rfl, ?_, ?_⟩ <;>
        simp [Settings.override, Settings.overrideWalkFrames, Settings.overrideThreshold, hwalk, hnear,
          hread, hcheck]
    obtain ⟨hparse, hshow⟩ := settings_round_trip (.plain false) given ⟨[]⟩
    obtain ⟨report, hrun, -, hreport⟩ := hshow none _ ofWords?_config
    obtain ⟨houtput, hquiet, hsaved⟩ := hreport _ hs.inEffect
    have hstdout := hquiet (.inl rfl)
    obtain ⟨report', hrun', -, hagain⟩ := hsaved (.plain false) quiet (.ofText "settings.yaml") _ ⟨[]⟩ _
      (by decide +kernel) ofWords?_config_saved rfl rfl (write_saved _)
    obtain ⟨hcode, -, -, hsame⟩ := hagain hyaml hstdout
    refine ⟨fun format => hparse format _ hcheck ?_, report, report', _, hrun, ?_, write_saved _, hrun',
      hcode, hsame.2 (.inl rfl)⟩
    · cases format with
      | yaml => exact hyaml
      | json => exact hjson
    · rw [hstdout, houtput, htext]
  constructor
  · exact hsample _ _ _ (by decide +kernel) (by decide +kernel) (by unfold ReadsBack; decide +kernel)
      (by unfold ReadsBack; decide +kernel) (by decide +kernel)
  · exact hsample _ _ _ (by decide +kernel) (by decide +kernel) (by unfold ReadsBack; decide +kernel)
      (by unfold ReadsBack; decide +kernel) (by decide +kernel)

/-- Where nothing is said about the log, settings that were shown, saved and loaded come out after a line
of it, and not as they were. -/
theorem shown_after_log_line :
    let console := Console.dated "2025-03-01T12:00:00.000000Z"
    let unset : String → Option String := fun _ => none
    ∃ report report' saved,
      (run unset [Text.encode "config"] : StateM Files Report).run ⟨[]⟩ = pure (report, ⟨[]⟩) ∧
      report.code = 0 ∧
      Files.write ⟨[]⟩ (.ofText "settings.yaml") (Text.encode (report.stdout console unset)) = .ok saved ∧
      (run unset (["config", "--config", "settings.yaml"].map Text.encode) :
        StateM Files Report).run saved = pure (report', saved) ∧
      report'.code = 0 ∧ report'.stdout console unset ≠ report.stdout console unset ∧
      report'.stdout console unset = "2025-03-01T12:00:00.000000Z  INFO bh_core::config: " ++
        "behaviour config loaded path=settings.yaml walk_phase_frames=60 near_field_threshold_mm=300.0\n" ++
        report.stdout console unset := by
  intro console unset
  have hcheck : Settings.standard.check = .ok () := by decide +kernel
  have hback : ReadsBack Settings.standard.threshold .yaml := by
    unfold ReadsBack
    decide +kernel
  have hparse : Settings.parse .yaml (Settings.standard.text .yaml) = .ok .standard :=
    Settings.parse_text hcheck hback
  have hline : shownLine console unset (.ofText "settings.yaml") .standard =
      "2025-03-01T12:00:00.000000Z  INFO bh_core::config: " ++
        "behaviour config loaded path=settings.yaml walk_phase_frames=60 near_field_threshold_mm=300.0\n" := by
    decide +kernel
  have hwalk : unset Settings.walkFramesVariable = none := rfl
  have hnear : unset Settings.thresholdVariable = none := rfl
  have hs : Arrives unset ⟨[]⟩ none .standard .standard := ⟨rfl, hcheck, rfl⟩
  have hfirst : Report.stdout console unset ⟨0, prelude unset none .standard ++
      [.text (Settings.standard.text .yaml)], ""⟩ = Settings.standard.text .yaml := String.append_empty
  obtain ⟨report', hrun', hcode, hshown⟩ := run_saved (Files.read_write (write_saved _)) (by decide +kernel)
    ofWords?_config_saved hwalk hnear console
  obtain ⟨-, hstdout⟩ := hshown _ hparse hcheck
  refine ⟨_, report', _, run_of_arrives ofWords?_config hs, rfl, ?_, hrun', hcode.2 ⟨_, hparse, hcheck⟩,
    ?_, ?_⟩
  · rw [hfirst]
    exact write_saved _
  · rw [hfirst, hstdout, hline]
    intro heq
    have hlength := congrArg String.length heq
    simp at hlength
  · rw [hfirst, hstdout, hline]

end Program

end Striker
