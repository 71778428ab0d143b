import ResourceGraph.Proofs.ExitCode
import ResourceGraph.Proofs.Precedence

/-!
# Verbosity and the answer

Two flags decide how much a run tells beside its answer.  They are not kept apart from the rest of
the program: they override the level of the log, they silence remarks, and the log is about every
stage of a run.  That the answer does not depend on them is followed through these stages.

* The overrides of two lists of options that differ in these flags alone differ in the level of the
  log alone (`Options.SameButVerbosity.exists_overrides_eq`).
* A level that is known keeps the other settings as they are (`Settings.resolve_withLevel`).  Here
  it matters that the settings can be resolved without the flags: a flag overrides the level of the
  log, and with it a fault that this level has.
* With the same format and the same selection a command has the same answer
  (`Run.ofSource_sameAnswer`); the printer and the log come in beside it.
* Flags in front of other arguments are read as flags in front of other options
  (`Arguments.splitOptions_append`), which leaves the command and its operand as they are.
-/

namespace ResourceGraph

/-! ## The flags -/

/-- A flag that decides how much is told beside the answer. -/
def Flag.IsVerbosity (flag : Flag) : Prop := flag = .quiet ∨ flag = .verbose

/-- The ways to write such a flag. -/
def Flag.verbosityTexts : List String := ["--quiet", "-q", "--verbose", "-v"]

namespace Options

/-- Two lists of options differ at most in how much is told beside the answer. -/
structure SameButVerbosity (options options' : Options) : Prop where
  flags : ∀ flag : Flag, ¬ flag.IsVerbosity → options'.has flag = options.has flag
  prefixes : options'.prefixes = options.prefixes

/-- Neither little nor much is asked for. -/
structure IsNeutral (options : Options) : Prop where
  quiet : options.has .quiet = false
  verbose : options.has .verbose = false

/-- Some options in front of others. -/
def append (front options : Options) : Options :=
  { flags := front.flags ++ options.flags, prefixes := front.prefixes ++ options.prefixes }

variable {options options' : Options}

/-- Beside the answer, options decide the level of the log alone. -/
theorem SameButVerbosity.exists_overrides_eq (h : options.SameButVerbosity options') :
    ∃ level : Option LogLevel,
      options'.overrides = { options.overrides with logLevel := level.map LogLevel.name } := by
  have hjson : options'.has .json = options.has .json := h.flags .json (by simp [Flag.IsVerbosity])
  have hplain : options'.has .plain = options.has .plain :=
    h.flags .plain (by simp [Flag.IsVerbosity])
  unfold overrides
  rw [hjson, hplain, h.prefixes]
  -- where both flags are given, the one for much to log wins
  split
  · exact ⟨some .debug, rfl⟩
  · split
    · exact ⟨some .error, rfl⟩
    · exact ⟨none, rfl⟩

theorem IsNeutral.logLevel_eq (h : options.IsNeutral) : options.overrides.logLevel = none := by
  simp [overrides, h.quiet, h.verbose]

end Options

/-! ## The settings -/

namespace Settings

theorem ofName?_name (level : LogLevel) : LogLevel.ofName? level.name = some level := by
  cases level <;> decide +kernel

/-- A level that is known keeps everything else as it is. -/
theorem ofValues_withLevel {values : PreferenceValues} {settings : Settings}
    (h : ofValues values = .ok settings) (level : LogLevel) :
    ofValues { values with logLevel := some (.text level.name) } =
      .ok { settings with logLevel := level } := by
  obtain ⟨hmismatches, -, hformat, hprefixes, hexcluded⟩ := ofValues_eq_ok_iff.mp h
  refine ofValues_eq_ok_iff.mpr ⟨?_, ofName?_name level, hformat, hprefixes, hexcluded⟩
  simp only [PreferenceValues.mismatches, List.append_eq_nil_iff] at hmismatches ⊢
  obtain ⟨⟨⟨-, hformat⟩, hprefixes⟩, hexcluded⟩ := hmismatches
  exact ⟨⟨⟨rfl, hformat⟩, hprefixes⟩, hexcluded⟩

/-- Only the project file can cause an accident. -/
theorem resolve_eq_accident_iff {surroundings : Surroundings} {directory : FilePath}
    {overrides : Overrides} {accident : Accident} :
    resolve surroundings directory overrides = .error (.accident accident) ↔
      readProject surroundings directory = .error (.accident accident) := by
  unfold resolve
  rw [bind_eq_error]
  refine or_iff_left ?_
  rintro ⟨project, -, h⟩
  obtain ⟨fault, -, hfault⟩ := mapError_eq_error.mp h
  cases hfault

/-- A level that is known, put in the place of none, keeps everything else as it is. -/
theorem resolve_withLevel {surroundings : Surroundings} {directory : FilePath}
    {overrides : Overrides} {settings : Settings}
    (h : resolve surroundings directory overrides = .ok settings) (level : LogLevel) :
    resolve surroundings directory { overrides with logLevel := some level.name } =
      .ok { settings with logLevel := level } := by
  have hsources : Sources.resolve ⟨overrides, surroundings, directory⟩ = .ok settings := h
  obtain ⟨hreadable, hvalues⟩ := Sources.resolve_eq_ok_iff.mp hsources
  have hlevel : Sources.resolve
      ⟨{ overrides with logLevel := some level.name }, surroundings, directory⟩ =
        .ok { settings with logLevel := level } :=
    Sources.resolve_eq_ok_iff.mpr ⟨hreadable, ofValues_withLevel hvalues level⟩
  exact hlevel

end Settings

/-! ## Runs -/

namespace Run

/-- Two runs have the same answer: all but what they tell beside it is the same. -/
structure SameAnswer (run run' : Run) : Prop where
  exitCode : run'.exitCode = run.exitCode
  output : run'.output = run.output
  crashLog : run'.crashLog = run.crashLog
  blackout : run'.blackout = run.blackout

/-- The run of a command with options ends with a fault of its settings. -/
def EndsMisconfigured (surroundings : Surroundings) (options : Options) : Prop :=
  (∃ columns, Screen.columns surroundings.environment = .ok columns) ∧
    ∃ fault, Settings.resolve surroundings surroundings.workingDirectory options.overrides =
      .error (.fault fault)

variable {surroundings : Surroundings} {printer printer' : Printer}

theorem SameAnswer.refl (run : Run) : run.SameAnswer run := ⟨rfl, rfl, rfl, rfl⟩

/-- The answer to a question about a document depends on the printer by its format alone. -/
theorem ofDocument_sameAnswer (hformat : printer'.format = printer.format) (command : Command)
    (document : Document) (selection : Selection) (events events' : List LogEvent) :
    (ofDocument surroundings printer command document selection events).SameAnswer
      (ofDocument surroundings printer' command document selection events') := by
  unfold ofDocument
  cases command.answer document selection with
  | error failure => cases failure <;> exact ⟨rfl, rfl, rfl, rfl⟩
  | ok answer =>
      refine ⟨rfl, ?_, rfl, rfl⟩
      simp only [answered, hformat]

theorem ofSource_sameAnswer (hformat : printer'.format = printer.format)
    (shows shows' : LogEvent → Bool) (command : Command) (selection : Selection)
    (source : String) :
    (ofSource surroundings printer shows command selection source).SameAnswer
      (ofSource surroundings printer' shows' command selection source) := by
  unfold ofSource
  cases Document.load surroundings source with
  | ok document => exact ofDocument_sameAnswer hformat command document selection _ _
  | error failure => cases failure <;> exact ⟨rfl, rfl, rfl, rfl⟩

/-- Settings that differ in the level of the log lead to the same answer. -/
theorem ofCommand_sameAnswer {options options' : Options} (hneutral : options.IsNeutral)
    (hsame : options.SameButVerbosity options') (columns : ℕ)
    (hconfigured : ∀ fault, Settings.resolve surroundings surroundings.workingDirectory
      options.overrides ≠ .error (.fault fault)) (command : Command)
    (operand : Arguments.Operand) :
    (ofCommand surroundings columns options command operand).SameAnswer
      (ofCommand surroundings columns options' command operand) := by
  obtain ⟨level, hoverrides⟩ := hsame.exists_overrides_eq
  unfold ofCommand
  rw [hoverrides]
  cases hsettings : Settings.resolve surroundings surroundings.workingDirectory
      options.overrides with
  | error failure =>
      cases failure with
      | fault fault => exact absurd hsettings (hconfigured fault)
      | accident accident =>
          have haccident := Settings.resolve_eq_accident_iff.mp hsettings
          rw [Settings.resolve_eq_accident_iff.mpr haccident]
          exact .refl _
  | ok settings =>
      -- the answer takes nothing from the settings but the format and the selection
      obtain ⟨settings', hsettings', hformat, hselection⟩ : ∃ settings',
          Settings.resolve surroundings surroundings.workingDirectory
            { options.overrides with logLevel := level.map LogLevel.name } = .ok settings' ∧
          settings'.outputFormat = settings.outputFormat ∧
          settings'.selection = settings.selection := by
        cases level with
        | some level => exact ⟨_, Settings.resolve_withLevel hsettings level, rfl, rfl⟩
        | none =>
            rw [Option.map_none, ← hneutral.logLevel_eq]
            exact ⟨settings, hsettings, rfl, rfl⟩
      rw [hsettings']
      cases operand with
      | misuse => exact .refl _
      | help => exact .refl _
      | source source =>
          have hcolour : options'.has .noColour = options.has .noColour :=
            hsame.flags .noColour (by simp [Flag.IsVerbosity])
          simp only [hselection]
          refine ofSource_sameAnswer ?_ _ _ command settings.selection source
          simp only [Printer.ofChoice, hcolour, hformat]

end Run

/-! ## Arguments -/

namespace Arguments

variable {front options : Options} {arguments : List String}

/-- Options that are read already stay in front of those still to be read. -/
theorem splitOptions_append (front options : Options) (arguments : List String) :
    splitOptions (front.append options) arguments =
      (splitOptions options arguments).map fun (all, rest) => (front.append all, rest) := by
  -- the induction is on the calls; those that read on pass the options in front along
  induction options, arguments using splitOptions.induct with
  | case1 options => rfl
  | case2 options argument rest hend => simp [splitOptions, hend]
  | case3 options argument rest hend hoption => simp [splitOptions, hend, hoption]
  | case4 options argument rest hend hoption hread => simp [splitOptions, hend, hoption, hread]
  | case5 options argument rest hend hoption flags hread ih =>
      simp only [Options.append, ← List.append_assoc] at ih
      simp [splitOptions, hend, hoption, hread, Options.append, ← ih]
  | case6 options argument rest hend hoption flags text hread ih =>
      simp only [Options.append, ← List.append_assoc] at ih
      simp [splitOptions, hend, hoption, hread, Options.append, ← ih]
  | case7 options argument hend hoption flags hread => simp [splitOptions, hend, hoption, hread]
  | case8 options argument hend hoption flags hread text further ih =>
      simp only [Options.append, ← List.append_assoc] at ih
      simp [splitOptions, hend, hoption, hread, Options.append, ← ih]

/-- A flag in front of all arguments is read first. -/
theorem splitOptions_verbosity {text : String} (h : text ∈ Flag.verbosityTexts) :
    ∃ flag : Flag, flag.IsVerbosity ∧ ∀ options arguments,
      splitOptions options (text :: arguments) =
        splitOptions { options with flags := options.flags ++ [flag] } arguments := by
  simp only [Flag.verbosityTexts, List.mem_cons, List.not_mem_nil, or_false] at h
  rcases h with rfl | rfl | rfl | rfl
  · exact ⟨.quiet, .inl rfl, fun options arguments => by rfl⟩
  · exact ⟨.quiet, .inl rfl, fun options arguments => by rfl⟩
  · exact ⟨.verbose, .inr rfl, fun options arguments => by rfl⟩
  · exact ⟨.verbose, .inr rfl, fun options arguments => by rfl⟩

/-- Flags in front of all arguments are read first. -/
theorem exists_splitOptions_eq {extra : List String}
    (h : ∀ text ∈ extra, text ∈ Flag.verbosityTexts) (options : Options)
    (arguments : List String) :
    ∃ flags : List Flag, (∀ flag ∈ flags, flag.IsVerbosity) ∧
      splitOptions options (extra ++ arguments) =
        splitOptions { options with flags := options.flags ++ flags } arguments := by
  induction extra generalizing options with
  | nil => exact ⟨[], by simp, by simp⟩
  | cons text others ih =>
      obtain ⟨flag, hflag, hfirst⟩ := splitOptions_verbosity (h text (List.mem_cons_self ..))
      obtain ⟨flags, hflags, hrest⟩ :=
        ih (fun other hother => h other (List.mem_cons_of_mem _ hother))
          { options with flags := options.flags ++ [flag] }
      refine ⟨flag :: flags, List.forall_mem_cons.mpr ⟨hflag, hflags⟩, ?_⟩
      rw [List.cons_append, hfirst, hrest, List.append_assoc, List.singleton_append]

end Arguments

namespace Options

/-- Flags in front of options change nothing else. -/
theorem sameButVerbosity_append {flags : List Flag} (h : ∀ flag ∈ flags, flag.IsVerbosity)
    (options : Options) : options.SameButVerbosity (append { flags } options) where
  flags flag hflag := by
    have hfront : flags.contains flag = false := by
      rw [← Bool.not_eq_true, List.contains_iff_mem]
      exact fun hmem => hflag (h flag hmem)
    rw [has, append, List.contains_append, hfront, Bool.false_or, has]
  prefixes := rfl

end Options

namespace Invocation

theorem notice?_append {flags : List Flag} (h : ∀ flag ∈ flags, flag.IsVerbosity)
    (options : Options) : notice? (.append { flags } options) = notice? options := by
  have hfront : flags.find? (fun flag => flag == .help || flag == .version) = none := by
    refine List.find?_eq_none.mpr fun flag hflag => ?_
    rcases h flag hflag with rfl | rfl <;> decide
  rw [notice?, Options.append, List.find?_append, hfront]
  rfl

/-- Flags in front of the arguments of a command leave the command and its operand as they are. -/
theorem exists_ofArguments_eq {extra arguments : List String} {options : Options}
    {command : Command} {operand : Arguments.Operand}
    (hextra : ∀ text ∈ extra, text ∈ Flag.verbosityTexts)
    (h : ofArguments arguments = .command options command operand) :
    ∃ options', ofArguments (extra ++ arguments) = .command options' command operand ∧
      options.SameButVerbosity options' := by
  obtain ⟨flags, hflags, hsplit⟩ := Arguments.exists_splitOptions_eq hextra {} arguments
  have hfront : ({ flags := [] ++ flags } : Options) = .append { flags } {} := by
    simp [Options.append]
  rw [hfront, Arguments.splitOptions_append] at hsplit
  unfold ofArguments at h ⊢
  cases arguments with
  | nil => cases h
  | cons first others =>
      rw [if_neg (by simp)] at h ⊢
      rw [hsplit]
      cases hrest : Arguments.splitOptions {} (first :: others) with
      | none => simp [hrest] at h
      | some found =>
          obtain ⟨all, rest⟩ := found
          rw [hrest] at h
          simp only [Option.map_some, notice?_append hflags] at h ⊢
          cases hnotice : notice? all with
          | some flag =>
              rw [hnotice] at h
              cases flag <;> cases h
          | none =>
              rw [hnotice] at h
              cases rest with
              | nil => cases h
              | cons name further =>
                  cases hname : Command.ofName? name with
                  | none => simp [hname] at h
                  | some wanted =>
                      simp only [hname] at h ⊢
                      cases h
                      exact ⟨_, rfl, Options.sameButVerbosity_append hflags options⟩

end Invocation

namespace Run

/-- **How much is told beside the answer does not change the answer.**  Unless a run ends with a
fault of its settings it has the same answer as every run that differs from it in verbosity alone,
in particular as the run with flags put in front of its arguments. -/
theorem verbosity_immaterial {surroundings : Surroundings} {arguments : List String}
    {options : Options} {command : Command} {operand : Arguments.Operand}
    (harguments : Invocation.ofArguments arguments = .command options command operand)
    (hneutral : options.IsNeutral) (hconfigured : ¬ EndsMisconfigured surroundings options) :
    (∀ arguments' options',
      Invocation.ofArguments arguments' = .command options' command operand →
        options.SameButVerbosity options' →
          (ofArguments surroundings arguments).SameAnswer (ofArguments surroundings arguments')) ∧
    (∀ extra : List String, (∀ text ∈ extra, text ∈ Flag.verbosityTexts) →
      (ofArguments surroundings arguments).SameAnswer
        (ofArguments surroundings (extra ++ arguments))) := by
  have hsame : ∀ arguments' options',
      Invocation.ofArguments arguments' = .command options' command operand →
        options.SameButVerbosity options' →
          (ofArguments surroundings arguments).SameAnswer
            (ofArguments surroundings arguments') := by
    intro arguments' options' harguments' hoptions
    unfold ofArguments
    rw [harguments, harguments']
    cases hscreen : Screen.columns surroundings.environment with
    | error fault => exact .refl _
    | ok columns =>
        exact ofCommand_sameAnswer hneutral hoptions columns
          (fun fault hfault => hconfigured ⟨⟨columns, hscreen⟩, fault, hfault⟩) command operand
  refine ⟨hsame, fun extra hextra => ?_⟩
  obtain ⟨options', harguments', hoptions⟩ :=
    Invocation.exists_ofArguments_eq hextra harguments
  exact hsame _ options' harguments' hoptions

end Run

/-! ## A sample run -/

namespace Sample

/-- With both of the flags the resources of a bare document are listed as they are without. -/
theorem bare_verbosity_immaterial :
    Invocation.ofArguments ["--json", "resources", "-"] =
      .command { flags := [.json] } .resources (.source "-") ∧
    Options.IsNeutral { flags := [.json] } ∧
    ¬ Run.EndsMisconfigured (seated "80" bare) { flags := [.json] } ∧
    (Run.ofArguments (seated "80" bare) ["--quiet", "-v", "--json", "resources", "-"]).output =
      "[]\n" := by
  have harguments : Invocation.ofArguments ["--json", "resources", "-"] =
      .command { flags := [.json] } .resources (.source "-") := by rfl
  have hneutral : Options.IsNeutral { flags := [.json] } := ⟨rfl, rfl⟩
  have hresolved : (Settings.resolve (seated "80" bare) (FilePath.ofText "/work")
      (Options.overrides { flags := [.json] })).toOption.map (fun _ => ()) = some () := by
    decide +kernel
  obtain ⟨settings, hsettings, -⟩ := exists_of_toOption_map_eq_some hresolved
  have hconfigured : ¬ Run.EndsMisconfigured (seated "80" bare) { flags := [.json] } := by
    rintro ⟨-, fault, hfault⟩
    cases hsettings.symm.trans hfault
  have houtput : (Run.ofArguments (seated "80" bare) ["--json", "resources", "-"]).output =
      "[]\n" := by decide +kernel
  obtain ⟨-, hextra⟩ := Run.verbosity_immaterial harguments hneutral hconfigured
  have hsame := hextra ["--quiet", "-v"] (by decide)
  exact ⟨harguments, hneutral, hconfigured, hsame.output.trans houtput⟩

end Sample

end ResourceGraph
