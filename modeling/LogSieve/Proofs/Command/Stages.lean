import LogSieve.Proofs.Command.Unreadable

/-!
# The order of the stages

A run can fail in four stages: the settings do not load, the log directives are refused, the filter
does not compile, a file or standard input cannot be read. Each stage has its own causes to fail,
`Options.Fails`, and several stages may have one in the same run. The first of them decides
(`Options.run_of_failsFirst`): its error is what the run says, after the notices on log directives
from outside if it gets that far.

What a stage looks at is all that it can depend on. The first two see the file with the settings and
no other, the third sees no file at all, and a run that is to print its filter ends there. Only a
run that gets through all of them has a plan (`Options.plan?_eq_none`), and only a plan looks at
input. So nothing that would be read later makes a difference to a run that ends early
(`Options.run_congr_early`), and standard input makes none where files are named
(`Options.run_congr_stdin`).

What a run says is compared without its log events. Those of a run that ends early are about the
path of the settings and the text of the filter, and say nothing of input either.

The main statement is `run_stages`.
-/

namespace LogSieve

/-- The stages in which a run can fail, in their order. -/
inductive Stage where
  /-- The settings are loaded. -/
  | settings
  /-- The log directives are checked. -/
  | directives
  /-- The filter is compiled. -/
  | filter
  /-- The input is read. -/
  | input
  deriving DecidableEq, Repr

namespace Stage

/-- The stages before a stage. -/
def earlier : Stage → List Stage
  | settings => []
  | directives => [settings]
  | filter => [settings, directives]
  | input => [settings, directives, filter]

/-- What has been said by the end of a stage about log directives from outside. -/
def notices (directives : Option Text) : Stage → Text
  | settings => []
  | _ => (directives.map directiveNotices).getD []

end Stage

/-- An error with another wording comes of an error. -/
theorem mapError_eq_error_iff {α ε ε' : Type} {f : ε → ε'} {result : Except ε α} {error : ε'} :
    result.mapError f = .error error ↔ ∃ reason, result = .error reason ∧ f reason = error := by
  cases result with
  | ok value => simp [Except.mapError]
  | error reason => simp [Except.mapError]

namespace Options

variable (options : Options) (environment : Environment)

/-- **A stage has a cause to fail**, whether or not the run gets as far. Directives that are asked
for come with the settings, which have to load for them to be known; otherwise no stage looks at
another. -/
inductive Fails : Stage → RunError → Prop where
  /-- The settings are asked for and cannot be loaded. -/
  | settings {path : Text} {error : SettingsError} (hpath : options.config = some path)
    (h : Settings.load environment.entry path = .error error) :
    Fails .settings (.settings path error)
  /-- The directives of the settings or of the verbosity are refused; those from outside never
  are. -/
  | directives {settings : Settings} {error : DirectiveError}
    (hsettings : Settings.loadOrDefault environment.entry options.config = .ok settings)
    (hnone : environment.directives = none)
    (h : checkDirectives (directivesFor options.verbose settings.level) = .error error) :
    Fails .directives (.directives (directivesFor options.verbose settings.level) error)
  /-- The filter does not compile. -/
  | filter {error : FilterError} (h : compile options.filterText = .error error) :
    Fails .filter (.filter options.painted options.filterText error)
  /-- Input is to be read, and of the files this is the first that cannot be. -/
  | file {before after : List Text} {path : Text} {error : RunError}
    (hprint : options.printAst = false) (hfiles : options.files = before ++ path :: after)
    {contents : List Bytes} (hbefore : before.map environment.entry = contents.map .file)
    (hpath : (environment.entry path).failure? path = some error) :
    Fails .input error
  /-- Input is to be read, no file is named, and standard input fails. -/
  | stdin {reason : Text} (hprint : options.printAst = false) (hfiles : options.files = [])
    (hfails : environment.stdin.failure = some reason) :
    Fails .input (.stdin reason)

/-- A stage fails, and none before it does. -/
structure FailsFirst (stage : Stage) (error : RunError) : Prop where
  /-- The stage fails. -/
  fails : options.Fails environment stage error
  /-- Every stage before it succeeds. -/
  earlier : ∀ before ∈ stage.earlier, ∀ other, ¬options.Fails environment before other

variable {options environment} {settings : Settings} {notices : Text} {error : RunError}

/-! ### What each stage does -/

theorem fails_settings_iff :
    options.Fails environment .settings error ↔
      Settings.loadOrDefault environment.entry options.config = .error error := by
  constructor
  · intro hfails
    cases hfails with
    | settings hpath h => rw [hpath, Settings.loadOrDefault, h, Except.mapError]
  · intro hload
    cases hpath : options.config with
    | none =>
      -- the defaults always load
      rw [hpath] at hload
      cases hload
    | some path =>
      rw [hpath, Settings.loadOrDefault, mapError_eq_error_iff] at hload
      obtain ⟨reason, h, rfl⟩ := hload
      exact .settings hpath h

theorem fails_directives_iff
    (hsettings : Settings.loadOrDefault environment.entry options.config = .ok settings) :
    options.Fails environment .directives error ↔
      options.checkLogging settings environment.directives = .error error := by
  constructor
  · intro hfails
    cases hfails with
    | directives hsettings' hnone h =>
      obtain rfl := Except.ok.inj (hsettings.symm.trans hsettings')
      simp only [checkLogging, hnone, h]
  · intro hcheck
    unfold checkLogging at hcheck
    split at hcheck
    · cases hcheck
    · next hnone =>
      simp only at hcheck
      split at hcheck
      · next h =>
        cases hcheck
        exact .directives hsettings hnone h
      · cases hcheck

theorem fails_filter_iff :
    options.Fails environment .filter error ↔ options.compileFilter = .error error := by
  rw [compileFilter, mapError_eq_error_iff]
  constructor
  · intro hfails
    cases hfails with
    | filter h => exact ⟨_, h, rfl⟩
  · rintro ⟨reason, h, rfl⟩
    exact .filter h

/-- Whatever is said about log directives is said about those from outside. -/
theorem checkLogging_eq_ok {directives : Option Text}
    (h : options.checkLogging settings directives = .ok notices) :
    notices = (directives.map directiveNotices).getD [] := by
  unfold checkLogging at h
  split at h
  · cases h
    rfl
  · simp only at h
    split at h
    · cases h
    · cases h
      rfl

/-- **The first two stages succeed together** if neither fails, and leave the notices on log
directives from outside. -/
theorem exists_configure_of_not_fails
    (hsettings : ∀ error, ¬options.Fails environment .settings error)
    (hdirectives : ∀ error, ¬options.Fails environment .directives error) :
    ∃ settings, options.configure environment.entry environment.directives =
      .ok (settings, (environment.directives.map directiveNotices).getD []) := by
  cases hload : Settings.loadOrDefault environment.entry options.config with
  | error reason => exact absurd (fails_settings_iff.mpr hload) (hsettings reason)
  | ok settings =>
    cases hcheck : options.checkLogging settings environment.directives with
    | error reason =>
      exact absurd ((fails_directives_iff hload).mpr hcheck) (hdirectives reason)
    | ok notices =>
      obtain rfl := checkLogging_eq_ok hcheck
      exact ⟨settings, configure_eq_ok_iff.mpr ⟨hload, hcheck⟩⟩

/-- Two stages that succeed do not fail. -/
theorem not_fails_of_configure
    (hconfigure : options.configure environment.entry environment.directives
      = .ok (settings, notices)) :
    (∀ error, ¬options.Fails environment .settings error) ∧
      ∀ error, ¬options.Fails environment .directives error := by
  obtain ⟨hload, hcheck⟩ := configure_eq_ok_iff.mp hconfigure
  constructor
  · intro error hfails
    have herror := fails_settings_iff.mp hfails
    rw [hload] at herror
    cases herror
  · intro error hfails
    have herror := (fails_directives_iff hload).mp hfails
    rw [hcheck] at herror
    cases herror

theorem exists_compile_of_not_fails
    (hfilter : ∀ error, ¬options.Fails environment .filter error) :
    ∃ filter, compile options.filterText = .ok filter := by
  cases hcompile : compile options.filterText with
  | error reason => exact absurd (.filter hcompile) (hfilter _)
  | ok filter => exact ⟨filter, rfl⟩

/-- A plan is what is left of a filter that compiles and is not to be printed. -/
theorem prepare_eq_inr {plan : Plan} (h : options.prepare settings = .ok (.inr plan)) :
    options.printAst = false ∧
      ∃ filter, compile options.filterText = .ok filter ∧ plan = options.plan settings filter := by
  cases hcompile : compile options.filterText with
  | error reason =>
    have hfilter : options.compileFilter =
        .error (.filter options.painted options.filterText reason) := by
      rw [compileFilter, hcompile]
      rfl
    rw [prepare, hfilter] at h
    cases h
  | ok filter =>
    rw [prepare_of_compile hcompile] at h
    split at h
    · cases h
    · next hprint =>
      cases h
      exact ⟨Bool.eq_false_iff.mpr hprint, filter, rfl, rfl⟩

/-! ### The first stage that fails -/

/-- If any stage fails, one is the first to fail. -/
theorem exists_failsFirst {stage : Stage} (h : options.Fails environment stage error) :
    ∃ stage error, options.FailsFirst environment stage error := by
  by_cases hsettings : ∃ error, options.Fails environment .settings error
  · obtain ⟨error, hfails⟩ := hsettings
    exact ⟨.settings, error, hfails, fun before hmem => nomatch hmem⟩
  by_cases hdirectives : ∃ error, options.Fails environment .directives error
  · obtain ⟨error, hfails⟩ := hdirectives
    refine ⟨.directives, error, hfails, ?_⟩
    intro before hmem other hother
    obtain rfl := List.mem_singleton.mp hmem
    exact hsettings ⟨other, hother⟩
  by_cases hfilter : ∃ error, options.Fails environment .filter error
  · obtain ⟨error, hfails⟩ := hfilter
    refine ⟨.filter, error, hfails, ?_⟩
    intro before hmem other hother
    simp only [Stage.earlier, List.mem_cons, List.not_mem_nil, or_false] at hmem
    rcases hmem with rfl | rfl
    · exact hsettings ⟨other, hother⟩
    · exact hdirectives ⟨other, hother⟩
  refine ⟨stage, error, h, ?_⟩
  intro before hmem other hother
  cases before with
  | settings => exact hsettings ⟨other, hother⟩
  | directives => exact hdirectives ⟨other, hother⟩
  | filter => exact hfilter ⟨other, hother⟩
  | input =>
    -- nothing comes after the input
    cases stage <;> simp [Stage.earlier] at hmem

/-- All files can be read, or there is a first one that cannot. -/
theorem contents_or_unreadable (entry : Text → FileEntry) (names : List Text) :
    (∃ contents : List Bytes, names.map entry = contents.map .file) ∨
      ∃ before path after error, names = before ++ path :: after ∧
        (∃ contents : List Bytes, before.map entry = contents.map .file) ∧
        (entry path).failure? path = some error := by
  induction names with
  | nil => exact .inl ⟨[], rfl⟩
  | cons name names ih =>
    cases hfailure : (entry name).failure? name with
    | some error => exact .inr ⟨[], name, names, error, rfl, ⟨[], rfl⟩, hfailure⟩
    | none =>
      -- a name without a reason to fail leads to a file
      obtain ⟨bytes, hbytes⟩ : ∃ bytes, entry name = .file bytes := by
        cases hentry : entry name with
        | file bytes => exact ⟨bytes, rfl⟩
        | directory | missing =>
          rw [hentry] at hfailure
          cases hfailure
      have hcons : ∀ {others : List Text} {contents : List Bytes},
          others.map entry = contents.map .file →
          (name :: others).map entry = (bytes :: contents).map .file := by
        intro others contents h
        rw [List.map_cons, List.map_cons, hbytes, h]
      rcases ih with ⟨contents, hcontents⟩ | hnot
      · exact .inl ⟨bytes :: contents, hcons hcontents⟩
      · obtain ⟨before, path, after, error, rfl, ⟨contents, hbefore⟩, h⟩ := hnot
        refine .inr ⟨name :: before, path, after, error, rfl, ?_, h⟩
        exact ⟨bytes :: contents, hcons hbefore⟩

/-- **A plan whose input fails** ends with the error of the input. -/
theorem exists_run_plan_of_fails (h : options.Fails environment .input error)
    (settings : Settings) (filter : Expr) :
    options.printAst = false ∧ ∃ written,
      (options.plan settings filter).run environment.entry environment.stdin =
        Outcome.ofError written error := by
  cases h with
  | file hprint hfiles hbefore hpath =>
    exact ⟨hprint, _, Plan.run_of_failure _ hfiles environment.stdin hbefore hpath⟩
  | stdin hprint hfiles hfails =>
    exact ⟨hprint, _, Plan.run_of_stdin_failure _ environment.entry hfiles hfails⟩

/-- **A plan whose input does not fail** succeeds. -/
theorem exit_run_plan (hprint : options.printAst = false)
    (h : ∀ error, ¬options.Fails environment .input error) (settings : Settings) (filter : Expr) :
    ((options.plan settings filter).run environment.entry environment.stdin).exit = 0 := by
  by_cases hfiles : options.files = []
  · cases hend : environment.stdin.failure with
    | some reason => exact absurd (.stdin hprint hfiles hend) (h _)
    | none =>
      rw [Plan.run_of_stdin _ environment.entry hfiles hend]
      rfl
  · rcases contents_or_unreadable environment.entry options.files with hall | hnot
    · obtain ⟨contents, hcontents⟩ := hall
      rw [Plan.run_of_files _ environment.entry hfiles environment.stdin hcontents]
      rfl
    · obtain ⟨before, path, after, error, hnames, ⟨contents, hbefore⟩, hpath⟩ := hnot
      exact absurd (.file hprint hnames hbefore hpath) (h error)

/-- **The first stage that fails decides the outcome.** Only input that was read before a file that
cannot be read can have been written. -/
theorem run_of_failsFirst {stage : Stage} (h : options.FailsFirst environment stage error) :
    ∃ written, (stage ≠ .input → written = []) ∧
      options.run environment =
        (Outcome.ofError written error).after (stage.notices environment.directives) := by
  obtain ⟨hfails, hearlier⟩ := h
  cases stage with
  | settings =>
    refine ⟨[], fun _ => rfl, ?_⟩
    rw [run, configure, fails_settings_iff.mp hfails]
    rfl
  | directives =>
    refine ⟨[], fun _ => rfl, ?_⟩
    cases hfails with
    | @directives settings reason hload hnone h =>
      have hcheck := (fails_directives_iff hload).mp (.directives hload hnone h)
      have hconfigure : options.configure environment.entry environment.directives =
          .error (.directives (directivesFor options.verbose settings.level) reason) := by
        rw [configure, hload]
        simp only [bind, Except.bind, hcheck]
      rw [run, hconfigure, hnone]
      rfl
  | filter =>
    refine ⟨[], fun _ => rfl, ?_⟩
    obtain ⟨settings, hconfigure⟩ := exists_configure_of_not_fails
      (hearlier .settings (by decide)) (hearlier .directives (by decide))
    rw [run]
    simp only [hconfigure, runWith, prepare, fails_filter_iff.mp hfails, bind, Except.bind]
    rfl
  | input =>
    obtain ⟨settings, hconfigure⟩ := exists_configure_of_not_fails
      (hearlier .settings (by decide)) (hearlier .directives (by decide))
    obtain ⟨filter, hcompile⟩ := exists_compile_of_not_fails (hearlier .filter (by decide))
    -- the run carries out its plan, and this is what the plan comes to
    obtain ⟨hprint, written, hplan⟩ := exists_run_plan_of_fails hfails settings filter
    refine ⟨written, fun hinput => absurd rfl hinput, ?_⟩
    rw [options.run_eq_of_configure environment hconfigure hprint hcompile, hplan]
    rfl

/-- **A run of which no stage fails** succeeds, and prints its filter if it is to. -/
theorem run_of_not_fails (h : ∀ stage error, ¬options.Fails environment stage error) :
    (options.run environment).exit = 0 ∧
      (options.printAst = true → ∃ filter, compile options.filterText = .ok filter ∧
        options.run environment = (Outcome.ofExpr filter).after
          ((environment.directives.map directiveNotices).getD [])) := by
  obtain ⟨settings, hconfigure⟩ := exists_configure_of_not_fails (h .settings) (h .directives)
  obtain ⟨filter, hcompile⟩ := exists_compile_of_not_fails (h .filter)
  cases hprint : options.printAst with
  | true =>
    have hprepare : options.prepare settings = .ok (.inl filter) := by
      rw [prepare_of_compile hcompile, hprint]
      rfl
    have hrun : options.run environment = (Outcome.ofExpr filter).after
        ((environment.directives.map directiveNotices).getD []) := by
      rw [run]
      simp only [hconfigure, runWith, hprepare]
    rw [hrun]
    exact ⟨rfl, fun _ => ⟨filter, hcompile, rfl⟩⟩
  | false =>
    refine ⟨?_, fun hfalse => absurd hfalse Bool.false_ne_true⟩
    rw [options.run_eq_of_configure environment hconfigure hprint hcompile]
    exact exit_run_plan hprint (h .input) settings filter

/-! ### What cannot make a difference -/

/-- A run with a plan has settings and a filter, which the plan is made of. -/
theorem exists_of_plan? {plan : Plan} (h : options.plan? environment = some plan) :
    ∃ settings notices filter,
      options.configure environment.entry environment.directives = .ok (settings, notices) ∧
        options.printAst = false ∧ compile options.filterText = .ok filter ∧
        plan = options.plan settings filter := by
  rw [plan?] at h
  cases hconfigure : options.configure environment.entry environment.directives with
  | error reason =>
    rw [hconfigure] at h
    cases h
  | ok result =>
    obtain ⟨settings, notices⟩ := result
    simp only [hconfigure] at h
    split at h
    · next hprepare =>
      cases h
      obtain ⟨hprint, filter, hcompile, hplan⟩ := prepare_eq_inr hprepare
      exact ⟨settings, notices, filter, rfl, hprint, hcompile, hplan⟩
    · cases h

/-- **Only a run that gets through the first three stages has a plan**, and none if it is to print
its filter. -/
theorem plan?_eq_none
    (hearly : (∃ stage error, stage ≠ .input ∧ options.Fails environment stage error) ∨
      options.printAst = true) :
    options.plan? environment = none := by
  cases hplan : options.plan? environment with
  | none => rfl
  | some plan =>
    exfalso
    obtain ⟨settings, notices, filter, hconfigure, hprint, hcompile, -⟩ := exists_of_plan? hplan
    obtain ⟨hsettings, hdirectives⟩ := not_fails_of_configure hconfigure
    rcases hearly with ⟨stage, error, hinput, hfails⟩ | hprint'
    · cases stage with
      | settings => exact hsettings error hfails
      | directives => exact hdirectives error hfails
      | filter =>
        cases hfails with
        | filter herror =>
          rw [hcompile] at herror
          cases herror
      | input => exact hinput rfl
    · rw [hprint] at hprint'
      cases hprint'

/-- **A run without a plan** looks at the file with the settings and at no other, and not at
standard input. -/
theorem run_congr_of_no_plan {stdin : Stdin} {entry : Text → FileEntry}
    (hentry : ∀ name, options.config = some name → entry name = environment.entry name)
    (hplan : options.plan? environment = none) :
    options.run { environment with stdin, entry } = options.run environment := by
  have hload : Settings.loadOrDefault entry options.config =
      Settings.loadOrDefault environment.entry options.config :=
    Settings.loadOrDefault_congr hentry
  -- both runs are configured alike, and from there on only a plan looks at the environment
  rw [run, run, configure, configure, hload, ← configure]
  rw [plan?] at hplan
  cases hconfigure : options.configure environment.entry environment.directives with
  | error reason => rfl
  | ok result =>
    obtain ⟨settings, notices⟩ := result
    rw [hconfigure] at hplan
    simp only [runWith] at hplan ⊢
    cases hprepare : options.prepare settings with
    | error reason => rfl
    | ok prepared =>
      cases prepared with
      | inl filter => rfl
      | inr plan =>
        rw [hprepare] at hplan
        cases hplan

/-- **A run that ends early** looks at the file with the settings and at no other, and not at
standard input. -/
theorem run_congr_early {stdin : Stdin} {entry : Text → FileEntry}
    (hentry : ∀ name, options.config = some name → entry name = environment.entry name)
    (hearly : (∃ stage error, stage ≠ .input ∧ options.Fails environment stage error) ∨
      options.printAst = true) :
    options.run { environment with stdin, entry } = options.run environment :=
  run_congr_of_no_plan hentry (plan?_eq_none hearly)

/-- **Where files are named**, standard input is not looked at. -/
theorem run_congr_stdin (hfiles : options.files ≠ []) (stdin : Stdin) :
    options.run { environment with stdin } = options.run environment := by
  cases hplan : options.plan? environment with
  | none => exact run_congr_of_no_plan (fun _ _ => rfl) hplan
  | some plan =>
    obtain ⟨settings, notices, filter, hconfigure, hprint, hcompile, -⟩ := exists_of_plan? hplan
    rw [options.run_eq_of_configure { environment with stdin } hconfigure hprint hcompile,
      options.run_eq_of_configure environment hconfigure hprint hcompile]
    -- the files of the plan are those that were named
    have hnamed : (options.plan settings filter).files ≠ [] := hfiles
    simp only [Plan.run, Plan.scanInput_of_files _ environment.entry hnamed]

end Options

/-- **The first stage that fails decides, and nothing is read before it is needed.** A run loads its
settings, checks its log directives, compiles its filter and reads its input, in this order. (1) It
succeeds just if no stage fails; and if one does, the first that does gives the exit code 1 and what
is said besides log events, after what was said about log directives from outside; nothing is
written unless that stage is the input. (2) If the filter is to be printed and no stage fails, that
is all that is written. (3) If one of the first three stages fails, or the filter is to be printed,
then the run is the same for any other standard input, whether it can be read or not, and any other
files, as long as the file with the settings is the same. (4) If files are named, the run is the
same for any other standard input. (5) A command line that gives no options, or asks for the
version, depends on none of these. -/
theorem run_stages (environment : Environment) :
    (∀ options, Options.ofArguments environment.arguments environment.config = .ok options →
      ∃ outcome, environment.run = .ok outcome ∧
        (outcome.exit = 0 ↔ ∀ stage error, ¬options.Fails environment stage error) ∧
        (∀ stage error, options.FailsFirst environment stage error →
          outcome.exit = 1 ∧
          outcome.stderr = stage.notices environment.directives ++ error.printed ∧
          (stage ≠ .input → outcome.stdout = [])) ∧
        (options.printAst = true → outcome.exit = 0 →
          ∃ filter, compile options.filterText = .ok filter ∧
            outcome.stdout = Utf8.encode (filter.text ++ ['\n'])) ∧
        (((∃ stage error, stage ≠ .input ∧ options.Fails environment stage error) ∨
            options.printAst = true) →
          ∀ (stdin : Stdin) (entry : Text → FileEntry),
            (∀ name, options.config = some name → entry name = environment.entry name) →
            { environment with stdin, entry }.run = .ok outcome) ∧
        (options.files ≠ [] → ∀ stdin, { environment with stdin }.run = .ok outcome)) ∧
    ∀ usage, Options.ofArguments environment.arguments environment.config = .error usage →
      ∀ (stdin : Stdin) (entry : Text → FileEntry),
        { environment with stdin, entry }.run = environment.run := by
  constructor
  · intro options hoptions
    -- a command line with options leaves everything to the run with these options
    have hrun : ∀ (stdin : Stdin) (entry : Text → FileEntry),
        { environment with stdin, entry }.run =
          .ok (options.run { environment with stdin, entry }) := by
      intro stdin entry
      rw [Environment.run, hoptions]
    -- (1) what the first failing stage gives; the exit code follows, since some stage is the first
    -- to fail as soon as any fails
    have hfirst : ∀ stage error, options.FailsFirst environment stage error →
        (options.run environment).exit = 1 ∧
        (options.run environment).stderr =
          stage.notices environment.directives ++ error.printed ∧
        (stage ≠ .input → (options.run environment).stdout = []) := by
      intro stage error hfails
      obtain ⟨written, hwritten, houtcome⟩ := Options.run_of_failsFirst hfails
      rw [houtcome]
      exact ⟨rfl, rfl, hwritten⟩
    have hexit : (options.run environment).exit = 0 ↔
        ∀ stage error, ¬options.Fails environment stage error := by
      constructor
      · intro hzero stage error hfails
        obtain ⟨stage, error, hfails⟩ := Options.exists_failsFirst hfails
        rw [(hfirst stage error hfails).1] at hzero
        cases hzero
      · intro hnone
        exact (Options.run_of_not_fails hnone).1
    refine ⟨options.run environment, hrun _ _, hexit, hfirst, ?_, ?_, ?_⟩
    · -- (2) by its exit code, no stage fails
      intro hprint hzero
      obtain ⟨filter, hcompile, houtcome⟩ :=
        (Options.run_of_not_fails (hexit.mp hzero)).2 hprint
      rw [houtcome]
      exact ⟨filter, hcompile, rfl⟩
    · -- (3) there is no plan that could look at input
      intro hearly stdin entry hentry
      rw [hrun, Options.run_congr_early hentry hearly]
    · -- (4) there may be a plan, but it reads files
      intro hfiles stdin
      rw [hrun stdin environment.entry, Options.run_congr_stdin hfiles]
  · -- (5) the arguments are all that was looked at
    intro usage husage stdin entry
    rw [Environment.run, Environment.run, husage]
    cases usage <;> rfl

/-- The settings cannot be loaded, the filter does not compile and the input does not exist: only
the first is said, and it is said whatever else there is to read. -/
theorem run_stages_three_causes :
    let environment : Environment :=
      { arguments := ["--config".toList, ['c'], "-f".toList, ['f'], ['"']]
        entry := fun _ => .missing FileEntry.notFound }
    (∃ options, Options.ofArguments environment.arguments environment.config = .ok options ∧
      ∀ stage, stage ≠ .directives → ∃ error, options.Fails environment stage error) ∧
    ∃ outcome, environment.run = .ok outcome ∧ outcome.exit = 1 ∧ outcome.stdout = [] ∧
      outcome.stderr = ("Failed to load config: Failed to read config file 'c': " ++
        "No such file or directory (os error 2): " ++
        "No such file or directory (os error 2)\n").toList ∧
      { environment with
        stdin := { bytes := [97] }
        entry := fun name => if name = ['c'] then .missing FileEntry.notFound else .file [97] }.run
          = .ok outcome := by
  intro environment
  let options : Options := { words := [['"']], files := [['f']], config := some ['c'] }
  have harguments : Options.ofArguments environment.arguments environment.config = .ok options := by
    decide +kernel
  have hsettings : options.Fails environment .settings
      (.settings ['c'] (.unreadable FileEntry.notFound)) :=
    .settings rfl rfl
  -- a text that is opened and never closed
  have hfilter : compile options.filterText = .error (.lexical (.unterminatedString 0)) := by
    have hblank : Text.isBlank '"' = false := by decide +kernel
    have hlexeme : lexeme 0 '"' [] = .error (.unterminatedString 0) := rfl
    have hnot : ¬Text.isBlank '"' = true := Bool.eq_false_iff.mp hblank
    change compile ['"'] = _
    rw [compile, tokenize, tokensFrom, if_neg hnot, hlexeme]
  refine ⟨⟨options, harguments, ?_⟩, ?_⟩
  · intro stage hstage
    cases stage with
    | settings => exact ⟨_, hsettings⟩
    | directives => exact absurd rfl hstage
    | filter => exact ⟨_, .filter hfilter⟩
    | input =>
      have hbefore : ([] : List Text).map environment.entry = ([] : List Bytes).map .file := rfl
      exact ⟨_, .file rfl (show options.files = [] ++ ['f'] :: [] from rfl) hbefore rfl⟩
  · have hnone : ∀ before ∈ Stage.earlier .settings, ∀ other,
        ¬options.Fails environment before other := fun _ hmem => absurd hmem List.not_mem_nil
    obtain ⟨outcome, hrun, -, hfirst, -, hearly, -⟩ := (run_stages environment).1 options harguments
    obtain ⟨hexit, hstderr, hstdout⟩ := hfirst .settings _ ⟨hsettings, hnone⟩
    refine ⟨outcome, hrun, hexit, hstdout (by decide), ?_, ?_⟩
    · rw [hstderr]
      decide +kernel
    · refine hearly (.inl ⟨.settings, _, by decide, hsettings⟩) { bytes := [97] } _ ?_
      intro name hname
      obtain rfl := Option.some.inj hname
      rfl

end LogSieve
