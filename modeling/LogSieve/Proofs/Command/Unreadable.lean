import LogSieve.Proofs.Command.Files

/-!
# A run that meets a file it cannot read

A run reads its files in order and stops at the first name that does not lead to a file. What stands
before it in the order is read as always: a run over `paths ++ more` reads `paths`, and goes on with
`more` only if that succeeds (`Plan.scanFiles_append`). The name itself leaves the sink as it is,
and nothing behind it is looked at.

So the run is decided by the files in front and by the error alone (`Options.run_of_failure`): what
they gave stays written, and everything that would come after reading, the count and the table of
counts, is left out. What a run says is again meant without its log events.

The main statement is `run_unreadable`.
-/

namespace LogSieve

/-- Why a path cannot be read, by what it leads to. -/
def FileEntry.failure? (path : Text) : FileEntry → Option RunError
  | file _ => none
  | directory => some (.reading path isADirectory)
  | missing reason => some (.opening path reason)

/-- Whatever is not a file cannot be read. -/
theorem FileEntry.exists_failure {found : FileEntry} (h : ∀ bytes, found ≠ .file bytes)
    (path : Text) : ∃ error, found.failure? path = some error := by
  cases found with
  | file bytes => exact absurd rfl (h bytes)
  | directory => exact ⟨_, rfl⟩
  | missing reason => exact ⟨_, rfl⟩

namespace Plan

variable (plan : Plan) (entry : Text → FileEntry)

/-- **Files are read in order**: further files are read after the first ones, from the counts and
the sink that these leave, and not at all if one of them fails. -/
theorem scanFiles_append (paths more : List Text) (before : Tally) (sink : Sink) :
    plan.scanFiles entry (paths ++ more) before sink =
      match plan.scanFiles entry paths before sink with
      | (.ok tally, sink) => plan.scanFiles entry more tally sink
      | stopped => stopped := by
  induction paths generalizing before sink with
  | nil => rfl
  | cons path paths ih =>
    rw [List.cons_append, scanFiles, scanFiles]
    cases plan.scanFile entry path sink with
    | mk outcome sink' =>
      cases outcome with
      | ok tally =>
        -- the first file is counted, and both sides go on from there
        exact ih (before.add tally) sink'
      | error error => rfl

variable {entry} {before : List Text} {path : Text} {error : RunError}

/-- A path that cannot be read leaves the sink as it is. -/
theorem scanFile_of_failure (h : (entry path).failure? path = some error) (sink : Sink) :
    plan.scanFile entry path sink = (.error error, sink) := by
  unfold scanFile
  cases hentry : entry path with
  | file bytes =>
    rw [hentry] at h
    cases h
  | directory =>
    rw [hentry] at h
    cases h
    rfl
  | missing reason =>
    rw [hentry] at h
    cases h
    rfl

/-- **Reading stops at the first path that cannot be read**, with what the files before it gave. -/
theorem scanFiles_of_failure (after : List Text) {contents : List Bytes}
    (hbefore : before.map entry = contents.map .file)
    (hpath : (entry path).failure? path = some error) :
    (plan.scanFiles entry (before ++ path :: after) {} {}).1 = .error error ∧
      (plan.scanFiles entry (before ++ path :: after) {} {}).2.bytes =
        contents.flatMap plan.sieve.outputOf := by
  obtain ⟨htally, hbytes⟩ := plan.scanFiles_of_readable entry hbefore {} {} rfl
  rw [scanFiles_append]
  -- only the sink that the readable files leave matters from here on
  generalize plan.scanFiles entry before {} {} = result at htally hbytes
  obtain ⟨outcome, sink⟩ := result
  simp only at htally hbytes
  subst htally
  simp only [scanFiles, plan.scanFile_of_failure hpath, true_and]
  exact hbytes

/-- The outcome of a plan of which one file cannot be read. -/
theorem run_of_failure {after : List Text} (hfiles : plan.files = before ++ path :: after)
    (stdin : Stdin) {contents : List Bytes} (hbefore : before.map entry = contents.map .file)
    (hpath : (entry path).failure? path = some error) :
    plan.run entry stdin = Outcome.ofError (contents.flatMap plan.sieve.outputOf) error := by
  have hinput : plan.scanInput entry stdin = plan.scanFiles entry plan.files {} {} :=
    plan.scanInput_of_files entry (by simp [hfiles]) stdin
  obtain ⟨herror, hbytes⟩ := plan.scanFiles_of_failure after hbefore hpath
  rw [← hfiles, ← hinput] at herror hbytes
  exact plan.run_of_scanInput_eq_error entry herror hbytes

end Plan

namespace RunError

/-- What a run says about a path that does not open. -/
theorem printed_opening (path reason : Text) :
    (opening path reason).printed =
      "Failed to open log file '".toList ++ path ++ "': ".toList ++ reason ++ ['\n'] := by
  simp [printed, message, chain, quotedPath]

/-- What a run says about a path that opens and cannot be read. -/
theorem printed_reading (path reason : Text) :
    (reading path reason).printed =
      "Failed to read log file '".toList ++ path ++ "': ".toList ++ reason ++ ['\n'] := by
  simp [printed, message, chain, quotedPath]

end RunError

/-- Loading settings looks at one file only. -/
theorem Settings.loadOrDefault_congr {entry other : Text → FileEntry} {config : Option Text}
    (h : ∀ name, config = some name → other name = entry name) :
    Settings.loadOrDefault other config = Settings.loadOrDefault entry config := by
  cases config with
  | none => rfl
  | some path => rw [loadOrDefault, loadOrDefault, load, load, h path rfl]

/-- **A run that cannot read one of its files.** Neither the files after it nor standard input nor
the wish for a table take part in what the run leaves. -/
theorem Options.run_of_failure (options : Options) (environment : Environment)
    {settings : Settings} {filter : Expr} {before after : List Text} {path : Text}
    {contents : List Bytes} {error : RunError} (hprint : options.printAst = false)
    (hcompile : compile options.filterText = .ok filter)
    (hsettings : Settings.loadOrDefault environment.entry options.config = .ok settings)
    (hlevel : checkDirectives settings.level = .ok ())
    (hfiles : options.files = before ++ path :: after)
    (hbefore : before.map environment.entry = contents.map .file)
    (hpath : (environment.entry path).failure? path = some error) :
    options.run environment =
      (Outcome.ofError (contents.flatMap (options.sieve settings filter).outputOf) error).after
        ((environment.directives.map directiveNotices).getD []) := by
  have hconfigure := options.configure_eq environment hsettings hlevel
  rw [run_eq_of_configure options environment hconfigure hprint hcompile]
  exact congrArg (Outcome.after · _)
    ((options.plan settings filter).run_of_failure hfiles environment.stdin hbefore hpath)

/-- **A file that cannot be read ends the run cleanly.** Let the settings of a run load with a valid
log level and its filter compile, and let `path` be the first of its files that cannot be opened or,
being a directory, read; an expression is not to be printed. Then the run exits with 1. It has
written what the scans of the files before `path` write, which is nothing if it is to count, and no
count. What it says besides log events, after the notices on log directives from outside, is the one
error: that `path` could not be opened and why, or that it could not be read and why, and no table
of counts. Whether a table is wished for, which files come after `path`, what they and all other
names lead to, and what standard input holds make no difference. -/
theorem run_unreadable {options : Options} {environment : Environment} {settings : Settings}
    {filter : Expr} {before after : List Text} {path : Text} {contents : List Bytes}
    (hprint : options.printAst = false) (hcompile : compile options.filterText = .ok filter)
    (hsettings : Settings.loadOrDefault environment.entry options.config = .ok settings)
    (hlevel : checkDirectives settings.level = .ok ())
    (hfiles : options.files = before ++ path :: after)
    (hbefore : before.map environment.entry = contents.map .file)
    (hpath : ∀ bytes, environment.entry path ≠ .file bytes) :
    let sieve : Sieve :=
      { filter, rules := settings.rules, invert := options.invertMatch, countOnly := options.count }
    let outcome := options.run environment
    let notices := (environment.directives.map directiveNotices).getD []
    outcome.exit = 1 ∧
    outcome.stdout = (contents.flatMap fun bytes => (sieve.scan { bytes } {}).2.bytes) ∧
    (options.count = true → outcome.stdout = []) ∧
    (∀ reason, environment.entry path = .missing reason →
      outcome.stderr = notices ++ "Failed to open log file '".toList ++ path ++
        "': ".toList ++ reason ++ ['\n']) ∧
    (environment.entry path = .directory →
      outcome.stderr = notices ++ "Failed to read log file '".toList ++ path ++
        "': ".toList ++ FileEntry.isADirectory ++ ['\n']) ∧
    (∀ (stats : Bool) (others : List Text) (stdin : Stdin) (entry : Text → FileEntry),
      (∀ name, name ∈ before ∨ name = path ∨ options.config = some name →
        entry name = environment.entry name) →
      ({ options with stats, files := before ++ path :: others } : Options).run
        { environment with stdin, entry } = outcome) ∧
    (Options.ofArguments environment.arguments environment.config = .ok options →
      environment.run = .ok outcome) := by
  intro sieve outcome notices
  obtain ⟨error, herror⟩ := FileEntry.exists_failure hpath path
  have houtcome : outcome =
      (Outcome.ofError (contents.flatMap sieve.outputOf) error).after notices :=
    options.run_of_failure environment hprint hcompile hsettings hlevel hfiles hbefore herror
  have hstderr : outcome.stderr = notices ++ error.printed := by
    rw [houtcome]
    rfl
  refine ⟨by rw [houtcome]; rfl, ?_, fun hcount => ?_, fun reason hmissing => ?_,
    fun hdirectory => ?_, fun stats others stdin entry hentry => ?_, fun harguments => ?_⟩
  · -- the files before the error are scanned one by one, each from an empty sink
    rw [houtcome, sieve.flatMap_scan_bytes]
    rfl
  · rw [houtcome]
    exact sieve.flatMap_outputOf_countOnly hcount contents
  · -- what the name leads to is what decides between the two wordings
    rw [hmissing] at herror
    cases herror
    rw [hstderr, RunError.printed_opening]
    simp only [List.append_assoc]
  · rw [hdirectory] at herror
    cases herror
    rw [hstderr, RunError.printed_reading]
    simp only [List.append_assoc]
  · -- the other run meets the same files up to the same error, and neither looks any further
    let other : Options := { options with stats, files := before ++ path :: others }
    have hsettings' : Settings.loadOrDefault entry options.config = .ok settings := by
      rw [← hsettings]
      exact Settings.loadOrDefault_congr fun name hname => hentry name (.inr (.inr hname))
    have hbefore' : before.map entry = contents.map .file := by
      rw [← hbefore]
      exact List.map_congr_left fun name hname => hentry name (.inl hname)
    have herror' : (entry path).failure? path = some error := by
      rw [hentry path (.inr (.inl rfl))]
      exact herror
    rw [houtcome]
    exact other.run_of_failure { environment with stdin, entry } hprint hcompile hsettings' hlevel
      rfl hbefore' herror'
  · rw [Environment.run, harguments]

/-- A file, a name that leads nowhere, and a file again: what the first one gives is written, and
the error names the second. -/
theorem run_unreadable_second :
    let environment : Environment :=
      { arguments := ["-f".toList, ['f'], "-fg".toList, "-fh".toList, "--stats".toList, ['a']]
        entry := fun name =>
          if name = ['g'] then .missing "No such file or directory (os error 2)".toList
          else .file [97, 61, 49, 10, 120] }
    ∃ outcome, environment.run = .ok outcome ∧ outcome.exit = 1 ∧
      outcome.stdout = [97, 61, 49, 10] ∧
      outcome.stderr =
        "Failed to open log file 'g': No such file or directory (os error 2)\n".toList := by
  intro environment
  let options : Options := { words := [['a']], files := [['f'], ['g'], ['h']], stats := true }
  have hcompile : compile options.filterText = .ok letter.expr := compile_letter
  have hlevel : checkDirectives ({} : Settings).level = .ok () := by decide +kernel
  have hsettings : Settings.loadOrDefault environment.entry options.config = .ok {} := rfl
  have hfiles : options.files = [['f']] ++ ['g'] :: [['h']] := rfl
  have hbefore : [['f']].map environment.entry = [[97, 61, 49, 10, 120]].map .file := rfl
  have hpath : ∀ bytes, environment.entry ['g'] ≠ .file bytes := by
    intro bytes hfile
    cases hfile
  have harguments : Options.ofArguments environment.arguments environment.config = .ok options := by
    decide +kernel
  obtain ⟨hexit, hstdout, -, hstderr, -, -, hrun⟩ :=
    run_unreadable rfl hcompile hsettings hlevel hfiles hbefore hpath
  refine ⟨_, hrun harguments, hexit, ?_, ?_⟩
  · rw [hstdout]
    decide +kernel
  · rw [hstderr _ rfl]
    decide +kernel

end LogSieve
