import LogSieve.Proofs.Scan.Failure
import LogSieve.Proofs.Scan.Inversion

/-!
# A run over many files

A run whose settings load, whose log level is valid and whose filter compiles only has to read its
files. If all of them can be opened and read, it succeeds, and its answer is put together from the
scans of the files one by one.

Standard output goes to a sink without a limit, so that only what is read can stop the reading
(`Sieve.scan_of_source`), and files that can be read never do (`Plan.scanFiles_of_readable`). Each
file starts its own first line. If no file but the last leaves a line open (`Bytes.LinesClosed`),
the lines of the files are the lines of all their bytes in a row (`Sieve.lines_append`). What a scan
writes and counts is a sum over its lines (`Sieve.output_append`, `Sieve.tally_append`), and so over
the files (`Sieve.outputOf_flatten`, `Sieve.tallyOf_flatten`). That makes the run over the files the
same as the run over their bytes on standard input, its table of counts included.

An outcome leaves out log events, and standard output never fails; both restrictions are those of
`Outcome` and `Plan.run`.

The main statement is `run_files`.
-/

namespace LogSieve

/-! ### Scans of one input after another -/

namespace Bytes

/-- No file but the last leaves a line open. -/
def LinesClosed : List Bytes → Prop
  | [] => True
  | [_] => True
  | bytes :: next :: rest => bytes.IsWhole ∧ LinesClosed (next :: rest)

theorem LinesClosed.tail {bytes : Bytes} {contents : List Bytes}
    (h : LinesClosed (bytes :: contents)) : LinesClosed contents := by
  cases contents with
  | nil => trivial
  | cons next rest => exact h.2

end Bytes

namespace Sieve

variable (sieve : Sieve)

/-- The output of lines is that of the first ones and then that of the others. -/
theorem output_append (contents more : List Bytes) :
    sieve.output (contents ++ more) = sieve.output contents ++ sieve.output more := by
  unfold output
  split
  · rfl
  · rw [List.filter_append, List.flatMap_append]

theorem tally_append (contents more : List Bytes) :
    sieve.tally (contents ++ more) = (sieve.tally contents).add (sieve.tally more) := by
  simp only [tally, Tally.add, List.length_append, List.countP_append]

/-- What the scan of some bytes writes if nothing stops it. -/
def outputOf (bytes : Bytes) : Bytes :=
  sieve.output (Source.lines { bytes })

/-- What the scan of some bytes counts if nothing stops it. -/
def tallyOf (bytes : Bytes) : Tally :=
  sieve.tally (Source.lines { bytes })

/-- **A scan into a sink without a limit** writes all that its lines give, fails only if its source
does, and leaves a sink without a limit. -/
theorem scan_of_source (source : Source) (sink : Sink) (hroom : sink.room = none) :
    (sieve.scan source sink).1 =
        (if source.fails then .error .read else .ok (sieve.tally source.lines)) ∧
      (sieve.scan source sink).2.bytes = sink.bytes ++ sieve.output source.lines ∧
      (sieve.scan source sink).2.room = none := by
  obtain ⟨htakes, houtcome⟩ := sieve.scan_spec source sink
  have hfits : sink.Fits (sieve.output source.lines) := Sink.fits_of_room_eq_none hroom _
  refine ⟨?_, ?_, ?_⟩
  · rw [houtcome, if_pos hfits]
  · rw [htakes.bytes_eq, Sink.accepted_of_fits hfits]
  · rw [htakes.room_eq, hroom, Option.map_none]

/-- The scan of bytes into a sink without a limit succeeds. -/
theorem scan_of_bytes (bytes : Bytes) (sink : Sink) (hroom : sink.room = none) :
    (sieve.scan { bytes } sink).1 = .ok (sieve.tallyOf bytes) ∧
      (sieve.scan { bytes } sink).2.bytes = sink.bytes ++ sieve.outputOf bytes ∧
      (sieve.scan { bytes } sink).2.room = none :=
  sieve.scan_of_source { bytes } sink hroom

/-- What scans write that start one by one from an empty sink. -/
theorem flatMap_scan_bytes (contents : List Bytes) :
    (contents.flatMap fun bytes => (sieve.scan { bytes } {}).2.bytes) =
      contents.flatMap sieve.outputOf :=
  List.flatMap_congr fun bytes _ => (sieve.scan_of_bytes bytes {} rfl).2.1

/-- The lines of two inputs, of which the first leaves no line open. -/
theorem lines_append {bytes more : Bytes} (hwhole : bytes.IsWhole) :
    Source.lines { bytes := bytes ++ more } =
      Source.lines { bytes } ++ Source.lines { bytes := more } := by
  obtain ⟨lines, hcut⟩ := exists_cut bytes
  obtain ⟨lines', hcut'⟩ := exists_cut more
  rw [(hcut.append hcut' hwhole).lines_eq, hcut.lines_eq, hcut'.lines_eq, List.map_append]

theorem outputOf_append {bytes : Bytes} (hwhole : bytes.IsWhole) (more : Bytes) :
    sieve.outputOf (bytes ++ more) = sieve.outputOf bytes ++ sieve.outputOf more := by
  rw [outputOf, lines_append hwhole, output_append]
  rfl

theorem tallyOf_append {bytes : Bytes} (hwhole : bytes.IsWhole) (more : Bytes) :
    sieve.tallyOf (bytes ++ more) = (sieve.tallyOf bytes).add (sieve.tallyOf more) := by
  rw [tallyOf, lines_append hwhole, tally_append]
  rfl

theorem outputOf_nil : sieve.outputOf [] = [] := by
  have hlines : Source.lines { bytes := [] } = [] := Cut.nil.lines_eq
  rw [outputOf, hlines, output]
  split <;> rfl

theorem tallyOf_nil : sieve.tallyOf [] = {} := by
  have hlines : Source.lines { bytes := [] } = [] := Cut.nil.lines_eq
  rw [tallyOf, hlines]
  rfl

/-- **Inputs in a row**, if no line is left open between them: what is written and counted is put
together from the single inputs. -/
theorem outputOf_flatten {contents : List Bytes} (h : Bytes.LinesClosed contents) :
    sieve.outputOf contents.flatten = contents.flatMap sieve.outputOf := by
  induction contents with
  | nil => exact sieve.outputOf_nil
  | cons bytes contents ih =>
    rw [List.flatten_cons, List.flatMap_cons, ← ih h.tail]
    cases contents with
    | nil => rw [List.flatten_nil, List.append_nil, outputOf_nil, List.append_nil]
    | cons next rest => exact sieve.outputOf_append h.1 _

theorem tallyOf_flatten {contents : List Bytes} (h : Bytes.LinesClosed contents) :
    sieve.tallyOf contents.flatten = Tally.sum (contents.map sieve.tallyOf) := by
  induction contents with
  | nil => exact sieve.tallyOf_nil
  | cons bytes contents ih =>
    have hsum : Tally.sum ((bytes :: contents).map sieve.tallyOf)
        = (sieve.tallyOf bytes).add (sieve.tallyOf contents.flatten) := by
      rw [ih h.tail]
      rfl
    rw [hsum, List.flatten_cons]
    cases contents with
    | nil =>
      rw [List.flatten_nil, List.append_nil, tallyOf_nil]
      rfl
    | cons next rest => exact sieve.tallyOf_append h.1 _

/-- **Two inputs in a row** are written and counted as they are one after the other. -/
theorem scan_append {bytes : Bytes} (hwhole : bytes.IsWhole) (more : Bytes) {sink : Sink}
    (hroom : sink.room = none) :
    let first := sieve.scan { bytes } sink
    let second := sieve.scan { bytes := more } first.2
    let together := sieve.scan { bytes := bytes ++ more } sink
    ∃ tally tally', first.1 = .ok tally ∧ second.1 = .ok tally' ∧
      together.1 = .ok (tally.add tally') ∧ together.2.bytes = second.2.bytes := by
  intro first second together
  obtain ⟨hfirst, hfirstBytes, hfirstRoom⟩ := sieve.scan_of_bytes bytes sink hroom
  obtain ⟨hsecond, hsecondBytes, -⟩ := sieve.scan_of_bytes more _ hfirstRoom
  obtain ⟨htogether, htogetherBytes, -⟩ := sieve.scan_of_bytes (bytes ++ more) sink hroom
  refine ⟨_, _, hfirst, hsecond, ?_, ?_⟩
  · rw [htogether, sieve.tallyOf_append hwhole]
  · rw [htogetherBytes, hsecondBytes, hfirstBytes, sieve.outputOf_append hwhole, List.append_assoc]

/-- The lines of an output are the selected lines, so that their number is the count. -/
theorem exists_cut_outputOf (h : sieve.countOnly = false) (bytes : Bytes) :
    ∃ contents : List Bytes, (∀ content ∈ contents, Bytes.lineFeed ∉ content) ∧
      sieve.outputOf bytes = contents.flatMap (· ++ [Bytes.lineFeed]) ∧
      (sieve.tallyOf bytes).matched = contents.length := by
  obtain ⟨lines, hcut⟩ := exists_cut bytes
  refine ⟨sieve.selected (lines.map Bytes.content), fun content hcontent => ?_, ?_, ?_⟩
  · exact hcut.lineFeed_notMem content (List.mem_of_mem_filter hcontent)
  · rw [outputOf, hcut.lines_eq, sieve.output_eq_flatMap _ h]
  · rw [tallyOf, hcut.lines_eq, matched_tally]

/-- **As many lines are printed as are counted**, over all inputs. -/
theorem exists_cut_flatMap_outputOf (h : sieve.countOnly = false) (contents : List Bytes) :
    ∃ lines, Cut (contents.flatMap sieve.outputOf) lines ∧
      lines.length = (Tally.sum (contents.map sieve.tallyOf)).matched := by
  have hall : ∃ printed : List Bytes, (∀ line ∈ printed, Bytes.lineFeed ∉ line) ∧
      contents.flatMap sieve.outputOf = printed.flatMap (· ++ [Bytes.lineFeed]) ∧
      printed.length = (Tally.sum (contents.map sieve.tallyOf)).matched := by
    induction contents with
    | nil => exact ⟨[], by simp, rfl, rfl⟩
    | cons bytes contents ih =>
      obtain ⟨printed, hprinted, hbytes, hlength⟩ := ih
      obtain ⟨first, hfirst, houtput, hmatched⟩ := sieve.exists_cut_outputOf h bytes
      refine ⟨first ++ printed, ?_, ?_, ?_⟩
      · rw [List.forall_mem_append]
        exact ⟨hfirst, hprinted⟩
      · rw [List.flatMap_cons, List.flatMap_append, houtput, hbytes]
      · rw [List.length_append, hlength, ← hmatched]
        rfl
  obtain ⟨printed, hprinted, hbytes, hlength⟩ := hall
  rw [hbytes]
  exact ⟨_, cut_flatMap hprinted, by rw [List.length_map, hlength]⟩

/-- A scan that counts writes nothing. -/
theorem flatMap_outputOf_countOnly (h : sieve.countOnly = true) (contents : List Bytes) :
    contents.flatMap sieve.outputOf = [] := by
  rw [List.flatMap_eq_nil_iff]
  intro bytes _
  rw [outputOf, output, if_pos h]

end Sieve

/-! ### Reading the files -/

namespace Plan

variable (plan : Plan) (entry : Text → FileEntry)

/-- **Files that can be read are all read**, each after the other into the same sink. -/
theorem scanFiles_of_readable {paths : List Text} {contents : List Bytes}
    (h : paths.map entry = contents.map .file) (before : Tally) (sink : Sink)
    (hroom : sink.room = none) :
    (plan.scanFiles entry paths before sink).1 =
        .ok (before.add (Tally.sum (contents.map plan.sieve.tallyOf))) ∧
      (plan.scanFiles entry paths before sink).2.bytes =
        sink.bytes ++ contents.flatMap plan.sieve.outputOf := by
  induction paths generalizing contents before sink with
  | nil =>
    obtain rfl : contents = [] := List.map_eq_nil_iff.mp h.symm
    rw [scanFiles, List.flatMap_nil, List.append_nil]
    exact ⟨rfl, rfl⟩
  | cons path paths ih =>
    cases contents with
    | nil => cases h
    | cons bytes contents =>
      obtain ⟨hpath, hpaths⟩ := List.cons.inj h
      obtain ⟨htally, hbytes, hleft⟩ := plan.sieve.scan_of_bytes bytes sink hroom
      rw [scanFiles, scanFile, hpath]
      simp only
      generalize plan.sieve.scan { bytes } sink = result at htally hbytes hleft
      obtain ⟨outcome, sink'⟩ := result
      simp only at htally
      subst htally
      -- the first file is counted, and the others go on with the sink that it leaves
      obtain ⟨hrest, hrestBytes⟩ := ih hpaths (before.add (plan.sieve.tallyOf bytes)) _ hleft
      simp only
      constructor
      · rw [hrest, List.map_cons, Tally.add_sum_cons]
      · rw [hrestBytes, hbytes, List.flatMap_cons, List.append_assoc]

/-- The outcome of a plan whose input is read to the end. -/
def outcomeOf (plan : Plan) (output : Bytes) (tally : Tally) : Outcome where
  exit := 0
  stdout := output ++
    if plan.sieve.countOnly then Utf8.encode (Text.numeral tally.matched ++ ['\n']) else []
  stderr := if plan.stats then Report.tallyTable tally ++ ['\n'] else []

theorem run_of_scanInput {stdin : Stdin} {output : Bytes} {tally : Tally}
    (htally : (plan.scanInput entry stdin).1 = .ok tally)
    (hbytes : (plan.scanInput entry stdin).2.bytes = output) :
    plan.run entry stdin = plan.outcomeOf output tally := by
  rw [run]
  generalize plan.scanInput entry stdin = result at htally hbytes
  obtain ⟨outcome, sink⟩ := result
  simp only at htally hbytes
  subst htally hbytes
  rfl

/-- The outcome of a plan whose input is not read to the end. -/
theorem run_of_scanInput_eq_error {stdin : Stdin} {output : Bytes} {error : RunError}
    (herror : (plan.scanInput entry stdin).1 = .error error)
    (hbytes : (plan.scanInput entry stdin).2.bytes = output) :
    plan.run entry stdin = Outcome.ofError output error := by
  rw [run]
  generalize plan.scanInput entry stdin = result at herror hbytes
  obtain ⟨outcome, sink⟩ := result
  simp only at herror hbytes
  subst herror hbytes
  rfl

/-- Without files, standard input is read, and all that it delivers is written and counted. Only if
it fails is there no tally. -/
theorem scanInput_of_no_files (h : plan.files = []) (stdin : Stdin) :
    (plan.scanInput entry stdin).1 =
        (match stdin.failure with
          | none => .ok (plan.sieve.tally stdin.source.lines)
          | some reason => .error (.stdin reason)) ∧
      (plan.scanInput entry stdin).2.bytes = plan.sieve.output stdin.source.lines := by
  obtain ⟨hresult, hbytes, -⟩ := plan.sieve.scan_of_source stdin.source {} rfl
  have hfails : stdin.source.fails = stdin.failure.isSome := rfl
  rw [hfails] at hresult
  rw [scanInput, h]
  simp only
  -- only the two results of the scan matter from here on
  generalize plan.sieve.scan stdin.source {} = result at hresult hbytes
  obtain ⟨outcome, sink⟩ := result
  simp only at hresult hbytes
  subst hresult
  cases stdin.failure with
  | none => exact ⟨rfl, hbytes⟩
  | some reason => exact ⟨rfl, hbytes⟩

/-- Standard input that can be read to its end. -/
theorem run_of_stdin (h : plan.files = []) {stdin : Stdin} (hend : stdin.failure = none) :
    plan.run entry stdin =
      plan.outcomeOf (plan.sieve.outputOf stdin.bytes) (plan.sieve.tallyOf stdin.bytes) := by
  obtain ⟨bytes, failure⟩ := stdin
  simp only at hend
  subst hend
  obtain ⟨htally, hbytes⟩ := plan.scanInput_of_no_files entry h { bytes }
  exact plan.run_of_scanInput entry htally hbytes

/-- **Standard input that fails** ends the run. The lines before the failure have been written. -/
theorem run_of_stdin_failure (h : plan.files = []) {stdin : Stdin} {reason : Text}
    (hfails : stdin.failure = some reason) :
    plan.run entry stdin =
      Outcome.ofError (plan.sieve.output stdin.source.lines) (.stdin reason) := by
  obtain ⟨herror, hbytes⟩ := plan.scanInput_of_no_files entry h stdin
  rw [hfails] at herror
  exact plan.run_of_scanInput_eq_error entry herror hbytes

/-- With files, standard input is not looked at. -/
theorem scanInput_of_files (h : plan.files ≠ []) (stdin : Stdin) :
    plan.scanInput entry stdin = plan.scanFiles entry plan.files {} {} := by
  unfold scanInput
  split
  · next hnil => exact absurd hnil h
  · rfl

/-- **Files that can be read** give their outputs in order and the sum of their counts. -/
theorem run_of_files (h : plan.files ≠ []) (stdin : Stdin) {contents : List Bytes}
    (hcontents : plan.files.map entry = contents.map .file) :
    plan.run entry stdin = plan.outcomeOf (contents.flatMap plan.sieve.outputOf)
      (Tally.sum (contents.map plan.sieve.tallyOf)) := by
  have hscan := plan.scanFiles_of_readable entry hcontents {} {} rfl
  rw [Tally.empty_add, ← plan.scanInput_of_files entry h stdin] at hscan
  exact plan.run_of_scanInput entry hscan.1 hscan.2

end Plan

/-! ### Runs -/

namespace Options

variable (options : Options) (environment : Environment) {settings : Settings} {filter : Expr}

/-- The levels that a verbosity stands for are valid. -/
theorem checkDirectives_directivesFor (verbose : Nat) {level : Text}
    (h : checkDirectives level = .ok ()) :
    checkDirectives (directivesFor verbose level) = .ok () := by
  unfold directivesFor
  split
  · exact h
  · rfl
  · rfl
  · rfl

/-- A run is configured if its settings load and its log directives are not refused. -/
theorem configure_eq_ok_iff {options : Options} {entry : Text → FileEntry}
    {directives : Option Text} {notices : Text} :
    options.configure entry directives = .ok (settings, notices) ↔
      Settings.loadOrDefault entry options.config = .ok settings ∧
        options.checkLogging settings directives = .ok notices := by
  unfold configure
  cases Settings.loadOrDefault entry options.config with
  | error reason => exact iff_of_false (fun h => nomatch h) (fun h => nomatch h.1)
  | ok loaded =>
    simp only [bind, Except.bind, Except.ok.injEq]
    cases hcheck : options.checkLogging loaded directives with
    | error reason =>
      refine iff_of_false (fun h => nomatch h) ?_
      rintro ⟨rfl, h⟩
      rw [hcheck] at h
      cases h
    | ok said =>
      simp only [pure, Except.pure, Except.ok.injEq, Prod.mk.injEq]
      constructor
      · rintro ⟨rfl, rfl⟩
        exact ⟨rfl, hcheck⟩
      · rintro ⟨rfl, h⟩
        exact ⟨rfl, Except.ok.inj (hcheck.symm.trans h)⟩

/-- **Settings that load and have a valid level configure a run.** Directives from outside are never
refused, and what is said about them does not depend on anything else. -/
theorem configure_eq
    (hsettings : Settings.loadOrDefault environment.entry options.config = .ok settings)
    (hlevel : checkDirectives settings.level = .ok ()) :
    options.configure environment.entry environment.directives
      = .ok (settings, (environment.directives.map directiveNotices).getD []) := by
  have hlogging : options.checkLogging settings environment.directives
      = .ok ((environment.directives.map directiveNotices).getD []) := by
    unfold checkLogging
    cases environment.directives with
    | some directives => rfl
    | none => simp only [checkDirectives_directivesFor options.verbose hlevel, Option.map_none,
        Option.getD_none]
  exact configure_eq_ok_iff.mpr ⟨hsettings, hlogging⟩

/-- Settings that load and have a valid level configure a run, whatever is asked for from
outside. -/
theorem exists_configure
    (hsettings : Settings.loadOrDefault environment.entry options.config = .ok settings)
    (hlevel : checkDirectives settings.level = .ok ()) :
    ∃ notices, options.configure environment.entry environment.directives
      = .ok (settings, notices) :=
  ⟨_, options.configure_eq environment hsettings hlevel⟩

/-- What is prepared for a filter that compiles. -/
theorem prepare_of_compile {options : Options}
    (hcompile : compile options.filterText = .ok filter) :
    options.prepare settings =
      if options.printAst then .ok (.inl filter)
      else .ok (.inr (options.plan settings filter)) := by
  rw [prepare, compileFilter]
  simp only [hcompile, bind, Except.bind, Except.mapError]
  rfl

/-- **A run that gets as far as its input** carries out its plan, after the notices on its log
directives. -/
theorem run_eq_of_configure {notices : Text}
    (hconfigure : options.configure environment.entry environment.directives
      = .ok (settings, notices))
    (hprint : options.printAst = false) (hcompile : compile options.filterText = .ok filter) :
    options.run environment =
      ((options.plan settings filter).run environment.entry environment.stdin).after notices := by
  have hprepare : options.prepare settings = .ok (.inr (options.plan settings filter)) := by
    rw [prepare_of_compile hcompile, hprint]
    rfl
  rw [run]
  simp only [hconfigure, runWith, hprepare]

variable {notices : Text} {contents : List Bytes}

/-- What a run leaves that reads all of its files. -/
theorem run_of_files
    (hconfigure : options.configure environment.entry environment.directives
      = .ok (settings, notices))
    (hprint : options.printAst = false) (hcompile : compile options.filterText = .ok filter)
    (hfiles : options.files ≠ [])
    (hcontents : options.files.map environment.entry = contents.map .file) :
    options.run environment =
      Outcome.after ((options.plan settings filter).outcomeOf
        (contents.flatMap (options.sieve settings filter).outputOf)
        (Tally.sum (contents.map (options.sieve settings filter).tallyOf))) notices := by
  rw [run_eq_of_configure options environment hconfigure hprint hcompile]
  exact congrArg (Outcome.after · notices)
    ((options.plan settings filter).run_of_files environment.entry hfiles environment.stdin
      hcontents)

/-- What a run writes that does not count. -/
theorem stdout_run_of_files
    (hconfigure : options.configure environment.entry environment.directives
      = .ok (settings, notices))
    (hprint : options.printAst = false) (hcompile : compile options.filterText = .ok filter)
    (hfiles : options.files ≠ [])
    (hcontents : options.files.map environment.entry = contents.map .file)
    (hcount : options.count = false) :
    (options.run environment).stdout =
      contents.flatMap (options.sieve settings filter).outputOf := by
  have hwrites : (options.plan settings filter).sieve.countOnly = false := hcount
  rw [run_of_files options environment hconfigure hprint hcompile hfiles hcontents]
  simp [Outcome.after, Plan.outcomeOf, hwrites]

end Options

/-- **The answer over many files.** Let the settings of a run load with a valid log level, its
filter compile, and all of its files, of which there is at least one, be readable; an expression is
not to be printed. Then the run exits with 0. It writes what the scans of the single files write, in
the order of the arguments; if it is to count, it writes the total of their selected lines in place
of it, and that is the number of lines that it writes when it is not to count. If every file that
has another one after it is empty or ends with a line feed, the run is the same as the one that
reads the bytes of all files in a row from standard input; likewise for any scan, two inputs in a
row are written and counted as they are one after the other. What the run says, here and there, is
said besides log events. -/
theorem run_files {options : Options} {environment : Environment} {settings : Settings}
    {filter : Expr} {contents : List Bytes} (hprint : options.printAst = false)
    (hcompile : compile options.filterText = .ok filter)
    (hsettings : Settings.loadOrDefault environment.entry options.config = .ok settings)
    (hlevel : checkDirectives settings.level = .ok ()) (hfiles : options.files ≠ [])
    (hcontents : options.files.map environment.entry = contents.map .file) :
    let sieve : Sieve :=
      { filter, rules := settings.rules, invert := options.invertMatch, countOnly := options.count }
    let outcome := options.run environment
    outcome.exit = 0 ∧
    (∃ tallies : List Tally,
      contents.map (fun bytes => (sieve.scan { bytes } {}).1) = tallies.map .ok ∧
      let total := (tallies.map (·.matched)).sum
      (options.count = false →
        outcome.stdout = contents.flatMap fun bytes => (sieve.scan { bytes } {}).2.bytes) ∧
      (options.count = true →
        outcome.stdout = Utf8.encode (Text.numeral total ++ ['\n']) ∧
        ∃ lines, Cut (({ options with count := false } : Options).run environment).stdout lines ∧
          lines.length = total)) ∧
    (Bytes.LinesClosed contents →
      outcome = ({ options with files := [] } : Options).run
        { environment with stdin := contents.flatten }) ∧
    ∀ (any : Sieve) (bytes more : Bytes), bytes.IsWhole →
      let first := any.scan { bytes } {}
      let second := any.scan { bytes := more } first.2
      let together := any.scan { bytes := bytes ++ more } {}
      ∃ tally tally', first.1 = .ok tally ∧ second.1 = .ok tally' ∧
        together.1 = .ok (tally.add tally') ∧ together.2.bytes = second.2.bytes := by
  intro sieve outcome
  obtain ⟨notices, hconfigure⟩ :=
    options.exists_configure environment hsettings hlevel
  have houtcome : outcome = Outcome.after ((options.plan settings filter).outcomeOf
      (contents.flatMap sieve.outputOf) (Tally.sum (contents.map sieve.tallyOf))) notices :=
    options.run_of_files environment hconfigure hprint hcompile hfiles hcontents
  refine ⟨by rw [houtcome]; rfl,
    ⟨contents.map sieve.tallyOf, ?_, fun hcount => ?_, fun hcount => ⟨?_, ?_⟩⟩,
    fun hclosed => ?_, fun any bytes more hwhole => any.scan_append hwhole more rfl⟩
  · -- each file is scanned from an empty sink here, and from what the files before it left in the
    -- run; the counts are the same
    rw [List.map_map]
    exact List.map_congr_left fun bytes _ => (sieve.scan_of_bytes bytes {} rfl).1
  · rw [sieve.flatMap_scan_bytes]
    exact options.stdout_run_of_files environment hconfigure hprint hcompile hfiles hcontents hcount
  · -- a scan that counts writes nothing, so the total is all that is written
    have hnone := sieve.flatMap_outputOf_countOnly hcount contents
    have hcounts : (options.plan settings filter).sieve.countOnly = true := hcount
    rw [houtcome, hnone]
    simp [Outcome.after, Plan.outcomeOf, hcounts, Tally.sum]
  · -- the same run without the count writes the lines that are counted here: whether a line is
    -- selected does not depend on whether it is written
    let writing : Options := { options with count := false }
    have hstdout := writing.stdout_run_of_files environment hconfigure hprint hcompile hfiles
      hcontents rfl
    obtain ⟨lines, hcut, hlength⟩ :=
      (writing.sieve settings filter).exists_cut_flatMap_outputOf rfl contents
    rw [hstdout]
    refine ⟨lines, hcut, hlength.trans ?_⟩
    rfl
  · -- the run over standard input has the same stages before it and the same sieve, so that only
    -- output and tally are to be compared; no line goes over the end of a file
    let reading : Options := { options with files := [] }
    have hrun := reading.run_eq_of_configure { environment with stdin := contents.flatten }
      hconfigure hprint hcompile
    rw [houtcome, hrun, Plan.run_of_stdin _ _ rfl rfl]
    have houtput : (reading.plan settings filter).sieve.outputOf contents.flatten =
        contents.flatMap sieve.outputOf := sieve.outputOf_flatten hclosed
    have htally : (reading.plan settings filter).sieve.tallyOf contents.flatten =
        Tally.sum (contents.map sieve.tallyOf) := sieve.tallyOf_flatten hclosed
    rw [houtput, htally]
    rfl

/-- Two files, of which the first ends its line and the second does not: counting their lines is
counting those of standard input. -/
theorem run_files_two :
    let options : Options := { words := [['a']], files := [['f'], ['g']], count := true }
    let environment : Environment :=
      { arguments := ["-cf".toList, ['f'], "-f".toList, ['g'], ['a']]
        entry := fun name => .file (if name = ['f'] then [97, 61, 49, 10] else [97, 61, 50]) }
    (options.run environment).exit = 0 ∧
      options.run environment = ({ options with files := [] } : Options).run
        { environment with stdin := { bytes := [97, 61, 49, 10, 97, 61, 50] } } := by
  intro options environment
  have hcompile : compile options.filterText = .ok letter.expr := compile_letter
  have hlevel : checkDirectives ({} : Settings).level = .ok () := by decide +kernel
  have hcontents : options.files.map environment.entry =
      [[97, 61, 49, 10], [97, 61, 50]].map .file := rfl
  have hsettings : Settings.loadOrDefault environment.entry options.config = .ok {} := rfl
  obtain ⟨hexit, -, hstdin, -⟩ :=
    run_files rfl hcompile hsettings hlevel (by decide) hcontents
  exact ⟨hexit, hstdin ⟨.inr rfl, trivial⟩⟩

end LogSieve
