import LogSieve.Command.Folder
import LogSieve.Command.LogLevel
import LogSieve.Command.Options
import LogSieve.Filter.Compile
import LogSieve.Report.Caret
import LogSieve.Report.Table
import LogSieve.Scan.Sieve
import LogSieve.Settings

/-!
# A run of the program

A run goes through stages, and the first that fails decides the outcome: the settings are loaded,
the log directives are checked, the filter is compiled, and only then is anything read. Directives
from outside never fail; what is wrong with them is noted, and the notices stand before all else
that the run says. `configure` is the first two stages, and `prepare` the third, which either ends
the run or leaves a `Plan`. `Plan.run` reads the files in order, or standard input if there are
none, and stops at the first that cannot be read; what was read before stays written.

Two things are left out. Where the log directives ask for it, a run also logs that its settings were
loaded and its filter compiled, what it starts to read, every line without a record, and at the end
what it counted. These events carry the time of day, and they are no part of an `Outcome`: its
`stderr` is all that is written to standard error besides them. And standard output takes whatever
is written to it, so that a run never meets a reader that went away before the end, which would be
no error but a reason to stop quietly.
-/

namespace LogSieve

/-- Standard input. A directory in its place delivers nothing and then fails. -/
structure Stdin where
  /-- The bytes that can be read. -/
  bytes : Bytes := []
  /-- Why reading fails after them, if it does. -/
  failure : Option Text := none

namespace Stdin

/-- Bytes are a standard input that ends after them. -/
instance : Coe Bytes Stdin :=
  ⟨fun bytes => { bytes }⟩

/-- What a scan reads. -/
def source (stdin : Stdin) : Source :=
  { bytes := stdin.bytes, fails := stdin.failure.isSome }

end Stdin

/-- Everything that a run depends on. -/
structure Environment where
  /-- The arguments of the command line. -/
  arguments : List Text
  /-- What there is to read if no file is named. -/
  stdin : Stdin := {}
  /-- What file names lead to. -/
  entry : Text → FileEntry
  /-- Where the settings are if the arguments do not say. -/
  config : Option Text := none
  /-- Log directives from outside, which replace those of the settings and of the verbosity. -/
  directives : Option Text := none

/-- What a run leaves behind. -/
structure Outcome where
  /-- The exit code. -/
  exit : Nat
  /-- What was written to standard output. -/
  stdout : Bytes := []
  /-- What was written to standard error, log events aside. -/
  stderr : Text := []

/-- Why a run failed. -/
inductive RunError where
  /-- The settings could not be loaded from the path. -/
  | settings (path : Text) (error : SettingsError)
  /-- The log directives are refused. -/
  | directives (text : Text) (error : DirectiveError)
  /-- The filter does not compile. -/
  | filter (color : Bool) (source : Text) (error : FilterError)
  /-- A file could not be opened. -/
  | opening (path reason : Text)
  /-- A file could not be read. -/
  | reading (path reason : Text)
  /-- Standard input could not be read. -/
  | stdin (reason : Text)
  deriving DecidableEq, Repr

namespace RunError

/-- A sequence of causes, each after a colon. -/
def chain (causes : List Text) : Text :=
  [':', ' '].intercalate causes

/-- A path in quotes. -/
def quotedPath (path : Text) : Text :=
  '\'' :: path ++ ['\'']

/-- The wording of the error. What explains why settings are malformed is not part of it. -/
def message : RunError → Text
  | settings path (.unreadable reason) =>
    chain ["Failed to load config".toList,
      "Failed to read config file ".toList ++ quotedPath path ++ ':' :: ' ' :: reason, reason]
  | settings path .malformed =>
    chain ["Failed to load config".toList,
      "Failed to parse config file ".toList ++ quotedPath path, []]
  | directives text error =>
    chain (("invalid log level filter: ".toList ++ text) :: error.messages)
  | filter color source error => Report.renderError color source error
  | opening path reason =>
    chain ["Failed to open log file ".toList ++ quotedPath path, reason]
  | reading path reason =>
    chain ["Failed to read log file ".toList ++ quotedPath path, reason]
  | stdin reason => chain ["Failed to read from stdin".toList, reason]

/-- What an error prints. The explanation that follows malformed settings is left to the reader of
the document. -/
def printed (error : RunError) : Text :=
  match error with
  | settings _ .malformed => error.message
  | _ => error.message ++ ['\n']

end RunError

/-- The outcome of a failed run that had written `stdout`. -/
def Outcome.ofError (stdout : Bytes) (error : RunError) : Outcome :=
  { exit := 1, stdout, stderr := error.printed }

/-- The outcome of a run that prints an expression. -/
def Outcome.ofExpr (expr : Expr) : Outcome :=
  { exit := 0, stdout := Utf8.encode (expr.text ++ ['\n']) }

/-- What a run leaves that is asked for the version. -/
def Outcome.ofVersion : Outcome :=
  { exit := 0, stdout := Utf8.encode "log-filter 0.1.0\n".toList }

/-- The outcome of a run that gave notices before anything else. -/
def Outcome.after (outcome : Outcome) (notices : Text) : Outcome :=
  { outcome with stderr := notices ++ outcome.stderr }

/-- What is left to do once nothing but input is needed. -/
structure Plan where
  /-- How lines are selected. -/
  sieve : Sieve
  /-- The files to read; standard input if there are none. -/
  files : List Text
  /-- Print a table of counts at the end. -/
  stats : Bool

namespace Settings

/-- The settings that a path leads to. -/
def load (entry : Text → FileEntry) (path : Text) : Except SettingsError Settings :=
  match entry path with
  | .file bytes => Settings.ofBytes bytes
  | .directory => .error (.unreadable FileEntry.isADirectory)
  | .missing reason => .error (.unreadable reason)

/-- The settings that a path leads to, or the defaults if there is no path. -/
def loadOrDefault (entry : Text → FileEntry) (path : Option Text) : Except RunError Settings :=
  match path with
  | none => .ok {}
  | some path => (load entry path).mapError (.settings path)

end Settings

namespace Options

/-- Whether diagnostics are painted; standard error is never taken for a terminal. -/
def painted (options : Options) : Bool :=
  options.color = .always

/-- Checks the log directives: those from outside, which are never refused, or else those that the
settings or the verbosity ask for. The result is what is said about them. -/
def checkLogging (options : Options) (settings : Settings) (directives : Option Text) :
    Except RunError Text :=
  match directives with
  | some directives => .ok (directiveNotices directives)
  | none =>
    let directives := directivesFor options.verbose settings.level
    match checkDirectives directives with
    | .error error => .error (.directives directives error)
    | .ok () => .ok []

/-- The settings of a run, and the notices on its log directives. -/
def configure (options : Options) (entry : Text → FileEntry) (directives : Option Text) :
    Except RunError (Settings × Text) := do
  let settings ← Settings.loadOrDefault entry options.config
  let notices ← options.checkLogging settings directives
  pure (settings, notices)

/-- The expression of the filter. -/
def compileFilter (options : Options) : Except RunError Expr :=
  let source := options.filterText
  (compile source).mapError (.filter options.painted source)

/-- The sieve of everything that a run reads. -/
def sieve (options : Options) (settings : Settings) (filter : Expr) : Sieve :=
  { filter, rules := settings.rules, invert := options.invertMatch, countOnly := options.count }

/-- What is left to do with a filter. -/
def plan (options : Options) (settings : Settings) (filter : Expr) : Plan :=
  { sieve := options.sieve settings filter, files := options.files, stats := options.stats }

/-- Everything else before input: an expression to print, or what is left to do. -/
def prepare (options : Options) (settings : Settings) : Except RunError (Expr ⊕ Plan) := do
  let filter ← options.compileFilter
  if options.printAst then pure (.inl filter)
  else pure (.inr (options.plan settings filter))

end Options

namespace Plan

/-- Reads one file. -/
def scanFile (plan : Plan) (entry : Text → FileEntry) (path : Text) (sink : Sink) :
    Except RunError Tally × Sink :=
  match entry path with
  | .missing reason => (.error (.opening path reason), sink)
  | .directory => (.error (.reading path FileEntry.isADirectory), sink)
  | .file bytes =>
    match plan.sieve.scan { bytes } sink with
    | (.ok tally, sink) => (.ok tally, sink)
    | (.error error, sink) => (.error (.reading path error.message), sink)

/-- Reads files in order, adding to a tally, up to the first that cannot be read. -/
def scanFiles (plan : Plan) (entry : Text → FileEntry) :
    List Text → Tally → Sink → Except RunError Tally × Sink
  | [], tally, sink => (.ok tally, sink)
  | path :: paths, tally, sink =>
    match plan.scanFile entry path sink with
    | (.ok more, sink) => plan.scanFiles entry paths (tally.add more) sink
    | stopped => stopped

/-- Reads the files, or standard input if there are none. -/
def scanInput (plan : Plan) (entry : Text → FileEntry) (stdin : Stdin) :
    Except RunError Tally × Sink :=
  match plan.files with
  | [] =>
    match plan.sieve.scan stdin.source {} with
    | (.ok tally, sink) => (.ok tally, sink)
    | (.error error, sink) => (.error (.stdin (stdin.failure.getD error.message)), sink)
  | files => plan.scanFiles entry files {} {}

/-- Carries out a plan. Standard output takes whatever is written to it. -/
def run (plan : Plan) (entry : Text → FileEntry) (stdin : Stdin) : Outcome :=
  match plan.scanInput entry stdin with
  | (.error error, sink) => Outcome.ofError sink.bytes error
  | (.ok tally, sink) =>
    let count :=
      if plan.sieve.countOnly then Utf8.encode (Text.numeral tally.matched ++ ['\n']) else []
    { exit := 0
      stdout := sink.bytes ++ count
      stderr := if plan.stats then Report.tallyTable tally ++ ['\n'] else [] }

end Plan

/-- A run with the given options and settings. -/
def Options.runWith (options : Options) (settings : Settings) (environment : Environment) :
    Outcome :=
  match options.prepare settings with
  | .error error => Outcome.ofError [] error
  | .ok (.inl filter) => Outcome.ofExpr filter
  | .ok (.inr plan) => plan.run environment.entry environment.stdin

/-- A run with the given options. -/
def Options.run (options : Options) (environment : Environment) : Outcome :=
  match options.configure environment.entry environment.directives with
  | .error error => Outcome.ofError [] error
  | .ok (settings, notices) => (options.runWith settings environment).after notices

/-- The plan that a run with the given options gets to, if it is to read any input. -/
def Options.plan? (options : Options) (environment : Environment) : Option Plan :=
  match options.configure environment.entry environment.directives with
  | .error _ => none
  | .ok (settings, _) =>
    match options.prepare settings with
    | .ok (.inr plan) => some plan
    | _ => none

/-- A run of the program. It has no outcome of its own if the command line gives no options, unless
the version is asked for. -/
def Environment.run (environment : Environment) : Except UsageError Outcome :=
  match Options.ofArguments environment.arguments environment.config with
  | .error .displayVersion => .ok Outcome.ofVersion
  | .error error => .error error
  | .ok options => .ok (options.run environment)

end LogSieve
