import LogSieve.Text.Basic

/-!
# Command-line options

Arguments are read from left to right. Before `--`, one that starts with two dashes is an option by
its long name, with a value after an equals sign; one that starts with a single dash is a cluster
of options of one letter each, of which the first that takes a value takes the rest of the cluster.
An option that takes a value and has none takes the next argument, unless that is an option too.
All other arguments are words of the filter.

The value of an option is judged only when the next argument that means something is read, or at
the end; a name that means nothing is refused before that.
-/

namespace LogSieve

/-- When diagnostics are painted. -/
inductive ColorMode where
  | auto
  | always
  | never
  deriving DecidableEq, Repr

/-- What the command line says. -/
structure Options where
  /-- The words of the filter. -/
  words : List Text := []
  /-- The files to read in the place of standard input. -/
  files : List Text := []
  /-- Print the number of selected lines only. -/
  count : Bool := false
  /-- Select the records that do not satisfy the filter. -/
  invertMatch : Bool := false
  /-- Print the expression of the filter and stop. -/
  printAst : Bool := false
  /-- Print a table of counts at the end. -/
  stats : Bool := false
  /-- Where the settings are. -/
  config : Option Text := none
  /-- When diagnostics are painted. -/
  color : ColorMode := .auto
  /-- How much more is logged. -/
  verbose : Nat := 0
  deriving DecidableEq, Repr

/-- The filter that the words write, joined by single spaces. -/
def Options.filterText (options : Options) : Text :=
  [' '].intercalate options.words

/-- Why the command line gives no options. Two of the reasons are requests. -/
inductive UsageError where
  /-- There is no filter. -/
  | missingRequiredArgument
  /-- No option has the name. -/
  | unknownArgument
  /-- A value is missing, empty, or not one of those allowed. -/
  | invalidValue
  /-- An option is given twice. -/
  | argumentConflict
  /-- An option that takes no value has one. -/
  | tooManyValues
  /-- The help text is asked for. -/
  | displayHelp
  /-- The version is asked for. -/
  | displayVersion
  deriving DecidableEq, Repr

/-- The exit code: requests succeed. -/
def UsageError.exitCode : UsageError → Nat
  | displayHelp => 0
  | displayVersion => 0
  | _ => 2

namespace Command

/-- Options without a value. -/
inductive Flag where
  | count
  | invertMatch
  | printAst
  | stats
  | verbose
  | help
  | version
  deriving DecidableEq, Repr

/-- Options with a value. -/
inductive Setting where
  | file
  | config
  | color
  deriving DecidableEq, Repr

/-- An option. -/
inductive Switch where
  | flag (flag : Flag)
  | setting (setting : Setting)
  deriving DecidableEq, Repr

/-- The options by their long names. -/
def longNames : List (String × Switch) :=
  [("file", .setting .file), ("count", .flag .count), ("invert-match", .flag .invertMatch),
    ("print-ast", .flag .printAst), ("stats", .flag .stats), ("config", .setting .config),
    ("color", .setting .color), ("verbose", .flag .verbose), ("help", .flag .help),
    ("version", .flag .version)]

/-- The options by their letters. -/
def letters : List (Char × Switch) :=
  [('f', .setting .file), ('c', .flag .count), ('x', .flag .invertMatch), ('v', .flag .verbose),
    ('h', .flag .help), ('V', .flag .version)]

/-- The option with a long name. -/
def ofLongName? (name : Text) : Option Switch :=
  longNames.lookup (String.ofList name)

/-- The option with a letter. -/
def ofLetter? (letter : Char) : Option Switch :=
  letters.lookup letter

/-- The options read so far. -/
structure Draft where
  /-- What they say. -/
  options : Options := {}
  /-- Whether the color mode has been given. -/
  hasColor : Bool := false
  /-- The option whose value has not been judged yet, with the value if it has one. -/
  pending : Option (Setting × Option Text) := none

/-- The greatest verbosity. -/
def greatestVerbosity : Nat := 255

/-- The color mode with a name. -/
def colorMode? (name : Text) : Option ColorMode :=
  if name = "auto".toList then some .auto
  else if name = "always".toList then some .always
  else if name = "never".toList then some .never
  else none

namespace Draft

/-- Gives an option its value. -/
def set (draft : Draft) (setting : Setting) (value : Text) : Except UsageError Draft :=
  let options := draft.options
  match setting with
  | .file =>
    if value.isEmpty then .error .invalidValue
    else .ok { draft with options := { options with files := options.files ++ [value] } }
  | .config =>
    if options.config.isSome then .error .argumentConflict
    else if value.isEmpty then .error .invalidValue
    else .ok { draft with options := { options with config := some value } }
  | .color =>
    if draft.hasColor then .error .argumentConflict
    else
      match colorMode? value with
      | none => .error .invalidValue
      | some color => .ok { draft with options := { options with color }, hasColor := true }

/-- Judges the value of the pending option. -/
def settle (draft : Draft) : Except UsageError Draft :=
  match draft.pending with
  | none => .ok draft
  | some (_, none) => .error .invalidValue
  | some (setting, some value) => { draft with pending := none }.set setting value

/-- Turns on a flag that may be given once. -/
def turnOn (draft : Draft) (given : Bool) (options : Options) : Except UsageError Draft :=
  if given then .error .argumentConflict else .ok { draft with options }

/-- Reads an option without a value. -/
def readFlag (draft : Draft) (flag : Flag) : Except UsageError Draft := do
  let draft ← draft.settle
  let options := draft.options
  match flag with
  | .count => draft.turnOn options.count { options with count := true }
  | .invertMatch => draft.turnOn options.invertMatch { options with invertMatch := true }
  | .printAst => draft.turnOn options.printAst { options with printAst := true }
  | .stats => draft.turnOn options.stats { options with stats := true }
  | .verbose =>
    let verbose := min (options.verbose + 1) greatestVerbosity
    .ok { draft with options := { options with verbose } }
  | .help => .error .displayHelp
  | .version => .error .displayVersion

/-- Reads an option with its value, or leaves it pending if the value is to follow. -/
def readSetting (draft : Draft) (setting : Setting) (value : Option Text) :
    Except UsageError Draft := do
  let draft ← draft.settle
  match value with
  | some value => draft.set setting value
  | none => .ok { draft with pending := some (setting, none) }

/-- Reads an option by its long name, which may have a value after an equals sign. -/
def readLong (draft : Draft) (text : Text) : Except UsageError Draft :=
  let name := text.takeWhile (· ≠ '=')
  let value := match text.dropWhile (· ≠ '=') with
    | [] => none
    | _ :: value => some value
  match ofLongName? name with
  | none => .error .unknownArgument
  | some (.flag flag) => if value.isSome then .error .tooManyValues else draft.readFlag flag
  | some (.setting setting) => draft.readSetting setting value

/-- Reads a cluster of options of one letter. An equals sign before a value does not belong to
it. -/
def readCluster (draft : Draft) : Text → Except UsageError Draft
  | [] => .ok draft
  | letter :: rest =>
    match ofLetter? letter with
    | none => .error .unknownArgument
    | some (.flag flag) =>
      match draft.readFlag flag with
      | .error error => .error error
      | .ok draft => readCluster draft rest
    | some (.setting setting) =>
      match rest with
      | [] => draft.readSetting setting none
      | '=' :: value => draft.readSetting setting (some value)
      | value => draft.readSetting setting (some value)

/-- Reads a word of the filter, unless it is the value that the pending option waits for. -/
def readWord (draft : Draft) (word : Text) : Except UsageError Draft :=
  match draft.pending with
  | some (setting, none) => .ok { draft with pending := some (setting, some word) }
  | _ => do
    let draft ← draft.settle
    .ok { draft with options := { draft.options with words := draft.options.words ++ [word] } }

/-- Reads all arguments. -/
def readAll (draft : Draft) : List Text → Except UsageError Draft
  | [] => draft.settle
  | ['-', '-'] :: words => do
    let draft ← draft.settle
    .ok { draft with options := { draft.options with words := draft.options.words ++ words } }
  | ('-' :: '-' :: name) :: arguments =>
    match draft.readLong name with
    | .error error => .error error
    | .ok draft => readAll draft arguments
  | ('-' :: letter :: cluster) :: arguments =>
    match draft.readCluster (letter :: cluster) with
    | .error error => .error error
    | .ok draft => readAll draft arguments
  | word :: arguments =>
    match draft.readWord word with
    | .error error => .error error
    | .ok draft => readAll draft arguments

end Draft

end Command

namespace Options

/-- The options that arguments give. `config` is where the settings are if the arguments do not
say; without a word there is no filter. -/
def ofArguments (arguments : List Text) (config : Option Text) : Except UsageError Options := do
  let draft ← Command.Draft.readAll {} arguments
  let draft ←
    match draft.options.config, config with
    | none, some path => draft.set .config path
    | _, _ => .ok draft
  if draft.options.words.isEmpty then .error .missingRequiredArgument else .ok draft.options

end Options

end LogSieve
