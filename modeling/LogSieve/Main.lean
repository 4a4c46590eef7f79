import LogSieve.Command.Session

/-!
# The program

Everything that a run needs from outside is fetched here, and everything that it leaves is written
here. The file with the settings is fetched first, and input only for a run that gets to a plan
(`Options.plan?`): a run that ends before that does not wait for standard input. Files are fetched
up to the first that cannot be read, since no run looks behind it.
-/

namespace LogSieve.Main

/-- What a name leads to where the system gives an error with the code; some calls give the
negation of the code. -/
def entryOfCode (code : UInt32) (wording : String) : FileEntry :=
  match (min code (0 - code)).toNat with
  | 20 => .missing FileEntry.notADirectory
  | 21 => .directory
  | 36 => .missing FileEntry.nameTooLong
  | _ => .missing wording.toList

/-- What a name leads to that cannot be read. -/
def entryOfError (error : IO.Error) : FileEntry :=
  match error with
  | .noFileOrDirectory .. => .missing FileEntry.notFound
  | .inappropriateType _ code _ => entryOfCode code (toString error)
  | .invalidArgument _ code _ => entryOfCode code (toString error)
  | error => .missing (toString error).toList

/-- What the file system has under a name. -/
def readEntry (name : Text) : IO FileEntry := do
  try
    let bytes ← IO.FS.readBinFile (String.ofList name)
    pure (.file bytes.toList)
  catch error => pure (entryOfError error)

/-- What the file system has under names, up to the first that does not lead to a file. -/
def readEntries : List Text → IO (List (Text × FileEntry))
  | [] => pure []
  | name :: names => do
    match ← readEntry name with
    | .file bytes => pure ((name, .file bytes) :: (← readEntries names))
    | found => pure [(name, found)]

/-- What a name leads to by a list of entries. -/
def lookup (entries : List (Text × FileEntry)) (name : Text) : FileEntry :=
  (entries.lookup name).getD (.missing FileEntry.notFound)

/-- All of standard input. -/
def readStdin : IO Stdin := do
  try
    let bytes ← (← IO.getStdin).readBinToEnd
    pure { bytes := bytes.toList }
  catch error =>
    match entryOfError error with
    | .missing reason => pure { failure := some reason }
    | _ => pure { failure := some FileEntry.isADirectory }

/-- The environment with everything that a run with the given options looks at. -/
def fetchInput (environment : Environment) (options : Options) : IO Environment := do
  let settings ← readEntries options.config.toList
  let environment := { environment with entry := lookup settings }
  match options.plan? environment with
  | none => pure environment
  | some plan =>
    if plan.files.isEmpty then pure { environment with stdin := ← readStdin }
    else
      let files ← readEntries plan.files
      pure { environment with entry := lookup (settings ++ files) }

/-- Everything that a run with the given arguments depends on. -/
def fetch (arguments : List String) : IO Environment := do
  let config ← IO.getEnv "LOG_FILTER_CONFIG"
  let directives ← IO.getEnv "RUST_LOG"
  let environment : Environment :=
    { arguments := arguments.map (·.toList)
      entry := lookup []
      config := config.map (·.toList)
      directives := directives.map (·.toList) }
  match Options.ofArguments environment.arguments environment.config with
  | .error _ => pure environment
  | .ok options => fetchInput environment options

/-- Writes what a run leaves, and gives its exit code. -/
def finish (outcome : Outcome) : IO UInt32 := do
  let stdout ← IO.getStdout
  stdout.write ⟨outcome.stdout.toArray⟩
  stdout.flush
  (← IO.getStderr).putStr (String.ofList outcome.stderr)
  pure (UInt32.ofNat outcome.exit)

/-- How the program is called. -/
def usage : String :=
  "Usage: log-filter [-c] [-x] [-v] [--print-ast] [--stats] [--color MODE] [--config PATH] " ++
    "[-f PATH]... EXPRESSION..."

/-- Reports a command line that gives no options. -/
def reportUsage (error : UsageError) : IO UInt32 := do
  if error.exitCode = 0 then IO.println usage else IO.eprintln usage
  pure (UInt32.ofNat error.exitCode)

end LogSieve.Main

/-- Filters log lines. -/
def main (arguments : List String) : IO UInt32 := do
  match (← LogSieve.Main.fetch arguments).run with
  | .error error => LogSieve.Main.reportUsage error
  | .ok outcome => LogSieve.Main.finish outcome
