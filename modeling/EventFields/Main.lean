import EventFields.Program

/-!
# The executable

Reads what a run needs, runs the program and prints what it leaves behind.
-/

namespace EventFields

/-- The content of a file, if it can be read. -/
def readFile? (path : String) : IO (Option String) := do
  match ← (IO.FS.readFile path).toBaseIO with
  | .ok content => return some content
  | .error _ => return none

/-- The variables of the environment. -/
def environment : IO (List Environment.Variable) := do
  let entries := ((← readFile? "/proc/self/environ").getD "").splitOn "\x00"
  return entries.filterMap fun entry =>
    match entry.splitOn "=" with
    | name :: value@(_ :: _) => some (name, "=".intercalate value)
    | _ => none

/-- The path of the user's file of settings. -/
def userFile : IO (Option String) := do
  let home? := (← IO.getEnv "HOME").map (· ++ "/.config")
  let directory? :=
    match ← IO.getEnv "XDG_CONFIG_HOME" with
    | some directory => if directory.startsWith "/" then some directory else home?
    | none => home?
  return directory?.map (· ++ "/evgen/config.toml")

/-- The contents of files that can be read. -/
def readFiles (paths : List String) : IO Files := do
  let contents ← paths.mapM fun path => do return (path, ← readFile? path)
  return fun path => (contents.lookup path).join

/-- A log event as a line. -/
def LogEvent.line (event : LogEvent) : String :=
  let level :=
    match event.level with
    | .info => "INFO"
    | .warn => "WARN"
  let fields := event.fields.map fun (name, value) =>
    " " ++ name ++ "=" ++
      match value with
      | .text text => Text.quoted text
      | .count count => toString count
  level ++ " " ++ event.message ++ String.join fields

/-- What is told beside the output: the log, of which only warnings are told
unless everything is asked for, and why a run fails. The log has no events for
debugging, so none are told even if everything is asked for, and no variable of
the environment has a say in which events are told. -/
def ProgramRun.notes (run : ProgramRun) (verbose : Bool) : List String :=
  let events := if verbose then run.log else run.log.filter (·.level = .warn)
  events.map LogEvent.line ++
    match run.ending with
    | .success => []
    | .failure error =>
        let causes := error.causeMessages
        ("Error: " ++ error.message) ::
          (if causes.isEmpty then [] else "" :: "Caused by:" :: causes.map ("    " ++ ·))
    | .misuse error => ["error: " ++ error.message]

end EventFields

open EventFields in
/-- Runs the program on the words of its command line. -/
def main (words : List String) : IO UInt32 := do
  let user? ← userFile
  let invocation := (CommandLine.parse words).toOption.getD {}
  let run := runProgram words {
    files := ← readFiles (invocation.filesToRead user?)
    userFile? := user?
    environment := ← environment }
  IO.print run.output.content
  run.notes invocation.verbose |>.forM IO.eprintln
  return run.ending.code.toUInt32
