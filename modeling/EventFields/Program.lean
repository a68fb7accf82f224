import EventFields.CommandLine.Help
import EventFields.CommandLine.Parser
import EventFields.Settings.Load

/-!
# The program

A run of the program as a function of its words and surroundings: settings are
loaded first, then the command is carried out. Without a command, help is
printed, but only if the settings are sound.
-/

namespace EventFields

/-- What a run finds around it. -/
structure Surroundings where
  files : Files
  /-- The path of the user's file of settings. -/
  userFile? : Option String := none
  environment : List Environment.Variable := []

/-- Why a run fails after its words have been understood. -/
inductive ProgramError where
  | settings (cause : SettingsError)
  | command (cause : CommandError)
  deriving Repr, DecidableEq

namespace ProgramError

/-- The wording of an error. -/
def message : ProgramError → String
  | settings _ => "failed to load configuration"
  | command cause => cause.message

/-- The wordings of what led to an error, from the outermost cause to the innermost. -/
def causeMessages : ProgramError → List String
  | settings cause => [cause.message]
  | command cause => (cause.causes.drop 1).map Cause.message

end ProgramError

/-- How a run ends. -/
inductive Ending where
  | success
  | failure (error : ProgramError)
  | misuse (error : CommandLine.UsageError)
  deriving Repr, DecidableEq

/-- The exit code of an ending. -/
def Ending.code : Ending → Nat
  | success => 0
  | failure _ => 1
  | misuse _ => 2

/-- What a run prints. -/
inductive ProgramOutput where
  | text (content : String)
  | help (level : CommandLine.Level)
  deriving Repr, DecidableEq

/-- The characters of what a run prints. -/
def ProgramOutput.content : ProgramOutput → String
  | text content => content
  | help level => level.helpText

/-- What a run leaves behind. -/
structure ProgramRun where
  output : ProgramOutput := .text ""
  log : List LogEvent := []
  ending : Ending := .success
  deriving Repr, DecidableEq

namespace ProgramRun

/-- The run that only answers. -/
def ofReply : CommandLine.Reply → ProgramRun
  | .help level => { output := .help level }
  | .version => { output := .text CommandLine.versionText }
  | .misuse error => { ending := .misuse error }

/-- The run of a command. -/
def ofCommand (run : CommandRun) : ProgramRun where
  output := .text run.output
  log := run.log
  ending :=
    match run.error? with
    | none => .success
    | some error => .failure (.command error)

end ProgramRun

/-- Carries out a command. -/
def CommandRequest.perform (request : CommandRequest) (files : Files) (settings : Settings) :
    CommandRun :=
  match request with
  | analyze request => request.perform files settings
  | explain request => request.perform files settings

/-- The model file of a command. -/
def CommandRequest.model : CommandRequest → String
  | analyze request => request.model
  | explain request => request.model

namespace Invocation

/-- The files of settings, the one that counts most at the end. -/
def settingsFiles (invocation : Invocation) (userFile? : Option String) : List String :=
  userFile?.toList ++ invocation.config?.toList

/-- All files that are read. -/
def filesToRead (invocation : Invocation) (userFile? : Option String) : List String :=
  invocation.settingsFiles userFile? ++
    (invocation.command?.map CommandRequest.model).toList

/-- Carries out an invocation. -/
def perform (invocation : Invocation) (around : Surroundings) : ProgramRun :=
  let paths := invocation.settingsFiles around.userFile?
  match Settings.load around.files paths around.environment with
  | .error cause => { ending := .failure (.settings cause) }
  | .ok settings =>
      match invocation.command? with
      | none => .ofReply (.help .program)
      | some request => .ofCommand (request.perform around.files settings)

end Invocation

/-- Runs the program on the words of a command line. -/
def runProgram (words : List String) (around : Surroundings) : ProgramRun :=
  match CommandLine.parse words with
  | .error reply => .ofReply reply
  | .ok invocation => invocation.perform around

end EventFields
