import EventFields.Command
import EventFields.CommandLine.Argument

/-!
# Invocations

What a command line asks for, once its words have been told apart.
-/

namespace EventFields

/-- A command with what is asked of it. -/
inductive CommandRequest where
  | analyze (request : AnalyzeRequest)
  | explain (request : ExplainRequest)
  deriving Repr, DecidableEq

/-- What a command line asks for. -/
structure Invocation where
  verbose : Bool := false
  /-- A file with settings for this run. -/
  config? : Option String := none
  command? : Option CommandRequest := none
  deriving Repr, DecidableEq

namespace CommandLine

/-- Why a command line asks for nothing. -/
inductive UsageError where
  /-- An argument that has to be given is not. -/
  | missingArgument
  /-- There is no such option, or no place for a further word. -/
  | unknownArgument
  /-- An argument that may be given once is given again. -/
  | repeatedArgument
  /-- An option lacks its value, or a path is empty. -/
  | invalidValue
  /-- An option has a value and must not. -/
  | unexpectedValue
  /-- There is no such command. -/
  | unknownCommand
  deriving Repr, DecidableEq

namespace UsageError

/-- The wording of an error. -/
def message : UsageError → String
  | missingArgument => "a required argument is missing"
  | unknownArgument => "there is an unexpected argument"
  | repeatedArgument => "an argument is given more than once"
  | invalidValue => "a value is missing or invalid"
  | unexpectedValue => "an option has an unexpected value"
  | unknownCommand => "the subcommand is not recognized"

end UsageError

/-- What a command line is answered with, instead of being carried out. -/
inductive Reply where
  | help (level : Level)
  | version
  | misuse (error : UsageError)
  deriving Repr, DecidableEq

/-- Arguments and their values in the order in which they were given. An
argument without values has an empty one. -/
abbrev Given := List (Argument × String)

namespace Given

/-- Whether an argument was given. -/
def has (given : Given) (argument : Argument) : Bool :=
  given.any (·.1 = argument)

/-- The values of an argument. -/
def values (given : Given) (argument : Argument) : List String :=
  (given.filter (·.1 = argument)).map Prod.snd

/-- The last value of an argument. -/
def value? (given : Given) (argument : Argument) : Option String :=
  (given.values argument).getLast?

/-- Adds an argument with the value that was read for it, if there was one. -/
def add (given : Given) (argument : Argument) (value? : Option String) :
    Except Reply Given :=
  if argument.hasValue && value?.isNone then .error (.misuse .invalidValue)
  else if !argument.isRepeatable && given.has argument then
    .error (.misuse .repeatedArgument)
  else if argument.isPath && value? = some "" then .error (.misuse .invalidValue)
  else .ok (given ++ [(argument, value?.getD "")])

/-- The request for an analysis, if the model is given. -/
def analyzeRequest? (given : Given) : Option AnalyzeRequest := do
  let model ← given.value? .model
  return {
    model
    json := given.has .json
    denyWarnings := given.has .denyWarnings
    parallel := given.has .parallel
    toInclude := given.values .toInclude
    toExclude := given.values .toExclude
    overrideType? := given.value? .overrideType }

/-- The request for an explanation, if the model and the interface are given. -/
def explainRequest? (given : Given) : Option ExplainRequest := do
  let model ← given.value? .model
  let interface ← given.value? .interface
  return { model, interface, overrideType? := given.value? .overrideType }

/-- The invocation of the program with a command. What a command line says
about the program after the name of the command counts more than before. -/
def invocation (given : Given) (command? : Option CommandRequest) : Invocation where
  verbose := given.has .verbose
  config? := given.value? .config
  command?

end Given

end CommandLine

end EventFields
