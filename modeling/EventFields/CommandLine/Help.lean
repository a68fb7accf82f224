import EventFields.CommandLine.Argument
import EventFields.Report

/-!
# Help

What the program and its commands say about themselves.
-/

namespace EventFields.CommandLine

/-- The name of the program. -/
def programName : String := "evgen"

/-- The name of the program with its version. -/
def versionText : String :=
  lines [programName ++ " 0.1.0"]

namespace Argument

/-- What stands for the value of an argument. -/
def placeholder? : Argument → Option String
  | config => some "<CONFIG>"
  | toInclude | toExclude => some "<REGEX>"
  | overrideType => some "<NAME>"
  | model => some "<MODEL>"
  | interface => some "<INTERFACE>"
  | help | version | verbose | json | denyWarnings | parallel => none

/-- What an argument is for. -/
def purpose : Argument → String
  | help => "Print help"
  | version => "Print version"
  | verbose => "Enable verbose output"
  | config => "Path to config file"
  | json => "Print the catalog as JSON"
  | denyWarnings => "Exit with an error if any warning was raised"
  | parallel => "Analyse interfaces in parallel"
  | toInclude => "Only analyse interfaces whose source file matches (repeatable)"
  | toExclude => "Skip interfaces whose source file matches (repeatable)"
  | overrideType => "Annotation carrying explicit `name:type` field lists"
  | model => "Structural model file (JSON)"
  | interface => "Qualified name of the interface to explain"

/-- The words that give an argument. -/
def usage (argument : Argument) : String :=
  let letter :=
    match argument.letter? with
    | some letter => "-" ++ String.singleton letter ++ ", "
    | none => if argument.name?.isSome then "    " else ""
  let name :=
    match argument.name? with
    | some name => "--" ++ name ++ (if argument.hasValue then " " else "")
    | none => ""
  letter ++ name ++ argument.placeholder?.getD ""

end Argument

/-- Terms with what they mean, in two columns. -/
def columns (entries : List (String × String)) : List String :=
  let width := (entries.map (·.1.length)).foldl max 0
  entries.map fun entry =>
    let space := List.replicate (width - entry.1.length + 2) ' '
    "  " ++ entry.1 ++ String.ofList space ++ entry.2

/-- Terms under a title, if there are any. -/
def titled (title : String) (entries : List (String × String)) : List String :=
  if entries.isEmpty then [] else "" :: title :: columns entries

/-- What a command is for. -/
def CommandName.purpose : CommandName → String
  | analyze => "Infer fields for every included interface and print the catalog"
  | explain => "Show how each method of one interface was classified"
  | help => "Print this message or the help of the given subcommand(s)"

namespace Level

/-- What a level is for. -/
def purpose : Level → String
  | program => "Infers the field model of event interfaces"
  | analyze => CommandName.analyze.purpose
  | explain => CommandName.explain.purpose

/-- The words of a level, in outline. -/
def usage : Level → String
  | program => "[OPTIONS] [COMMAND]"
  | analyze => "analyze [OPTIONS] <MODEL>"
  | explain => "explain [OPTIONS] <MODEL> <INTERFACE>"

/-- The help of a level. -/
def helpText (level : Level) : String :=
  let described := fun argument : Argument => (argument.usage, argument.purpose)
  let commands :=
    if level = program then CommandName.all.map fun name => (name.text, name.purpose) else []
  lines ([level.purpose, "", "Usage: " ++ programName ++ " " ++ level.usage] ++
    titled "Commands:" commands ++
    titled "Arguments:" (level.places.map described) ++
    titled "Options:" (level.options.map described))

end Level

end EventFields.CommandLine
