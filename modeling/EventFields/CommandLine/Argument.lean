/-!
# Arguments

What a command line can give a value to, and where. The words before the name
of a command belong to the program, those after it to the command; the program
and each command know arguments of their own.
-/

namespace EventFields.CommandLine

/-- What a command line can give a value to. -/
inductive Argument where
  | help
  | version
  | verbose
  | config
  | json
  | denyWarnings
  | parallel
  | toInclude
  | toExclude
  | overrideType
  | model
  | interface
  deriving Repr, DecidableEq

namespace Argument

/-- The name of an option after two dashes. An argument without a name is given
by its place. -/
def name? : Argument → Option String
  | help => some "help"
  | version => some "version"
  | verbose => some "verbose"
  | config => some "config"
  | json => some "json"
  | denyWarnings => some "deny-warnings"
  | parallel => some "parallel"
  | toInclude => some "include"
  | toExclude => some "exclude"
  | overrideType => some "override-annotation"
  | model | interface => none

/-- The letter of an option after one dash. -/
def letter? : Argument → Option Char
  | help => some 'h'
  | version => some 'V'
  | verbose => some 'v'
  | config => some 'c'
  | _ => none

/-- Whether an argument has a value; one without is there or not. -/
def hasValue : Argument → Bool
  | help | version | verbose | json | denyWarnings | parallel => false
  | config | toInclude | toExclude | overrideType | model | interface => true

/-- Whether an argument may be given more than once. -/
def isRepeatable : Argument → Bool
  | toInclude | toExclude => true
  | _ => false

/-- Whether the value of an argument is the path of a file, which is not empty. -/
def isPath : Argument → Bool
  | config | model => true
  | _ => false

end Argument

/-- The words that name a command. -/
inductive CommandName where
  | analyze
  | explain
  | help
  deriving Repr, DecidableEq

namespace CommandName

/-- All names of commands. -/
def all : List CommandName :=
  [analyze, explain, help]

/-- The word of a command. -/
def text : CommandName → String
  | analyze => "analyze"
  | explain => "explain"
  | help => "help"

/-- The command of a word. -/
def ofText? (word : String) : Option CommandName :=
  all.find? (·.text = word)

end CommandName

/-- The part of a command line that words belong to. -/
inductive Level where
  | program
  | analyze
  | explain
  deriving Repr, DecidableEq

namespace Level

/-- The options that are known at a level. -/
def options : Level → List Argument
  | program => [.verbose, .config, .help, .version]
  | analyze => [.json, .denyWarnings, .parallel, .toInclude, .toExclude, .overrideType,
      .verbose, .config, .help]
  | explain => [.overrideType, .verbose, .config, .help]

/-- The arguments that a level has by their places. -/
def places : Level → List Argument
  | program => []
  | analyze => [.model]
  | explain => [.model, .interface]

/-- The command that a word starts at a level. -/
def command? (level : Level) (word : String) : Option CommandName :=
  match level with
  | program => CommandName.ofText? word
  | analyze | explain => none

/-- The option of a name. -/
def named? (level : Level) (name : String) : Option Argument :=
  level.options.find? (·.name? = some name)

/-- The option of a letter. -/
def lettered? (level : Level) (letter : Char) : Option Argument :=
  level.options.find? (·.letter? = some letter)

end Level

end EventFields.CommandLine
