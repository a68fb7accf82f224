import EventFields.CommandLine.Invocation

/-!
# Reading command lines

The words of a command line are read from left to right. A value is looked at
only when the next argument starts or the words end, so that an unknown
argument behind a bad value is what is reported.
-/

namespace EventFields.CommandLine

/-- What a word is by its dashes. -/
inductive Word where
  /-- Two dashes: all further words stand for themselves. -/
  | divider
  /-- An option by its name, with a value after an equals sign if there is one. -/
  | named (name : String) (value? : Option String)
  /-- Options by their letters. -/
  | lettered (letters : List Char)
  /-- A word that stands for itself. -/
  | plain
  deriving Repr, DecidableEq

namespace Word

/-- Tells what a word is. A single dash stands for itself. -/
def ofText (text : String) : Word :=
  match text.toList with
  | ['-'] => plain
  | ['-', '-'] => divider
  | '-' :: '-' :: rest =>
      let name := String.ofList (rest.takeWhile (· ≠ '='))
      match rest.dropWhile (· ≠ '=') with
      | [] => named name none
      | _ :: value => named name (some (String.ofList value))
  | '-' :: letters => lettered letters
  | _ => plain

/-- The value after the letter of an option, with or without an equals sign. -/
def attachedValue? : List Char → Option String
  | [] => none
  | '=' :: value => some (String.ofList value)
  | value => some (String.ofList value)

end Word

/-- What has been read of the words of a level. -/
structure Reading where
  given : Given := []
  /-- The argument that has been read last, while its value has not been looked
  at. It lacks its value while that is still to come. -/
  pending? : Option (Argument × Option String) := none
  /-- The arguments whose places have not been reached. -/
  places : List Argument
  /-- Whether all further words stand for themselves. -/
  isDivided : Bool := false
  deriving Repr, DecidableEq

namespace Reading

/-- The state before the words of a level. -/
def start (level : Level) : Reading where
  places := level.places

/-- The option whose value is still to come. -/
def awaiting? (reading : Reading) : Option Argument :=
  match reading.pending? with
  | some (argument, none) => some argument
  | _ => none

/-- Looks at the value of the argument that has been read last. -/
def settle (reading : Reading) : Except Reply Reading :=
  match reading.pending? with
  | none => .ok reading
  | some (argument, value?) =>
      (reading.given.add argument value?).map fun given =>
        { reading with given, pending? := none }

/-- Takes an argument whose value, if it has any, is known. -/
def take (reading : Reading) (level : Level) (argument : Argument) (value? : Option String) :
    Except Reply Reading := do
  let reading ← reading.settle
  match argument with
  | .help => .error (.help level)
  | .version => .error .version
  | _ => return { reading with given := ← reading.given.add argument value? }

/-- Takes an argument whose value may still be to come. -/
def hold (reading : Reading) (argument : Argument) (value? : Option String) :
    Except Reply Reading :=
  reading.settle.map fun reading => { reading with pending? := some (argument, value?) }

/-- Reads an option and the value that stands in the same word. -/
def readOption (reading : Reading) (level : Level) (argument : Argument)
    (value? : Option String) : Except Reply Reading :=
  match argument.hasValue, value? with
  | false, some _ => .error (.misuse .unexpectedValue)
  | true, none => reading.hold argument none
  | _, _ => reading.take level argument value?

/-- Reads an option by its name. -/
def readNamed (reading : Reading) (level : Level) (name : String) (value? : Option String) :
    Except Reply Reading :=
  match level.named? name with
  | none => .error (.misuse .unknownArgument)
  | some argument => reading.readOption level argument value?

/-- Reads options by their letters. What follows the letter of an option with a
value is the value. -/
def readLettered (level : Level) : Reading → List Char → Except Reply Reading
  | reading, [] => .ok reading
  | reading, letter :: rest =>
      match level.lettered? letter with
      | none => .error (.misuse .unknownArgument)
      | some argument =>
          if argument.hasValue then
            reading.readOption level argument (Word.attachedValue? rest)
          else
            match reading.take level argument none with
            | .error reply => .error reply
            | .ok reading => readLettered level reading rest

/-- What is wrong with a word for which there is no place. The program has no
places; a word there should be the name of a command, and before the divider. -/
def surplus (reading : Reading) (level : Level) (text : String) : UsageError :=
  if level = .program && !(reading.isDivided && (CommandName.ofText? text).isSome) then
    .unknownCommand
  else .unknownArgument

/-- Reads an argument by its place. -/
def readPlaced (reading : Reading) (level : Level) (text : String) : Except Reply Reading :=
  match reading.places with
  | [] => .error (.misuse (reading.surplus level text))
  | argument :: places =>
      (reading.hold argument (some text)).map fun reading => { reading with places }

/-- Reads a word that is not the name of a command. A word with a dash in front
is never the value of the option before it. -/
def readWord (reading : Reading) (level : Level) (text : String) : Except Reply Reading :=
  if reading.isDivided then reading.readPlaced level text
  else
    match Word.ofText text with
    | .divider => .ok { reading with isDivided := true }
    | .named name value? => reading.readNamed level name value?
    | .lettered letters => readLettered level reading letters
    | .plain =>
        match reading.awaiting? with
        | some argument => .ok { reading with pending? := some (argument, some text) }
        | none => reading.readPlaced level text

/-- The command that a word starts, unless it is a value or stands behind the
divider. -/
def command? (reading : Reading) (level : Level) (text : String) : Option CommandName :=
  if reading.isDivided || reading.awaiting?.isSome then none else level.command? text

/-- Reads words up to the name of a command. Its words are left over. -/
def readWords (level : Level) :
    Reading → List String → Except Reply (Reading × Option (CommandName × List String))
  | reading, [] => .ok (reading, none)
  | reading, text :: rest =>
      match reading.command? level text with
      | some command => .ok (reading, some (command, rest))
      | none =>
          match reading.readWord level text with
          | .error reply => .error reply
          | .ok reading => readWords level reading rest

end Reading

/-- The arguments that the words of a command give. -/
def commandArguments (level : Level) (words : List String) : Except Reply Given := do
  let (reading, _) ← Reading.readWords level (.start level) words
  return (← reading.settle).given

/-- Turns the arguments of a command into a request. -/
def request {α : Type} (build : Given → Option α) (given : Given) : Except Reply α :=
  match build given with
  | some request => .ok request
  | none => .error (.misuse .missingArgument)

/-- The reply to a request for help, with the commands it is about. -/
def helpReply : List String → Reply
  | [] => .help .program
  | [word] =>
      match CommandName.ofText? word with
      | some .analyze => .help .analyze
      | some .explain => .help .explain
      | some .help => .help .program
      | none => .misuse .unknownCommand
  | _ => .misuse .unknownCommand

/-- Reads the words of a command. What is wrong with them is reported before
what is wrong with the words in front. -/
def readCommand (outer : Reading) (command : CommandName) (words : List String) :
    Except Reply Invocation :=
  match command with
  | .help => .error (helpReply words)
  | .analyze => do
      let inner ← commandArguments .analyze words
      let analyze ← request Given.analyzeRequest? inner
      return Given.invocation ((← outer.settle).given ++ inner) (some (.analyze analyze))
  | .explain => do
      let inner ← commandArguments .explain words
      let explain ← request Given.explainRequest? inner
      return Given.invocation ((← outer.settle).given ++ inner) (some (.explain explain))

/-- Reads a command line, without the name of the program. -/
def parse (words : List String) : Except Reply Invocation := do
  let (reading, command?) ← Reading.readWords .program (.start .program) words
  match command? with
  | none => return Given.invocation (← reading.settle).given none
  | some (command, rest) => readCommand reading command rest

end EventFields.CommandLine
