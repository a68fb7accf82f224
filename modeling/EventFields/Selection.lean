import EventFields.Analysis
import EventFields.Pattern.Extent
import EventFields.Pattern.Meaning
import EventFields.Pattern.Search

/-!
# Selection of interfaces by patterns

An interface is selected if one of the patterns to include occurs in its
subject, or if there are none, and no pattern to exclude does. The subject is
the source file, or the qualified name if no source file is known.
-/

namespace EventFields

/-- Patterns that select interfaces. -/
structure Selection where
  included : List Pattern
  excluded : List Pattern

/-- Why a selection cannot be made. -/
inductive SelectionError where
  | invalidInclude (fault : Pattern.Fault)
  | invalidExclude (fault : Pattern.Fault)
  deriving Repr, DecidableEq

namespace SelectionError

/-- The wording of an error. -/
def message : SelectionError → String
  | invalidInclude _ => "invalid include pattern"
  | invalidExclude _ => "invalid exclude pattern"

end SelectionError

/-- The text of an interface in which patterns are looked for. -/
def Interface.subject (interface : Interface) : String :=
  interface.sourceFile.getD interface.qualifiedName.text

namespace Selection

/-- Reads patterns in order. -/
def readPatterns : List String → Except Pattern.Fault (List Pattern)
  | [] => .ok []
  | text :: rest =>
      match Pattern.parse text, readPatterns rest with
      | .error fault, _ => .error fault
      | _, .error fault => .error fault
      | .ok pattern, .ok patterns => .ok (pattern :: patterns)

/-- Reads patterns that are searched for together, which must not be too large. -/
def parsePatterns (texts : List String) : Except Pattern.Fault (List Pattern) :=
  match readPatterns texts with
  | .error fault => .error fault
  | .ok patterns => if Pattern.fit patterns then .ok patterns else .error .tooLarge

/-- The selection by given patterns. Those to include are looked at first. -/
def parse (toInclude toExclude : List String) : Except SelectionError Selection :=
  match parsePatterns toInclude with
  | .error fault => .error (.invalidInclude fault)
  | .ok included =>
      match parsePatterns toExclude with
      | .error fault => .error (.invalidExclude fault)
      | .ok excluded => .ok { included, excluded }

/-- Whether one of the patterns occurs in a subject. -/
def occurs (patterns : List Pattern) (subject : String) : Bool :=
  patterns.any (·.occursIn subject)

/-- Whether an interface is selected. -/
def includes (selection : Selection) : InclusionPolicy := fun interface =>
  (selection.included.isEmpty || occurs selection.included interface.subject) &&
    !occurs selection.excluded interface.subject

end Selection

end EventFields
