import EventFields.Name
import EventFields.TypeRef.Printer

/-!
# Diagnostics

What inference warns about without stopping, and the events that a run writes
to its log. Events for debugging are left out of the log: that an interface is
passed over, that its own list is used, that an event takes the place of an
earlier one, and which settings and which model have been read.
-/

namespace EventFields

/-- A warning about a method. -/
inductive Diagnostic where
  /-- A method implies no field. -/
  | unknownMethod (interface : InterfaceName) (signature : String)
  /-- A method implies another type for a field than the one already held. -/
  | conflictingTypes (interface : InterfaceName) (field : FieldName)
      (existing conflicting : TypeRef)
  deriving Repr, DecidableEq

/-- How important a log event is. There is no level for debugging. -/
inductive LogLevel where
  | info
  | warn
  deriving Repr, DecidableEq

/-- The value of a named field of a log event. -/
inductive LogValue where
  | text (value : String)
  | count (value : Nat)
  deriving Repr, DecidableEq

/-- A log event. -/
structure LogEvent where
  level : LogLevel
  message : String
  fields : List (String × LogValue)
  deriving Repr, DecidableEq

namespace Diagnostic

/-- The interface that a warning is about. -/
def interface : Diagnostic → InterfaceName
  | unknownMethod interface _ => interface
  | conflictingTypes interface _ _ _ => interface

/-- The wording of a warning. -/
def message : Diagnostic → String
  | unknownMethod interface signature =>
      "Unknown method type " ++ signature ++ " in " ++ interface.text
  | conflictingTypes interface field existing conflicting =>
      "Conflicting types " ++ existing.text ++ " and " ++ conflicting.text ++
        " for field name " ++ field.text ++ " in " ++ interface.text

/-- The log event of a warning. -/
def logEvent (diagnostic : Diagnostic) : LogEvent where
  level := .warn
  message := diagnostic.message
  fields :=
    match diagnostic with
    | unknownMethod interface signature =>
        [("interface", .text interface.text), ("signature", .text signature)]
    | conflictingTypes interface field _ _ =>
        [("interface", .text interface.text), ("field", .text field.text)]

end Diagnostic

end EventFields
