import EventFields.Catalog.Json
import EventFields.Inference
import EventFields.Json.Writer

/-!
# Reports

What the commands print: a catalog as text or JSON, and the verdicts on the
methods of one interface.
-/

namespace EventFields

/-- A text of several lines, each with a line break at its end. -/
def lines (texts : List String) : String :=
  String.join (texts.map (· ++ "\n"))

/-- A field with its type. -/
def fieldText (entry : FieldName × TypeRef) : String :=
  entry.1.text ++ ": " ++ entry.2.text

namespace Catalog

/-- An event and its fields, each on a line of its own. -/
def eventLines (event : Event) : List String :=
  event.name.text ::
    if event.fields.isEmpty then ["  (no fields)"]
    else event.fields.entries.map fun entry => "  " ++ fieldText entry

/-- A catalog as text, with the number of events and of warnings at its end. -/
def textReport (catalog : Catalog) (warnings : Nat) : String :=
  lines (catalog.events.flatMap eventLines ++
    ["", toString catalog.size ++ " events, " ++ toString warnings ++ " warnings"])

/-- A catalog as JSON that is easy to read. -/
def jsonReport (catalog : Catalog) : String :=
  lines [catalog.toJson.pretty]

end Catalog

namespace Verdict

/-- Fields on one line. -/
def fieldsText (fields : FieldMapping) : String :=
  if fields.isEmpty then "(none)" else Text.joined ", " (fields.entries.map fieldText)

/-- A word, filled up with blanks to eight characters, and what it says. -/
def labelled (label : String) (rest : String) : String :=
  "  " ++ label ++ String.ofList (List.replicate (8 - label.length) ' ') ++ " " ++ rest

/-- A note on a field that was not added because its type is another one. -/
def conflictNote : FieldMapping.Outcome → String
  | .conflict existing => " (conflicts with " ++ existing.text ++ ", ignored)"
  | .added | .confirmed => ""

/-- A verdict on a line of its own. -/
def line : Verdict → String
  | explicit tag fields => labelled "explicit" (tag.typeName ++ " -> " ++ fieldsText fields)
  | skipped method => labelled "skipped" method.signature
  | overridden method fields =>
      labelled "override" (method.signature ++ " -> " ++ fieldsText fields)
  | inferred method field outcome =>
      labelled field.kind.label (method.signature ++ " -> " ++ field.name.text ++ ": " ++
        field.type.text ++ conflictNote outcome)
  | unknown method => labelled "unknown" method.signature

end Verdict

/-- An interface and the verdicts on its methods. -/
def InferenceRun.report (run : InferenceRun) (interface : Interface) : String :=
  lines (interface.qualifiedName.text :: run.verdicts.map (·.line))

end EventFields
