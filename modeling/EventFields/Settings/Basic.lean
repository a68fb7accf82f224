import EventFields.Analysis

/-!
# Settings

What a user can configure once for all commands.
-/

namespace EventFields

/-- The settings of the program. -/
structure Settings where
  /-- The annotation that carries explicit field lists; empty if there is none. -/
  overrideType : String := ""
  /-- Patterns of the interfaces to include; all of them if there is no pattern. -/
  toInclude : List String := []
  /-- Patterns of the interfaces to leave out. -/
  toExclude : List String := []
  /-- Whether interfaces are analysed as tasks that may run side by side. -/
  parallel : Bool := false
  deriving Repr, DecidableEq

namespace Settings

/-- The settings of the analysis that these settings describe. -/
def analysis (settings : Settings) : AnalysisSettings :=
  (AnalysisSettings.withOverrideType {} settings.overrideType).withParallel settings.parallel

end Settings

end EventFields
