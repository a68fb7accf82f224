import EventFields.Settings.Environment
import EventFields.Toml.Parser

/-!
# Loading settings

Settings come from the user's file, then from a file that is named for one run,
then from the environment; what comes later takes the place of what came
before. A file that is not there counts as empty.
-/

namespace EventFields.Settings

/-- The values of settings in a file. -/
def fileSource (read : String → Option String) (path : String) :
    Except SettingsError SettingSource :=
  match read path with
  | none => .ok []
  | some text =>
      match Toml.parse? text with
      | none => .error (.malformedFile path)
      | some entries => .ok (entries.map fun entry => (entry.1, .ofToml entry.2))

/-- The values of settings in files, in the order of the files. -/
def filesSource (read : String → Option String) :
    List String → Except SettingsError SettingSource
  | [] => .ok []
  | path :: rest =>
      match fileSource read path with
      | .error error => .error error
      | .ok source =>
          match filesSource read rest with
          | .error error => .error error
          | .ok sources => .ok (source ++ sources)

/-- The settings from files and from the environment. -/
def load (read : String → Option String) (paths : List String)
    (environment : List Environment.Variable) : Except SettingsError Settings :=
  match filesSource read paths with
  | .error error => .error error
  | .ok source => (source ++ Environment.source environment).settings

end EventFields.Settings
