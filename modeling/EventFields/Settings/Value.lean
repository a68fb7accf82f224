import EventFields.Number.Decimal
import EventFields.Settings.Basic
import EventFields.Text.Quoted
import EventFields.Toml.Basic

/-!
# Values of settings

Settings are read from files and from the environment as values of any kind.
Only after all sources have been put together are the kinds checked, setting by
setting in the order of their names.
-/

namespace EventFields

/-- A value that a setting has been given. Of maps it only matters that they
are some. -/
inductive SettingValue where
  | bool (value : Bool)
  | signed (value : Int)
  | unsigned (value : Nat)
  | float (bits : UInt64)
  | text (text : String)
  | list (elements : List SettingValue)
  | map
  deriving Repr

namespace SettingValue

/-- The text of a double: no decimals if it is whole. -/
def floatText (bits : UInt64) : String :=
  let number := Float.ofBits bits
  if number.isNaN then "NaN"
  else if number.isInf then (if number < 0 then "-inf" else "inf")
  else
    let decimal := Decimal.shortest bits
    let written := decimal.positional.toList
    match written.reverse with
    | '0' :: '.' :: whole => String.ofList whole.reverse
    | _ => String.ofList written

/-- How messages speak of a value. -/
def found : SettingValue → String
  | bool value => "bool " ++ (if value then "true" else "false")
  | signed value => "signed int `" ++ toString value ++ "`"
  | unsigned value => "unsigned int `" ++ toString value ++ "`"
  | float bits => "float `" ++ floatText bits ++ "`"
  | text content => "string " ++ Text.quoted content
  | list _ => "sequence"
  | map => "map"

mutual

/-- The value of a setting in a file. -/
def ofToml : Toml.Value → SettingValue
  | .bool value => bool value
  | .integer value => signed value
  | .float bits => float bits
  | .text value => text value
  | .dateTime => map
  | .array elements => list (ofTomlElements elements)
  | .table _ => map

/-- The values of the elements of an array in a file. -/
def ofTomlElements : List Toml.Value → List SettingValue
  | [] => []
  | element :: rest => ofToml element :: ofTomlElements rest

end

end SettingValue

/-- Values of settings by their names. Where a name stands twice, the later
entry counts. -/
abbrev SettingSource := List (String × SettingValue)

/-- Why settings cannot be loaded. -/
inductive SettingsError where
  /-- A file is not TOML. -/
  | malformedFile (path : String)
  /-- A value is of the wrong kind. The path leads from the name of the setting
  to the value. -/
  | invalidType (found expected : String) (path : List String)
  deriving Repr, DecidableEq

namespace SettingsError

/-- The wording of an error, as far as it is this program's own. -/
def message : SettingsError → String
  | malformedFile path => "malformed file " ++ path
  | invalidType found expected _ => "invalid type: found " ++ found ++ ", expected " ++ expected

end SettingsError

namespace SettingSource

/-- The value that a setting has been given last. -/
def last? (source : SettingSource) (name : String) : Option SettingValue :=
  (source.reverse.find? (·.1 = name)).map Prod.snd

/-- Takes a value for a text. -/
def asText (path : List String) : SettingValue → Except SettingsError String
  | .text text => .ok text
  | value => .error (.invalidType value.found "a string" path)

/-- Takes a value for a switch. -/
def asSwitch (path : List String) : SettingValue → Except SettingsError Bool
  | .bool value => .ok value
  | value => .error (.invalidType value.found "a boolean" path)

/-- Takes values for texts; their indices are counted from `index`. -/
def elementTexts (path : List String) (index : Nat) :
    List SettingValue → Except SettingsError (List String)
  | [] => .ok []
  | value :: rest =>
      match asText (path ++ [toString index]) value with
      | .error error => .error error
      | .ok text =>
          match elementTexts path (index + 1) rest with
          | .error error => .error error
          | .ok texts => .ok (text :: texts)

/-- Takes a value for a list of texts. -/
def asTexts (path : List String) : SettingValue → Except SettingsError (List String)
  | .list elements => elementTexts path 0 elements
  | value => .error (.invalidType value.found "a sequence" path)

/-- A setting, or its default if no source has it. -/
def setting {α : Type} (source : SettingSource) (name : String)
    (read : List String → SettingValue → Except SettingsError α) (default : α) :
    Except SettingsError α :=
  match source.last? name with
  | some value => read [name] value
  | none => .ok default

/-- The settings of a source. Names that are not known are ignored. -/
def settings (source : SettingSource) : Except SettingsError Settings := do
  let toExclude ← source.setting "exclude" asTexts []
  let toInclude ← source.setting "include" asTexts []
  let overrideType ← source.setting "override_annotation" asText ""
  let parallel ← source.setting "parallel" asSwitch false
  return { overrideType, toInclude, toExclude, parallel }

end SettingSource

end EventFields
