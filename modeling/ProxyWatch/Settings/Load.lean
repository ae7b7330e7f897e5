import ProxyWatch.Json.Source
import ProxyWatch.Settings.Basic
import ProxyWatch.Toml.Reader

/-! Loading settings from a file and the environment. The environment wins. -/
namespace ProxyWatch

/-- The variables of a process, in their order. -/
abbrev Environment := List (String × String)

namespace Environment

/-- The last of several variables of one name counts. -/
def get? (environment : Environment) (name : String) : Option String :=
  (environment.reverse.find? (·.1 == name)).map (·.2)

/-- How the names of variables that are settings begin, in any case. -/
def settingMark : List Char := "rdwatch_".toList

def settingName? (name : String) : Option String :=
  let lower := name.toList.map Char.toLower
  if settingMark.isPrefixOf lower then some (String.ofList (lower.drop settingMark.length)) else none

/-- The settings among the variables. -/
def settings (environment : Environment) : List (String × SettingValue) :=
  environment.filterMap fun (name, text) =>
    (settingName? name).map fun setting => (setting, .ofVariable text)

def joinPath (directory name : String) : String :=
  if directory.endsWith "/" then directory ++ name else s!"{directory}/{name}"

/-- The directory of configurations: the one that is named, if it is absolute, or the home's. -/
def configDirectory? (environment : Environment) : Option String :=
  match (environment.get? "XDG_CONFIG_HOME").filter (·.startsWith "/") with
  | some directory => some directory
  | none =>
    ((environment.get? "HOME").filter (!·.isEmpty)).map (joinPath · ".config")

def storeDirectory (environment : Environment) : String :=
  match environment.configDirectory? with
  | some directory => joinPath directory "rdwatch"
  | none => ".rdwatch"

end Environment

namespace Settings

inductive LoadError where
  | unreadable
  | invalid
  deriving DecidableEq, Repr

def LoadError.message : LoadError → String
  | unreadable => "Failed to load configuration"
  | invalid => "Invalid configuration"

/-- What follows the last point of a file's name, unless the name begins with it. -/
def extension? (path : String) : Option String :=
  let name := (path.toList.reverse.takeWhile (· != '/'))
  match name.span (· != '.') with
  | (_, []) | (_, [_]) => none
  | (extension, _) => some (String.ofList extension.reverse)

def withoutMark (text : String) : String :=
  match text.toList with
  | '\uFEFF' :: rest => String.ofList rest
  | _ => text

/-- The top level of a file, by the extension of its name. -/
def readFile? (path text : String) : Option (List (String × SettingValue)) :=
  match extension? path with
  | some "toml" =>
    (Toml.parse? (withoutMark text)).map fun members =>
      members.map fun (name, value) => (name, .ofToml value)
  | some "json" => do
    let members ← (← Json.parse? (withoutMark text)).members?
    pure (members.map fun (name, value) => (name, .ofJson value))
  | _ => none

def isNameChar (c : Char) : Bool := c.isAlphanum || c = '_' || c = '-'

/-- A name that goes on with members or places stands for what it begins with, which then is
composite. -/
def topLevel : String × SettingValue → String × SettingValue
  | (name, value) =>
    let chars := name.toList
    match chars.span isNameChar with
    | (_ :: _, []) | ([], _) => (name, value)
    | (first, rest) =>
      if isTrail (rest.length + 1) rest then (String.ofList first, .composite) else (name, value)
where
  isTrail : Nat → List Char → Bool
    | 0, _ => false
    | _ + 1, [] => true
    | fuel + 1, '.' :: rest =>
      match rest.span isNameChar with
      | ([], _) => false
      | (_, rest) => isTrail fuel rest
    | fuel + 1, '[' :: rest =>
      let inner := rest.dropWhile (· == ' ')
      let unsigned := match inner with
        | '-' :: digits => digits
        | digits => digits
      match unsigned.span Char.isDigit with
      | ([], _) => false
      | (_, rest) =>
        match rest.dropWhile (· == ' ') with
        | ']' :: rest => isTrail fuel rest
        | _ => false
    | _ + 1, _ => false

/-- Later values take the place of earlier ones of the same name. -/
def merged (values : List (String × SettingValue)) : Dictionary SettingValue := .ofList values

/-- The settings of a file, if one is given, and the environment. A file that is given must be there
and readable. -/
def load (environment : Environment) (file : Option (String × Option String)) :
    Except LoadError Settings :=
  let fromFile : Option (List (String × SettingValue)) := match file with
    | none => some []
    | some (_, none) => none
    | some (path, some text) => readFile? path text
  match fromFile with
  | none => .error .unreadable
  | some values =>
    let defaults : Settings := { storeDirectory := environment.storeDirectory }
    match defaults.setAll? (merged ((values ++ environment.settings).map topLevel)) with
    | some settings => .ok settings
    | none => .error .invalid

end Settings
end ProxyWatch
