import MachineKeeper.FileTree
import MachineKeeper.Table
import MachineKeeper.Written

/-! What a program finds around it: files, a working directory and an environment; and the settings
and manifests that it reads there. -/
namespace MachineKeeper

structure Surroundings where
  read : String → Except FileError Bytes
  directory : String
  environment : Table String

namespace Surroundings

def leadsSomewhere (s : Surroundings) (path : String) : Bool :=
  match s.read path with
  | .ok _ | .error .isDirectory => true
  | .error _ => false

def readText (s : Surroundings) (path : String) : Except FileError String := do
  match ofUtf8? (← s.read path) with
  | some text => .ok text
  | none => .error .notText

def settingsVariable : String := "PROVISIONER_CONFIG"

def placeVariables : List String := [settingsVariable, "XDG_CONFIG_HOME", "HOME"]

def settingsHome? (s : Surroundings) : Option String :=
  let absolute := s.environment["XDG_CONFIG_HOME"]?.filter fun path => path.toList.head? = some '/'
  let home := s.environment["HOME"]?.filter fun path => path ≠ ""
  absolute.or (home.map (· ++ "/.config"))

/-- Where settings may lie; the first of these files counts. -/
def settingsPlaces (s : Surroundings) : List String :=
  [s.directory ++ "/provisioner.toml"] ++
    (s.settingsHome?.map (· ++ "/provisioner/config.toml")).toList ++
    ["/etc/provisioner/config.toml"]

def settingsCandidates (s : Surroundings) (given? : Option String) : List String :=
  given?.toList ++ s.environment[settingsVariable]?.toList ++ s.settingsPlaces

/-- The file with settings: the given one, or else the one that the environment names, or else one
at the usual places. One that is named has to be there. -/
def settingsPath (s : Surroundings) (given? : Option String) : Except Failure (Option String) :=
  match given?.or s.environment[settingsVariable]? with
  | some path => if s.leadsSomewhere path then .ok (some path) else .error (.noConfigFile path)
  | none => .ok (s.settingsPlaces.find? s.leadsSomewhere)

def load {α : Type} (s : Surroundings) (ofText : String → Outcome Failure α)
    (unreadable unfit : String) (path : String) : Outcome Failure α :=
  match s.readText path with
  | .error e => .failed (.context (unreadable ++ path) (.file e))
  | .ok text => (ofText text).mapError (.context (unfit ++ path))

def settingsAt (s : Surroundings) (path : String) : Outcome Failure Settings := do
  let settings ←
    s.load Settings.ofText "failed to read config file " "failed to parse config file " path
  return { settings with source? := some path }

/-- The settings of a run, which are the standard ones where there is no file with others. -/
def settings (s : Surroundings) (given? : Option String) : Outcome Failure Settings :=
  match s.settingsPath given? with
  | .error failure => .failed failure
  | .ok none => .done .standard
  | .ok (some path) => s.settingsAt path

def manifest (s : Surroundings) (path : String) : Outcome Failure Manifest :=
  s.load Manifest.ofText "failed to read manifest " "invalid manifest " path

end Surroundings

def FileTree.surroundings (t : FileTree) (environment : Table String) : Surroundings where
  read := t.read
  directory := "/" ++ "/".intercalate t.here
  environment := environment

end MachineKeeper
