import Fallible.Capture
import Fallible.Config.Document
import Fallible.Config.Host

/-!
# Loading and installing configurations

The configuration is looked for at the path that a variable of the environment gives, or else in the
directory for configurations. Installing it puts its policy into effect, if there is a configuration
and no classifier is in effect yet; in every other case nothing changes.

## Main definitions

* `Config.path?`: where the configuration is looked for
* `Config.loadFrom`, `Config.load`: reading it
* `Config.install`: putting its policy into effect
-/

namespace Fallible.Config

variable {σ : Type}

/-- The variable that gives the path of the configuration. -/
def pathVariable : String := "RECOURSE_CONFIG"

/-- The path of the configuration below the directory for configurations. -/
def parts : List String := ["recourse", "config.toml"]

/-- The directory for configurations: the one chosen, if its path is absolute, or else the one in
the home directory, which is that of the account where the environment names none. -/
def directory? (h : Host) : Option String :=
  match (h.lookup "XDG_CONFIG_HOME").filter Path.isAbsolute with
  | some chosen => some chosen
  | none => (((h.lookup "HOME").filter (!·.isEmpty)).or h.home).map (Path.join · ".config")

/-- Where the configuration is looked for: at the path given, unless it is empty, or else in the
directory for configurations. -/
def path? (h : Host) : Option String :=
  match (h.lookup pathVariable).filter (!·.isEmpty) with
  | some given => some given
  | none => (directory? h).map (parts.foldl Path.join ·)

/-- Why a file cannot be read as a text. -/
inductive ReadFault where
  | isDirectory
  | notText
  /-- The host does not give the contents. -/
  | refused (reason : String)
  deriving DecidableEq

/-- What the fault says. -/
def ReadFault.message : ReadFault → String
  | isDirectory => "Is a directory (os error 21)"
  | notText => "stream did not contain valid UTF-8"
  | refused reason => reason

/-- Why there is no configuration, or why it was not installed. -/
inductive Error where
  | read (path : String) (fault : ReadFault)
  | parse (path : String) (error : ParseError)
  | install (error : Classifier.InstallError)
  deriving DecidableEq

namespace Error

/-- The path of the configuration, where the error is about one. -/
def path? : Error → Option String
  | read path _ | parse path _ => some path
  | install _ => none

/-- What the error says; what a text says that is no configuration is left to its own error. -/
def message : Error → String
  | read path fault => "failed to read config at " ++ path ++ ": " ++ fault.message
  | parse path _ => "failed to parse config at " ++ path
  | install error => error.message

end Error

/-- The text of a file. -/
def readText : Node → Except ReadFault String
  | .directory => .error .isDirectory
  | .closed reason => .error (.refused reason)
  | .file bytes =>
    match String.fromUTF8? bytes with
    | some text => .ok text
    | none => .error .notText

/-- The configuration at a path, if there is anything there. -/
def loadFrom (h : Host) (path : String) : Run σ (Except Error (Option Config)) := do
  match h.find? path with
  | none => return .ok none
  | some node =>
    match readText node with
    | .error fault =>
      Run.emit .unreadable
      return .error (.read path fault)
    | .ok text =>
      match parse text with
      | .error error =>
        Run.emit .incomprehensible
        return .error (.parse path error)
      | .ok config => return .ok (some config)

/-- The configuration of the host, if there is one. -/
def load (h : Host) : Run σ (Except Error (Option Config)) :=
  match path? h with
  | none => return .ok none
  | some path => loadFrom h path

/-- Loads the configuration and puts its policy into effect, and gives the policy. -/
def install (h : Host) : Run σ (Except Error (Option Policy)) := do
  match ← load h with
  | .error error => return .error error
  | .ok none =>
    Run.emit .unconfigured
    return .ok none
  | .ok (some config) =>
    match ← config.policy.classifier.install with
    | .error error => return .error (.install error)
    | .ok () => return .ok (some config.policy)

end Fallible.Config
