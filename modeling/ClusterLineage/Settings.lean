import ClusterLineage.Lineage.Diagram
import ClusterLineage.Lineage.Intake

/-!
# Settings

What can be set by variables of the environment: how events are logged, the name of the cluster,
whether ownership is checked, and the format of diagrams.  A variable that is not set has a
default; one that is set to something invalid is an error.
-/

namespace ClusterLineage

/-- The settings of a run. -/
structure Settings where
  logLevel : Severity := .info
  logAsJson : Bool := true
  rootName : Text := Intake.defaultRootName
  validateOwnership : Bool := true
  format : DiagramFormat := .dot
  deriving DecidableEq, Repr

/-- Which setting is invalid, and its value. -/
inductive SettingsError where
  | logLevel (value : Text)
  | rootName (value : Text)
  | format (value : Text)
  deriving DecidableEq, Repr

/-- The wording of an error. -/
def SettingsError.message : SettingsError → Text
  | logLevel value =>
    "Invalid log level: " ++ value ++ ". Must be one of debug, info, warning, error"
  | rootName value => "Invalid root name: " ++ Text.quoted value
  | format value => "Invalid export format: " ++ value ++ ". Must be one of dot, mermaid"

namespace Settings

/-- The variables of the environment that are set, by name. -/
abbrev Environment := List (String × String)

/-- Whether a text means yes. -/
def isYes (text : Text) : Bool :=
  (Text.ofStrings ["true", "1", "yes"]).contains (Text.lower text)

/-- A switch: its default, unless the variable is set. -/
def switch (env : Environment) (name : String) (default : Bool) : Bool :=
  match env.lookup name with
  | some value => isYes value
  | none => default

/-- Whether a code can start the name of a cluster: the letters and digits of ASCII. -/
def isNameStart (c : Code) : Bool :=
  c.toChar?.any Char.isAlphanum

/-- Whether a code can stand in the name of a cluster. -/
def isNameCode (c : Code) : Bool :=
  isNameStart c || c == '.' || c == '_' || c == ':' || c == '@' || c == '-'

/-- What is left of a text without a line feed at its end. -/
def withoutLineFeed (cs : List Code) : List Code :=
  if cs.getLast? = some (.ofChar '\n') then cs.dropLast else cs

/-- Whether a text can name a cluster.  One line feed at its end is let pass. -/
def isRootName (text : Text) : Bool :=
  match withoutLineFeed text.codes with
  | [] => false
  | c :: cs => isNameStart c && cs.all isNameCode

/-- The setting of a variable: a default if it is not set, what a reader makes of it otherwise. -/
def setting {α : Type} (env : Environment) (name : String) (default : α)
    (read? : Text → Option α) (error : Text → SettingsError) : Except SettingsError α :=
  match env.lookup name with
  | none => .ok default
  | some value =>
    match read? value with
    | some x => .ok x
    | none => .error (error value)

/-- Reads all settings.  The first invalid one is reported, in the order of the fields. -/
def load (env : Environment) : Except SettingsError Settings := do
  let default : Settings := {}
  let logLevel ← setting env "LOG_LEVEL" default.logLevel Severity.ofName? .logLevel
  let rootName ← setting env "ROOT_NAME" default.rootName
    (fun text => if isRootName text then some text else none) .rootName
  let format ← setting env "EXPORT_FORMAT" default.format
    (fun text => DiagramFormat.ofName? (Text.lower text)) .format
  return {
    logLevel := logLevel
    logAsJson := switch env "LOG_JSON" default.logAsJson
    rootName := rootName
    validateOwnership := switch env "VALIDATE_OWNERSHIP" default.validateOwnership
    format := format }

end Settings

end ClusterLineage
