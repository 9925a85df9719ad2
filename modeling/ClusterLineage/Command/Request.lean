import ClusterLineage.Command.Options
import ClusterLineage.Lineage.Diagram

/-!
# Requests

What a command line asks for: where the batch is and how to build from it, and one view of the
lineage.  The options of the program stand before the name of a command and those of the command
behind it.
-/

namespace ClusterLineage.Command

/-- Why a command line is not carried out: it is wrong, or asks for help or for the version. -/
inductive Refusal where
  | usage (e : UsageError)
  | help
  | version
  deriving DecidableEq, Repr

/-- The names of the commands. -/
inductive CommandName where
  | graph
  | orphans
  | related
  | impact
  | export
  | missing
  deriving DecidableEq, Repr

/-- The command that a text names. -/
def CommandName.ofText? : String → Option CommandName
  | "graph" => some graph
  | "orphans" => some orphans
  | "related" => some related
  | "impact" => some impact
  | "export" => some .export
  | "missing" => some missing
  | _ => none

/-- One view of a lineage. -/
inductive Action where
  | tree
  | orphans
  | related (key : Text)
  | impact (key : Text)
  | diagram (format : Option DiagramFormat) (key : Option Text)
  | unresolved
  deriving DecidableEq, Repr

/-- The key that has to be in the lineage for a view. -/
def Action.key? : Action → Option Text
  | related key | impact key => some key
  | diagram _ key => key
  | _ => none

/-- What the options before the command ask for, and the command with its own arguments. -/
structure Request where
  file : String
  rootName : Option Text
  skipValidation : Bool
  command : CommandName
  arguments : List String
  deriving DecidableEq, Repr

/-- The option for help, which every command has. -/
def helpOption : OptionSpec := ⟨"help", some 'h', false⟩

/-- The options before the command. -/
def programOptions : List OptionSpec :=
  [⟨"file", some 'f', true⟩, ⟨"root-name", none, true⟩, ⟨"no-validate", none, false⟩,
    ⟨"version", none, false⟩, helpOption]

/-- The options of a command. -/
def CommandName.options : CommandName → List OptionSpec
  | .export => [⟨"format", none, true⟩, ⟨"key", none, true⟩, helpOption]
  | _ => [helpOption]

/-- Reads arguments, unless they ask for help or for the version. -/
def readOrRefuse (specs : List OptionSpec) (mixed : Bool) (arguments : List String) :
    Except Refusal Arguments :=
  match Arguments.read specs mixed arguments with
  | .error e => .error (.usage e)
  | .ok a =>
    if a.has "help" then .error .help
    else if a.has "version" then .error .version
    else .ok a

/-- The request of a command line, its part behind the command unread. -/
def Request.ofArguments (arguments : List String) : Except Refusal Request :=
  match readOrRefuse programOptions false arguments with
  | .error r => .error r
  | .ok a =>
    match a.others with
    | [] => .error (.usage .missingCommand)
    | name :: rest =>
      match CommandName.ofText? name with
      | none => .error (.usage (.unknownCommand name))
      | some command =>
        .ok {
          file := (a.value? "file").getD "-"
          rootName := (a.value? "root-name").map .ofString
          skipValidation := a.has "no-validate"
          command := command
          arguments := rest }

/-- An action without arguments. -/
def withoutArgument (action : Action) : List String → Except Refusal Action
  | [] => .ok action
  | extra :: _ => .error (.usage (.extraArgument extra))

/-- An action with the key that is its only argument. -/
def withKey (action : Text → Action) : List String → Except Refusal Action
  | [] => .error (.usage .missingArgument)
  | [key] => .ok (action key)
  | _ :: extra :: _ => .error (.usage (.extraArgument extra))

/-- The format that an option gives, in any letter case. -/
def formatOption (value : Option String) : Except Refusal (Option DiagramFormat) :=
  match value with
  | none => .ok none
  | some text =>
    match DiagramFormat.ofName? (Text.lower text) with
    | some format => .ok (some format)
    | none => .error (.usage (.invalidFormat text))

/-- The view that a request asks for. -/
def Request.action (r : Request) : Except Refusal Action := do
  let a ← readOrRefuse r.command.options true r.arguments
  match r.command with
  | .graph => withoutArgument .tree a.others
  | .orphans => withoutArgument .orphans a.others
  | .related => withKey .related a.others
  | .impact => withKey .impact a.others
  | .missing => withoutArgument .unresolved a.others
  | .export =>
    let format ← formatOption (a.value? "format")
    withoutArgument (.diagram format ((a.value? "key").map .ofString)) a.others

end ClusterLineage.Command
