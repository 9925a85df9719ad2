import ClusterLineage.Command.Request
import ClusterLineage.Json.Reader
import ClusterLineage.Json.Writer
import ClusterLineage.Lineage.Impact
import ClusterLineage.Lineage.Intake
import ClusterLineage.Lineage.View
import ClusterLineage.Settings
import ClusterLineage.Text.ControlSequence
import ClusterLineage.Text.Encoded
import ClusterLineage.Text.Utf8

/-!
# Runs

A run reads a batch, builds its lineage and prints one view of it.  It is a function of the command
line, the variables of the environment and the contents of files.  A view is printed piece by piece,
so of a view that cannot be printed to its end the first pieces may be left behind.  Control
sequences of terminals are taken out of whatever is printed.
-/

namespace ClusterLineage.Command

/-- Why a run fails. -/
inductive RunError where
  | settings (e : SettingsError)
  | notUtf8 (e : Text.Utf8Error)
  | notJson (f : Json.LocatedFlaw)
  /-- The batch goes beyond what is read of a JSON text. -/
  | beyondLimits (e : Json.Excess)
  | unknownShape
  | build (e : LineageError)
  | unknownKey (key : Text)
  /-- The output has surrogates. -/
  | unwritable (e : Text.EncodeError)
  deriving DecidableEq, Repr

/-- The wording of an error. -/
def RunError.message : RunError → Text
  | settings e => e.message
  | notUtf8 e => "input is not valid UTF-8: " ++ e.message
  | notJson f => "input is not valid JSON: " ++ f.message
  | beyondLimits e => e.message
  | unknownShape => Batch.shapeMessage
  | build e => e.message
  | unknownKey key => "no resource with key " ++ Text.quoted key
  | unwritable e => e.message

/-- What is printed about an error: its wording, with surrogates written by their codes. -/
def RunError.report (e : RunError) : String :=
  ("Error: " ++ e.message).withoutControlSequences.escapeSurrogates

/-- What is printed before a run ends, and the error that ends it, if there is one. -/
structure Printout where
  output : String := ""
  error? : Option RunError := none
  deriving DecidableEq, Repr

/-- What a run leaves behind: what it has printed, and what was logged. -/
structure Report extends Printout where
  events : List Event := []
  logAsJson : Bool := true

/-- The output of a run or its error. -/
def Report.outcome (r : Report) : Except RunError String :=
  match r.error? with
  | none => .ok r.output
  | some e => .error e

/-- The exit code of a run: one if an error ends it. -/
def Report.exitCode (r : Report) : UInt32 :=
  if r.error?.isSome then 1 else 0

/-- A text as a line. -/
def line (t : Text) : Text :=
  t ++ "\n"

/-- What a view prints, piece by piece; `format` is for diagrams without a format of their own. -/
def Action.pieces (g : Lineage) (format : DiagramFormat) : Action → List Text
  | tree => [line (Json.pretty (g.tree none).toJson)]
  | orphans => g.orphanKeys.map line
  | related key => (g.relatedKeys key).map line
  | impact key => (g.impactOf key).map fun i => line (i.key ++ "\t" ++ i.reason.text)
  | diagram own key => [g.draw (own.getD format) key]
  | unresolved => (Unresolved.reportLines (Unresolved.report g.unresolved)).map line

/-- Prints pieces one after the other, up to the first one that has surrogates. -/
def printed : List Text → Printout
  | [] => {}
  | piece :: rest =>
    match piece.withoutControlSequences.encode with
    | .error e => { error? := some (.unwritable e) }
    | .ok text =>
      let after := printed rest
      { after with output := text ++ after.output }

/-- Reads the value of a JSON text from bytes. -/
def readPayload (bytes : List UInt8) : Except RunError Json :=
  match Text.decodeUtf8 bytes with
  | .error e => .error (.notUtf8 e)
  | .ok cs =>
    match Json.parse {} (Text.unifyLineEnds cs) with
    | .error (.malformed f) => .error (.notJson f)
    | .error (.beyondLimits e) => .error (.beyondLimits e)
    | .ok payload => .ok payload

/-- Reads a batch from bytes. -/
def readBatch (bytes : List UInt8) : Except RunError Batch :=
  match readPayload bytes with
  | .error e => .error e
  | .ok payload =>
    match Batch.ofJson? payload with
    | none => .error .unknownShape
    | some batch => .ok batch

/-- The first of some names that is given and not empty, or else a last one. -/
def firstName (names : List (Option Text)) (last : Text) : Text :=
  (names.findSome? Text.proper?).getD last

/-- Prints a view, if its key, should it have one, is in the lineage. -/
def Action.run (g : Lineage) (format : DiagramFormat) (action : Action) : Printout :=
  match action.key?.filter fun key => !g.contains key with
  | some key => { error? := some (.unknownKey key) }
  | none => printed (action.pieces g format)

/-- Builds the lineage of a batch and prints a view of it. -/
def runAction (settings : Settings) (request : Request) (action : Action) (bytes : List UInt8) :
    Report :=
  let report (printout : Printout) (events : List Event) : Report :=
    { printout with
      events := events.filter fun e => settings.logLevel.rank ≤ e.severity.rank
      logAsJson := settings.logAsJson }
  match readBatch bytes with
  | .error e => report { error? := some e } []
  | .ok batch =>
    let root := firstName [request.rootName, batch.rootName] settings.rootName
    let validate := settings.validateOwnership && !request.skipValidation
    let step := Lineage.build root batch.descriptors validate
    match step.outcome with
    | .error e =>
      report { error? := some (.build e) } (step.trace.events ++ [.buildFailed e.message])
    | .ok () => report (action.run step.lineage settings.format) step.trace.events

/-- Carries out a command line.  Its part before the command and the file named there come first,
then the settings, then the part behind the command. -/
def run (env : Settings.Environment) (file? : String → Option (List UInt8))
    (arguments : List String) : Except Refusal Report :=
  match Request.ofArguments arguments with
  | .error r => .error r
  | .ok request =>
    match file? request.file with
    | none => .error (.usage (.unreadableFile request.file))
    | some bytes =>
      match Settings.load env with
      | .error e => .ok { error? := some (.settings e) }
      | .ok settings =>
        match request.action with
        | .error r => .error r
        | .ok action => .ok (runAction settings request action bytes)

end ClusterLineage.Command
