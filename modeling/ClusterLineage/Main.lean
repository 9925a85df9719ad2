import ClusterLineage.Command.Run

/-!
# The program

Reads the arguments, the environment and the batch, and prints what a run leaves behind: its output
to the standard output, its log and its error to the standard error.
-/

namespace ClusterLineage.Command

/-- What the names of all variables start with. -/
def variableStart : String := "CLUSTER_LINEAGE_"

/-- The variables of the environment that are set. -/
def readVariables : IO Settings.Environment :=
  ["LOG_LEVEL", "LOG_JSON", "ROOT_NAME", "VALIDATE_OWNERSHIP", "EXPORT_FORMAT"].filterMapM
    fun name => do
      let value ← IO.getEnv (variableStart ++ name)
      return value.map fun value => (name, value)

/-- The bytes up to the end of a stream. -/
partial def readAll (stream : IO.FS.Stream) (read : ByteArray) : IO ByteArray := do
  let bytes ← stream.read 65536
  if bytes.isEmpty then return read else readAll stream (read ++ bytes)

/-- The bytes of a file, if it can be read; a dash is the standard input. -/
def readFile (name : String) : IO (Option (List UInt8)) := do
  if name = "-" then
    return some (← readAll (← IO.getStdin) ByteArray.empty).toList
  else
    try
      return some (← IO.FS.readBinFile name).toList
    catch _ =>
      return none

/-- The line of an event in the log. -/
def logLine (asJson : Bool) (e : Event) : String :=
  if asJson then Json.oneLine (e.record "level")
  else ("[" ++ e.severity.name ++ "] " ++ e.component ++ ": " ++ e.name).escapeSurrogates

/-- How the program is called. -/
def usageText : String :=
  "Usage: cluster-lineage [--file FILE] [--root-name NAME] [--no-validate] COMMAND\n" ++
    "Commands: graph, orphans, related KEY, impact KEY, export [--format FORMAT] [--key KEY], " ++
    "missing\n"

/-- Runs the program and gives its exit code. -/
def runProgram (arguments : List String) : IO UInt32 := do
  let env ← readVariables
  let content ← match Request.ofArguments arguments with
    | .ok request => readFile request.file
    | .error _ => pure none
  match run env (fun _ => content) arguments with
  | .error (.usage e) =>
    IO.eprint (usageText ++ "\nError: " ++ e.message ++ "\n")
    return 2
  | .error .help =>
    IO.print usageText
    return 0
  | .error .version =>
    IO.println "cluster-lineage 1.0"
    return 0
  | .ok report =>
    for e in report.events do
      IO.eprintln (logLine report.logAsJson e)
    IO.print report.output
    if let some e := report.error? then
      IO.eprintln e.report
    return report.exitCode

end ClusterLineage.Command

/-- Runs the program on its arguments. -/
def main (arguments : List String) : IO UInt32 :=
  ClusterLineage.Command.runProgram arguments
