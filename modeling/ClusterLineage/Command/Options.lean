/-!
# Options on a command line

Options have a long name after two dashes and may have a letter after one.  A value follows behind
an equals sign, behind the letter, or as the next argument, where it may look like an option itself.
Letters without values can share a dash.  Two dashes alone end the options.
-/

namespace ClusterLineage.Command

/-- An option that a command takes. -/
structure OptionSpec where
  name : String
  letter : Option Char := none
  takesValue : Bool := true
  deriving DecidableEq, Repr

/-- What can be wrong with a command line. -/
inductive UsageError where
  | unknownOption (name : String)
  | missingValue (name : String)
  | unwantedValue (name : String)
  | missingCommand
  | unknownCommand (name : String)
  | missingArgument
  | extraArgument (argument : String)
  | invalidFormat (value : String)
  | unreadableFile (name : String)
  deriving DecidableEq, Repr

/-- The wording of an error. -/
def UsageError.message : UsageError → String
  | unknownOption name => "No such option: " ++ name
  | missingValue name => "Option '" ++ name ++ "' requires an argument."
  | unwantedValue name => "Option '" ++ name ++ "' does not take a value."
  | missingCommand => "Missing command."
  | unknownCommand name => "No such command '" ++ name ++ "'."
  | missingArgument => "Missing argument 'KEY'."
  | extraArgument argument => "Got unexpected extra argument (" ++ argument ++ ")"
  | invalidFormat value => "Invalid value for '--format': '" ++ value ++ "' is not a known format."
  | unreadableFile name => "Invalid value for '--file': '" ++ name ++ "' cannot be read."

/-- The options that were given with their values, the last first, and the other arguments. -/
structure Arguments where
  options : List (String × String) := []
  others : List String := []
  deriving DecidableEq, Repr

/-- The last value given for an option. -/
def Arguments.value? (a : Arguments) (name : String) : Option String :=
  a.options.lookup name

/-- Whether an option was given. -/
def Arguments.has (a : Arguments) (name : String) : Bool :=
  (a.value? name).isSome

/-- The part of an argument before its first equals sign and the part behind it, if it has one. -/
def splitEquals (argument : List Char) : List Char × Option (List Char) :=
  match argument.span (· != '=') with
  | (name, []) => (name, none)
  | (name, _ :: value) => (name, some value)

/-- The options that were read, the last first, and the arguments left. -/
abbrev Progress := List (String × String) × List String

/-- Takes the value of an option from the next argument. -/
def takeNext (name : String) (read : List (String × String)) :
    List String → Except UsageError Progress
  | [] => .error (.missingValue name)
  | value :: rest => .ok ((name, value) :: read, rest)

/-- Reads the letters behind one dash. -/
def readLetters (specs : List OptionSpec) (read : List (String × String)) (rest : List String) :
    List Char → Except UsageError Progress
  | [] => .ok (read, rest)
  | c :: cs =>
    match specs.find? (·.letter == some c) with
    | none => .error (.unknownOption (String.ofList ['-', c]))
    | some spec =>
      if spec.takesValue then
        if cs.isEmpty then takeNext spec.name read rest
        else .ok ((spec.name, String.ofList cs) :: read, rest)
      else readLetters specs ((spec.name, "") :: read) rest cs

/-- Reads one argument that is an option. -/
def readOption (specs : List OptionSpec) (read : List (String × String)) (argument : List Char)
    (rest : List String) : Except UsageError Progress :=
  let (name, value?) := splitEquals argument
  match specs.find? fun spec => '-' :: '-' :: spec.name.toList == name with
  | some spec =>
    match spec.takesValue, value? with
    | true, some value => .ok ((spec.name, String.ofList value) :: read, rest)
    | true, none => takeNext spec.name read rest
    | false, some _ => .error (.unwantedValue spec.name)
    | false, none => .ok ((spec.name, "") :: read, rest)
  | none =>
    if ['-', '-'].isPrefixOf argument then .error (.unknownOption (String.ofList name))
    else readLetters specs read rest (argument.drop 1)

/-- Reads arguments after those already read, which stand in reverse order.  Each step reads at
least one, so as much fuel as arguments is enough. -/
def readArguments (specs : List OptionSpec) (mixed : Bool) :
    Nat → List (String × String) → List String → List String → Except UsageError Arguments
  | 0, read, others, rest => .ok ⟨read, others.reverse ++ rest⟩
  | _ + 1, read, others, [] => .ok ⟨read, others.reverse⟩
  | fuel + 1, read, others, argument :: rest =>
    if argument = "--" then .ok ⟨read, others.reverse ++ rest⟩
    else if argument.toList.head? = some '-' && argument ≠ "-" then
      match readOption specs read argument.toList rest with
      | .error e => .error e
      | .ok (read, rest) => readArguments specs mixed fuel read others rest
    else if mixed then readArguments specs mixed fuel read (argument :: others) rest
    else .ok ⟨read, others.reverse ++ argument :: rest⟩

/-- Reads a command line.  If `mixed` is set, options may stand behind other arguments; otherwise
the first other argument ends them. -/
def Arguments.read (specs : List OptionSpec) (mixed : Bool) (arguments : List String) :
    Except UsageError Arguments :=
  readArguments specs mixed arguments.length [] [] arguments

end ClusterLineage.Command
