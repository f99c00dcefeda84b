/-!
# Arguments

What the program can be asked on its command line: to run with a configuration file, or to tell
its version or its options. This file fixes

* `Request` and `UsageProblem`, with `Request.ofArguments`, which reads the arguments. The first
  argument that settles the matter wins: what stands behind it is not read;
* the texts that are shown.
-/

namespace Vitals.CommandLine

/-- The name of the program. -/
def programName : String :=
  "sys-exporter"

/-- The configuration file of a run for which none is named. -/
def defaultConfig : String :=
  ".exporter.yaml"

/-! ## 1. Requests -/

inductive Request where
  | run (config : String)
  /-- Show the options, one line each. -/
  | summary
  /-- Show the options at length. -/
  | help
  | version
  deriving DecidableEq, Repr

/-- Why arguments are refused. -/
inductive UsageProblem where
  | unexpected (argument : String)
  | valueMissing
  /-- The configuration file is named twice. -/
  | repeated
  /-- A flag that takes no value has one. -/
  | valueUnexpected (flag value : String)
  deriving DecidableEq, Repr

/-- Names the configuration file; an empty name is none, and no second one may follow. -/
def withConfig (config : Option String) (value : List Char) : Except UsageProblem (Option String) :=
  if value = [] then .error .valueMissing
  else
    match config with
    | some _ => .error .repeated
    | none => .ok (some (String.ofList value))

/-- What an argument makes of the reading. -/
inductive Reading where
  /-- The request is settled. -/
  | settled (request : Request)
  | named (config : Option String)
  /-- The next argument is the value. -/
  | valueNext

/-- Reads the letters behind a single dash. -/
def readLetters (argument : String) (config : Option String) :
    List Char → Except UsageProblem Reading
  | 'h' :: _ => .ok (.settled .summary)
  | 'V' :: _ => .ok (.settled .version)
  | ['c'] => .ok .valueNext
  | 'c' :: '=' :: value => (withConfig config value).map .named
  | 'c' :: value => (withConfig config value).map .named
  | _ => .error (.unexpected argument)

/-- Reads a word behind two dashes. -/
def readWord (argument : String) (config : Option String) (cs : List Char) :
    Except UsageProblem Reading :=
  let word := String.ofList (cs.takeWhile (· ≠ '='))
  let value : Option (List Char) :=
    match cs.dropWhile (· ≠ '=') with
    | _ :: value => some value
    | [] => none
  match word, value with
  | "config", none => .ok .valueNext
  | "config", some value => (withConfig config value).map .named
  | "help", none => .ok (.settled .help)
  | "version", none => .ok (.settled .version)
  | "help", some value => .error (.valueUnexpected "--help" (String.ofList value))
  | "version", some value => .error (.valueUnexpected "--version" (String.ofList value))
  | _, _ => .error (.unexpected argument)

/-- Reads the arguments, with the configuration file named so far. Behind two dashes alone no
options follow. -/
def readArguments (config : Option String) : List String → Except UsageProblem Request
  | [] => .ok (.run (config.getD defaultConfig))
  | argument :: rest =>
    let reading : Except UsageProblem Reading :=
      match argument.toList with
      | ['-', '-'] =>
        match rest with
        | [] => .ok (.named config)
        | next :: _ => .error (.unexpected next)
      | '-' :: '-' :: cs => readWord argument config cs
      | '-' :: c :: cs => readLetters argument config (c :: cs)
      | _ => .error (.unexpected argument)
    match reading, rest with
    | .error problem, _ => .error problem
    | .ok (.settled request), _ => .ok request
    | .ok (.named config), rest => readArguments config rest
    | .ok .valueNext, [] => .error .valueMissing
    | .ok .valueNext, value :: rest =>
      match value.toList with
      | '-' :: _ :: _ => .error .valueMissing
      | cs =>
        match withConfig config cs with
        | .error problem => .error problem
        | .ok config => readArguments config rest

/-- What the arguments ask for. -/
def Request.ofArguments (arguments : List String) : Except UsageProblem Request :=
  readArguments none arguments

/-! ## 2. Texts -/

def versionText : String :=
  programName ++ " 0.1.0\n"

def usageText : String :=
  "Usage: " ++ programName ++ " [OPTIONS]\n"

/-- The options, one line each. -/
def summaryText : String :=
  "Host telemetry exporter\n\n" ++ usageText
    ++ "\nOptions:\n"
    ++ "  -c, --config <CONFIG>  Path to the YAML configuration file [default: "
    ++ defaultConfig ++ "]\n"
    ++ "  -h, --help             Print help (see more with '--help')\n"
    ++ "  -V, --version          Print version\n"

/-- The options at length. -/
def helpText : String :=
  "Host telemetry exporter\n\n"
    ++ "Samples host metrics, averages them into snapshots, appends every snapshot to a rotating "
    ++ "log and streams it to connected TCP clients as JSON lines.\n\n"
    ++ usageText
    ++ "\nOptions:\n"
    ++ "  -c, --config <CONFIG>\n"
    ++ "          Path to the YAML configuration file\n"
    ++ "          \n"
    ++ "          [default: " ++ defaultConfig ++ "]\n\n"
    ++ "  -h, --help\n"
    ++ "          Print help (see a summary with '-h')\n\n"
    ++ "  -V, --version\n"
    ++ "          Print version\n"

/-- The wording of a usage problem. -/
def UsageProblem.message : UsageProblem → String
  | .unexpected argument => "unexpected argument '" ++ argument ++ "' found"
  | .valueMissing => "a value is required for '--config <CONFIG>' but none was supplied"
  | .repeated => "the argument '--config <CONFIG>' cannot be used multiple times"
  | .valueUnexpected flag value =>
    "unexpected value '" ++ value ++ "' for '" ++ flag ++ "' found; no more were expected"

/-- What is shown for arguments that are refused. -/
def UsageProblem.text (p : UsageProblem) : String :=
  "error: " ++ p.message ++ "\n\n" ++ usageText ++ "\nFor more information, try '--help'.\n"

end Vitals.CommandLine
