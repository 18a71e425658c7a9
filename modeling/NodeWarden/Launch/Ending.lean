import NodeWarden.Launch.Run
import NodeWarden.Log.Filter

/-!
# How the program ends

What a run of the program leaves to whoever started it: an exit code, the lines that it
wrote, and the log entries that were wanted. Arguments that are refused end it before
anything is logged.
-/

namespace NodeWarden

/-- What a run of the program leaves behind. -/
structure Ending where
  exitCode : Nat
  /-- The lines of its output, the log aside. -/
  output : List String
  /-- The log entries that are wanted. -/
  entries : List Log.Entry
  /-- The lines of complaints and errors. -/
  errors : List String

namespace UsageFault

/-- The lines that tell how the program is called. -/
def help : List String := [
  "GPU Node Selection Agent - per-node GPU memory scoring and node lifecycle actions",
  "",
  "Usage: gnsa [OPTIONS]",
  "",
  "Options:",
  "  -c, --config <CONFIG>       Path to configuration file [default: /etc/gnsa/config.yaml]",
  "      --node-name <NAME>      Node name (overrides config) [env: NODE_NAME]",
  "      --mode <MODE>           Policy mode (MaxFreeMemory or MeanFreeMemory) [env: MODE]",
  "      --visible-devices <M>   Visible device mask [env: NVIDIA_VISIBLE_DEVICES]",
  "      --log-level <LEVEL>     Log level [env: GNSA_LOG_LEVEL] [default: info]",
  "      --log-json              Output logs in JSON format [env: GNSA_LOG_JSON]",
  "      --dry-run               Dry run mode - log node actions but don't execute",
  "      --once                  Sample and evaluate once, print the verdict and exit",
  "  -h, --help                  Print help",
  "  -V, --version               Print version"]

/-- What is said of arguments that are refused. -/
def message : UsageFault → String
  | unknownArgument => "error: an argument is not known"
  | invalidValue => "error: a value is missing or not allowed"
  | repeated => "error: an option is given more than once"
  | unexpectedValue => "error: a value is given to an option that takes none"
  | helpWanted | versionWanted => ""

/-- How the program ends when it is not to run. -/
def ending : UsageFault → Ending
  | helpWanted => ⟨0, help, [], []⟩
  | versionWanted => ⟨0, [s!"gnsa {programVersion}"], [], []⟩
  | fault => ⟨2, [], [], [fault.message]⟩

end UsageFault

/-- The filter for the log, with complaints about how it is written: the one in the environment, if
there is one and nothing is wrong with it, and else the one among the arguments. -/
def Arguments.logFilter (env : Environment) (args : Arguments) : Log.Filter × List String :=
  match (env.lookup "RUST_LOG").bind Log.Filter.parse? with
  | some f => (f, [])
  | none => Log.Filter.parseLossy args.logLevel

/-- How the program ends after a run, from what it logged. -/
def Ending.ofRun (env : Environment) (args : Arguments) (log : List Log.Entry) :
    Except RunFault Unit → Ending :=
  let (filter, complaints) := args.logFilter env
  let entries := log.filter filter.wants
  fun
  | .ok () => ⟨0, [], entries, complaints⟩
  | .error fault => ⟨1, [], entries, complaints ++ fault.lines⟩

end NodeWarden
