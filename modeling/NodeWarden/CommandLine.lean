/-!
# The command line

The arguments and environment variables that an agent is started with. Arguments are options with a
value, which may be attached to them or be the next argument, and flags. No option may be given
twice. An option that is not given takes its value from a variable of the environment, if it has one
and that is set.

An option whose value is the next argument is settled only when something else comes after it or the
arguments end. Until then an argument that is not known at all is the graver fault.
-/

namespace NodeWarden

/-- The variables of an environment. -/
abbrev Environment := List (String × String)

/-- An option with a value. -/
inductive ValueOption where
  | config
  | nodeName
  | mode
  | visibleDevices
  | logLevel
deriving Repr, DecidableEq

namespace ValueOption

/-- The variable that an option takes its value from if it is not given. -/
def environmentKey? : ValueOption → Option String
  | config => none
  | nodeName => some "NODE_NAME"
  | mode => some "MODE"
  | visibleDevices => some "NVIDIA_VISIBLE_DEVICES"
  | logLevel => some "GNSA_LOG_LEVEL"

/-- Whether an option may have a value. A path may not be empty. -/
def accepts (o : ValueOption) (value : String) : Bool :=
  o != config || value != ""

end ValueOption

/-- An option without a value. -/
inductive FlagOption where
  | logJson
  | dryRun
  | once
  | help
  | version
deriving Repr, DecidableEq

/-- An option of either kind. -/
inductive CommandOption where
  | valued (option : ValueOption)
  | flag (option : FlagOption)
deriving Repr, DecidableEq

namespace CommandOption

/-- The option with a long name. -/
def ofLong? : String → Option CommandOption
  | "config" => some (valued .config)
  | "node-name" => some (valued .nodeName)
  | "mode" => some (valued .mode)
  | "visible-devices" => some (valued .visibleDevices)
  | "log-level" => some (valued .logLevel)
  | "log-json" => some (flag .logJson)
  | "dry-run" => some (flag .dryRun)
  | "once" => some (flag .once)
  | "help" => some (flag .help)
  | "version" => some (flag .version)
  | _ => none

/-- The option with a name of one letter. -/
def ofShort? : Char → Option CommandOption
  | 'c' => some (valued .config)
  | 'h' => some (flag .help)
  | 'V' => some (flag .version)
  | _ => none

end CommandOption

/-- Why no agent is started with some arguments. -/
inductive UsageFault where
  | unknownArgument
  /-- A value that is missing or not allowed. -/
  | invalidValue
  /-- An option that is given twice. -/
  | repeated
  /-- A value for an option that takes none. -/
  | unexpectedValue
  | helpWanted
  | versionWanted
deriving Repr, DecidableEq

/-- What an agent is started with. -/
structure Arguments where
  config : String
  nodeName : Option String
  mode : Option String
  visibleDevices : Option String
  logLevel : String
  logJson : Bool
  dryRun : Bool
  once : Bool
deriving Repr, DecidableEq

namespace CommandLine

/-- A reader of arguments in the middle of its work. -/
structure Reading where
  values : List (ValueOption × String)
  flags : List FlagOption
  /-- An option that is not settled yet, with its value if that has come. -/
  pending : Option (ValueOption × Option String)
deriving Repr, DecidableEq

namespace Reading

/-- Settles an option with its value. -/
def setValue (o : ValueOption) (value : Option String) (r : Reading) : Except UsageFault Reading :=
  match value with
  | none => .error .invalidValue
  | some v =>
    if (r.values.lookup o).isSome then .error .repeated
    else if o.accepts v then .ok { r with values := (o, v) :: r.values }
    else .error .invalidValue

/-- Settles the option that is pending. -/
def settle (r : Reading) : Except UsageFault Reading :=
  match r.pending with
  | none => .ok r
  | some (o, value) => { r with pending := none }.setValue o value

/-- Reads a flag. -/
def setFlag (f : FlagOption) (r : Reading) : Except UsageFault Reading := do
  let r ← r.settle
  match f with
  | .help => .error .helpWanted
  | .version => .error .versionWanted
  | f => if r.flags.contains f then .error .repeated else .ok { r with flags := f :: r.flags }

/-- Reads an option with a value, which is attached to it or comes next. -/
def openOption (o : ValueOption) (attached : Option String) (r : Reading) :
    Except UsageFault Reading := do
  let r ← r.settle
  match attached with
  | some v => r.setValue o (some v)
  | none => .ok { r with pending := some (o, none) }

/-- Reads an argument that is no option: the value of a pending option, or nothing that is known. -/
def plain (arg : String) (r : Reading) : Except UsageFault Reading :=
  match r.pending with
  | some (o, none) => .ok { r with pending := some (o, some arg) }
  | _ => .error .unknownArgument

/-- Reads an argument with two hyphens in front, a value attached to it after an equals sign. -/
def long (name : String) (attached : Option String) (r : Reading) : Except UsageFault Reading :=
  match CommandOption.ofLong? name, attached with
  | none, _ => .error .unknownArgument
  | some (.valued o), attached => r.openOption o attached
  | some (.flag f), none => r.setFlag f
  | some (.flag _), some _ => .error .unexpectedValue

/-- The value that directly follows a name of one letter, its equals sign left out. -/
def attachedTo : List Char → Option String
  | [] => none
  | '=' :: cs => some (.ofList cs)
  | cs => some (.ofList cs)

/-- Reads the letters after a single hyphen. -/
def short : List Char → Reading → Except UsageFault Reading
  | [], r => .ok r
  | c :: cs, r =>
    match CommandOption.ofShort? c with
    | none => .error .unknownArgument
    | some (.valued o) => r.openOption o (attachedTo cs)
    | some (.flag f) => do short cs (← r.setFlag f)

/-- Reads arguments up to the end, where a pending option is settled. After two hyphens
alone nothing is an option any more, and there is nothing else to be given. -/
def all : List String → Reading → Except UsageFault Reading
  | [], r => r.settle
  | arg :: args, r =>
    match arg.toList with
    | ['-', '-'] => if args.isEmpty then r.settle else .error .unknownArgument
    | '-' :: '-' :: cs => do
      let name := cs.takeWhile (· != '=')
      let attached := cs.drop name.length
      let value := if attached.isEmpty then none else some (String.ofList (attached.drop 1))
      all args (← r.long (.ofList name) value)
    | '-' :: c :: cs => do all args (← r.short (c :: cs))
    | _ => do all args (← r.plain arg)

/-- The value of an option: the given one, or else that of its variable. -/
def value (env : Environment) (r : Reading) (o : ValueOption) : Option String :=
  (r.values.lookup o).or (o.environmentKey?.bind (List.lookup · env))

end Reading

/-- Whether logs are to be written as JSON: the flag or its variable says so. The variable is looked
at only if the flag is not given, and may then hold nothing but a truth value. -/
def jsonLogs (env : Environment) (r : Reading) : Except UsageFault Bool :=
  if r.flags.contains .logJson then .ok true
  else
    match env.lookup "GNSA_LOG_JSON" with
    | none | some "false" => .ok false
    | some "true" => .ok true
    | some _ => .error .invalidValue

end CommandLine

open CommandLine in
/-- Reads the arguments and the environment that an agent is started with. -/
def Arguments.parse (env : Environment) (args : List String) : Except UsageFault Arguments := do
  let r ← Reading.all args ⟨[], [], none⟩
  return {
    config := (r.value env .config).getD "/etc/gnsa/config.yaml"
    nodeName := r.value env .nodeName
    mode := r.value env .mode
    visibleDevices := r.value env .visibleDevices
    logLevel := (r.value env .logLevel).getD "info"
    logJson := ← jsonLogs env r
    dryRun := r.flags.contains .dryRun
    once := r.flags.contains .once }

end NodeWarden
