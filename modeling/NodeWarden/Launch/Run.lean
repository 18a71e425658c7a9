import NodeWarden.Agent.Run
import NodeWarden.Kubernetes.Client
import NodeWarden.Launch.Note

/-!
# Runs of the program

What the program does from its start to its end on a machine. It prepares a launch before it does
anything else, and then either evaluates once or keeps an agent running until it is told to stop.
-/

namespace NodeWarden

/-- A machine that the program runs on. -/
class Machine (σ : Type) extends Schedule σ, Kubernetes.HttpTransport σ where
  /-- Whether the machine is told how to reach the API of a cluster. -/
  knowsCluster : σ → Bool
  /-- The machine with the given devices in use. -/
  useDevices : DeviceSource → σ → σ

/-- Why the program ends with an error. -/
inductive RunFault where
  | launch (fault : LaunchFault)
  | sampling (error : DeviceError)
  /-- The machine is not told how to reach a cluster. -/
  | noCluster
deriving Repr, DecidableEq

namespace RunFault

/-- What went wrong, followed by its causes. -/
def report : RunFault → List String
  | launch fault => fault.report
  | sampling error => ["Sampling failed", error.message]
  | noCluster => ["Failed to create Kubernetes client"]

/-- The lines in which the program says what went wrong. Several causes are numbered. -/
def lines (f : RunFault) : List String :=
  match f.report with
  | [] => []
  | [fault] => [s!"Error: {fault}"]
  | [fault, cause] => [s!"Error: {fault}", "", "Caused by:", s!"    {cause}"]
  | fault :: causes =>
    [s!"Error: {fault}", "", "Caused by:"] ++ causes.zipIdx.map
      fun (cause, i) => s!"    {i}: {cause}"

end RunFault

namespace Launch

variable {σ : Type} [Machine σ] (l : Launch)

/-- Writes a note into the log. -/
def tell (n : LaunchNote) (w : σ) : σ :=
  note n.entry w

/-- Sets the agent up on a machine. -/
def setUp (w : σ) : σ :=
  let w := Machine.useDevices l.source w
  let w :=
    match l.config.deviceKind with
    | .mock => tell (.mockDevices l.config.mockMemory.length) w
    | .nvidia => w
  tell (.configured l) w

/-- Has the agent sample and evaluate once. -/
def evaluate (w : σ) : Except RunFault Unit × σ :=
  let w := l.setUp (tell .onlyOnce w)
  match l.agent.evaluateOnce (Schedule.devices w) l.agent.initial w with
  | (.ok v, _, w) => (.ok (), tell (.verdictReached v) w)
  | (.error e, _, w) => (.error (.sampling e), w)

/-- Says so if the API of the cluster does not answer. -/
def checkHealth (w : σ) : σ :=
  match Kubernetes.checkHealth w with
  | (true, w) => w
  | (false, w) => tell (.unhealthy Kubernetes.healthMessage) w

/-- Keeps the agent running until it is told to stop, unless it takes more than the given number of
turns. -/
def watch (limit : Nat) (w : σ) : Option (Except RunFault Unit × σ) :=
  if Machine.knowsCluster w then do
    let w := l.setUp (checkHealth (tell .connected w))
    let w := if l.config.metrics.enabled then tell (.servingMetrics l.config.metrics) w else w
    let loop ← l.agent.run limit l.agent.initial w
    return (.ok (), tell .finished loop.world)
  else some (.error .noCluster, w)

/-- Writes what there is to say about the settings file. -/
def announce (args : Arguments) (file : SettingsFile) (w : σ) : σ :=
  let w := tell .starting w
  match file with
  | .absent => tell (.fileMissing args.config) w
  | _ => w

/-- Runs the program, which reads YAML in the given way. -/
def run (args : Arguments) (file : SettingsFile) (limit : Nat) (w : σ)
    (read : Yaml.Reader := Yaml.Node.ofText?) : Option (Except RunFault Unit × σ) :=
  let w := announce args file w
  match prepare args file read with
  | .error fault => some (.error (.launch fault), w)
  | .ok l =>
    let w := tell (.loaded l) w
    if args.once then some (l.evaluate w) else l.watch limit w

end Launch

end NodeWarden
