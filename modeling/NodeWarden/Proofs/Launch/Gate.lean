import Mathlib.Tactic.Common
import NodeWarden.Proofs.Config.DomainName
import NodeWarden.Proofs.Launch.CommandLine
import NodeWarden.Proofs.Launch.Work
import NodeWarden.Proofs.Text.Trim

/-!
# The gate before a launch

Evaluator and executor do not check what they are given. What they rely on is checked once,
when the settings of the file, the environment and the command line have come together.
These are the settings in effect (`Effective`), and they have to be sound (`Sound`). If they
are, an agent is built of them (`Built`) and goes to work; else the program ends with an
error after nothing but a few notes in its log, on whatever machine it runs and however it
reads YAML.
-/

namespace NodeWarden

/-! ## Settings in effect -/

/-- The settings in a file, if they can be read; the defaults where there is no file. -/
def SettingsFile.settings? (read : Yaml.Reader) : SettingsFile → Option Config
  | absent => some .default
  | unreadable _ => none
  | text content => Config.ofText? content read

section
variable (env : Environment) (argv : List String)

open CommandLine (Given Flagged)

/-- The value of an option that is in force: the one on the command line, else the one of
its variable, else the one in the file. -/
inductive InForce (o : ValueOption) (file : Option String) : Option String → Prop
  | given {v : String} (value : Given o v argv) : InForce o file (some v)
  | variable {key v : String} (notGiven : ∀ v, ¬Given o v argv)
      (hasKey : o.environmentKey? = some key) (value : env.lookup key = some v) :
      InForce o file (some v)
  | inFile (notGiven : ∀ v, ¬Given o v argv)
      (unset : ∀ key, o.environmentKey? = some key → env.lookup key = none) :
      InForce o file file

/-- The settings of a file with what the environment and the command line say laid over them. -/
structure Effective (file c : Config) : Prop where
  nodeName : InForce env argv .nodeName file.nodeName c.nodeName
  mode : InForce env argv .mode file.mode c.mode
  visibleDevices : InForce env argv .visibleDevices file.visibleDevices c.visibleDevices
  dryRun : c.dryRun = true ↔ Flagged .dryRun argv ∨ file.dryRun = true
  rest : c = { file with
    nodeName := c.nodeName, mode := c.mode, visibleDevices := c.visibleDevices, dryRun := c.dryRun }

end

/-! ## Sound settings -/

/-- Settings under which an agent can work. -/
structure Sound (c : Config) : Prop where
  node : ∃ t name, c.nodeName = some t ∧ IsTrim t name ∧ name ≠ ""
  mode : ∃ t m, c.mode = some t ∧ PolicyMode.parse t = .ok m
  mask : ∃ t m, c.visibleDevices = some t ∧ VisibleDevices.parse t = .ok m
  debounce : 1 ≤ c.thresholds.debounce
  floors : c.thresholds.deleteFloor ≤ c.thresholds.cordonFloor
  interval : c.interval ≠ ⟨0⟩
  apiTimeout : c.executor.apiTimeout ≠ ⟨0⟩
  domainSize : c.executor.labelDomain.utf8ByteSize ≤ 253
  domain : ∀ l ∈ c.executor.labelDomain.toList.splitOn '.', IsDomainLabel l
  mock : c.deviceKind = .mock → c.mockMemory ≠ []
  port : c.metrics.enabled = true → c.metrics.port ≠ 0

/-- There are settings, and those in effect are sound. -/
def Admissible (read : Yaml.Reader) (env : Environment) (argv : List String) (file : SettingsFile) :
    Prop :=
  ∃ f c, file.settings? read = some f ∧ Effective env argv f c ∧ Sound c

/-- What an agent is built with under settings in effect. -/
structure Built (c : Config) (l : Launch) : Prop where
  node : ∃ t, c.nodeName = some t ∧ IsTrim t l.agent.node.name ∧ l.agent.node.name ≠ ""
  mode : ∃ t, c.mode = some t ∧ PolicyMode.parse t = .ok l.agent.mode
  mask : ∃ t, c.visibleDevices = some t ∧ VisibleDevices.parse t = .ok l.agent.mask
  debounce : 1 ≤ l.agent.thresholds.debounce
  floors : l.agent.thresholds.deleteFloor ≤ l.agent.thresholds.cordonFloor
  interval : l.agent.interval ≠ ⟨0⟩
  apiTimeout : l.agent.executor.scope.limit ≠ ⟨0⟩
  domainSize : l.agent.executor.config.labelDomain.utf8ByteSize ≤ 253
  domain : ∀ d ∈ l.agent.executor.config.labelDomain.toList.splitOn '.', IsDomainLabel d
  mock : l.source.backend.kind = .mock → ∃ ds, l.source.backend.list = .ok ds ∧ ds ≠ []
  dryRun : l.agent.executor.config.dryRun = c.dryRun
  /-- All that the agent goes by besides, and its devices, are as the settings have them. -/
  settings : l.agent.thresholds = c.thresholds ∧ l.agent.interval = c.interval ∧
    l.agent.executor.scope.limit = c.executor.apiTimeout ∧
    l.agent.executor.config = c.executorConfig ∧ l.source = .create c.deviceKind c.mockMemory

/-! ## The settings in effect are those of the launch -/

section
variable {env : Environment} {argv : List String} {args : Arguments}

open CommandLine (Reading)

theorem CommandLine.Reading.inForce_iff {r : Reading} (h : Reading.all argv ⟨[], [], none⟩ = .ok r)
    {o : ValueOption} (long : o ≠ .config) {inFile v : Option String} :
    InForce env argv o inFile v ↔ v = (r.value env o).or inFile := by
  have given := lookup_values_iff h long
  unfold Reading.value
  cases hl : r.values.lookup o with
  | some w =>
    rw [Option.some_or, Option.some_or]
    constructor
    · rintro (⟨value⟩ | ⟨notGiven, -, -⟩ | ⟨notGiven, -⟩)
      · rw [← hl, (given _).mpr value]
      · exact absurd ((given w).mp hl) (notGiven w)
      · exact absurd ((given w).mp hl) (notGiven w)
    · rintro rfl
      exact .given ((given w).mp hl)
  | none =>
    rw [Option.none_or]
    have notGiven (w : String) : ¬CommandLine.Given o w argv := by
      rw [← given, hl]
      exact nofun
    constructor
    · rintro (⟨value⟩ | ⟨-, hasKey, value⟩ | ⟨-, unset⟩)
      · exact absurd value (notGiven _)
      · simp [hasKey, value]
      · cases key : o.environmentKey? with
        | none => rfl
        | some k => simp [unset k key]
    · rintro rfl
      cases key : o.environmentKey? with
      | none => exact .inFile notGiven (by simp [key])
      | some k =>
        cases value : env.lookup k with
        | none =>
          simpa [value] using InForce.inFile notGiven
            fun k' hk' => Option.some.inj (key.symm.trans hk') ▸ value
        | some w => simpa [value] using InForce.variable notGiven key value

/-- Accepted arguments hold what was read, and else what the environment says. -/
theorem Arguments.parse_ok (h : Arguments.parse env argv = .ok args) :
    ∃ r, Reading.all argv ⟨[], [], none⟩ = .ok r ∧ args.nodeName = r.value env .nodeName ∧
      args.mode = r.value env .mode ∧ args.visibleDevices = r.value env .visibleDevices ∧
      args.dryRun = r.flags.contains .dryRun ∧ args.once = r.flags.contains .once := by
  obtain ⟨r, read, rest⟩ := exists_ok_of_bind h
  obtain ⟨jsonLogs, -, same⟩ := exists_ok_of_bind rest
  cases same
  exact ⟨r, read, rfl, rfl, rfl, rfl, rfl⟩

/-- The program is to evaluate only once if it is told so. -/
theorem Arguments.once_iff (h : Arguments.parse env argv = .ok args) :
    args.once = true ↔ CommandLine.Flagged .once argv := by
  obtain ⟨r, read, -, -, -, -, once⟩ := Arguments.parse_ok h
  rw [once, List.contains_iff_mem, r.mem_flags_iff read]

/-- The settings in effect are those that the program lays together. -/
theorem effective_iff (h : Arguments.parse env argv = .ok args) {f c : Config} :
    Effective env argv f c ↔ c = f.override args := by
  obtain ⟨r, read, name, mode, mask, dry, -⟩ := Arguments.parse_ok h
  have flagged : args.dryRun = true ↔ CommandLine.Flagged .dryRun argv := by
    rw [dry, List.contains_iff_mem, r.mem_flags_iff read]
  constructor
  · rintro ⟨hname, hmode, hmask, hdry, rest⟩
    rw [rest, (r.inForce_iff read (by decide)).mp hname, (r.inForce_iff read (by decide)).mp hmode,
      (r.inForce_iff read (by decide)).mp hmask, ← name, ← mode, ← mask]
    have dryRun : c.dryRun = (args.dryRun || f.dryRun) := by
      rw [Bool.eq_iff_iff, hdry, Bool.or_eq_true, flagged]
    rw [dryRun, Config.override]
  · rintro rfl
    refine ⟨(r.inForce_iff read (by decide)).mpr (by rw [← name]; rfl),
      (r.inForce_iff read (by decide)).mpr (by rw [← mode]; rfl),
      (r.inForce_iff read (by decide)).mpr (by rw [← mask]; rfl), ?_, rfl⟩
    rw [← flagged, Config.override, Bool.or_eq_true]

end

/-! ## What the program checks -/

theorem Thresholds.validate_ok_iff {t : Thresholds} :
    t.validate = .ok () ↔ 1 ≤ t.debounce ∧ t.deleteFloor ≤ t.cordonFloor := by
  have positive : t.debounce ≠ 0 ↔ 1 ≤ t.debounce := by
    rw [← UInt32.pos_iff_ne_zero]
    rfl
  unfold validate
  split
  · rename_i zero
    simp [zero]
  · rename_i nonzero
    split
    · rename_i reversed
      simp [UInt64.not_le.mpr reversed]
    · rename_i ordered
      simpa [positive.mp nonzero] using ordered

theorem Config.validate_ok_iff {c : Config} :
    c.validate = .ok () ↔ c.interval ≠ ⟨0⟩ ∧ c.executor.apiTimeout ≠ ⟨0⟩ ∧
      (c.metrics.enabled = true → c.metrics.port ≠ 0) ∧ (c.deviceKind = .mock → c.mockMemory ≠ []) ∧
      c.thresholds.validate = .ok () ∧ c.executorConfig.validate = .ok () := by
  have isZero (d : Duration) : d.isZero = true ↔ d = ⟨0⟩ := by
    cases d
    simp [Duration.isZero]
  unfold validate
  simp only [isZero]
  split
  · rename_i zero
    simp [zero]
  · split
    · rename_i zero
      simp [zero]
    · split
      · rename_i noPort
        simp [noPort]
      · split
        · rename_i noDevices
          simp [noDevices]
        · rename_i interval timeout port devices
          simp only [not_and] at port devices
          cases c.thresholds.validate with
          | error e => simp [ofSetting, Except.mapError, bind, Except.bind]
          | ok =>
            cases c.executorConfig.validate with
            | error e => simp [ofSetting, Except.mapError, bind, Except.bind]
            | ok =>
              simp only [ofSetting, Except.mapError, bind, Except.bind, true_iff]
              exact ⟨interval, timeout, port, devices, trivial, trivial⟩

theorem Launch.ofConfig_ok_iff {c : Config} {l : Launch} :
    Launch.ofConfig c = .ok l ↔ c.validate = .ok () ∧ l.config = c ∧ c.nodeIdentity = .ok l.node ∧
      c.policyMode = .ok l.mode ∧ c.deviceMask = .ok l.mask := by
  obtain ⟨config, node, mode, mask⟩ := l
  unfold ofConfig
  cases c.validate with
  | error e => simp [bind, Except.bind]
  | ok =>
    cases c.nodeIdentity with
    | error e => simp [ofSetting, Except.mapError, bind, Except.bind]
    | ok n =>
      cases c.policyMode with
      | error e => simp [ofSetting, Except.mapError, bind, Except.bind]
      | ok m =>
        cases c.deviceMask with
        | error e => simp [ofSetting, Except.mapError, bind, Except.bind]
        | ok d => simp [ofSetting, Except.mapError, bind, Except.bind, pure, Except.pure, eq_comm]

theorem Config.nodeIdentity_ok_iff {c : Config} {n : NodeIdentity} :
    c.nodeIdentity = .ok n ↔ ∃ t, c.nodeName = some t ∧ IsTrim t n.name ∧ n.name ≠ "" := by
  unfold nodeIdentity NodeIdentity.ofText
  cases c.nodeName with
  | none =>
    have blank : Text.trim "" = "" := by decide
    simp [blank]
  | some t =>
    obtain ⟨name⟩ := n
    simp only [isTrim_iff, Option.some.injEq, exists_eq_left']
    by_cases blank : Text.trim t = ""
    · simp [blank]
    · have named : Text.trim t = name ↔ name = Text.trim t ∧ name ≠ "" :=
        ⟨fun same => ⟨same.symm, same ▸ blank⟩, fun same => same.1.symm⟩
      simp [blank, ← named]

theorem Config.policyMode_ok_iff {c : Config} {m : PolicyMode} :
    c.policyMode = .ok m ↔ ∃ t, c.mode = some t ∧ PolicyMode.parse t = .ok m := by
  unfold policyMode PolicyMode.ofSetting
  cases c.mode <;> simp

theorem Config.deviceMask_ok_iff {c : Config} {m : VisibleDevices} :
    c.deviceMask = .ok m ↔ ∃ t, c.visibleDevices = some t ∧ VisibleDevices.parse t = .ok m := by
  unfold deviceMask VisibleDevices.ofSetting
  cases c.visibleDevices <;> simp

/-! ## The gate -/

/-- The program gets past its checks exactly with sound settings. -/
theorem sound_iff {c : Config} : Sound c ↔ ∃ l, Launch.ofConfig c = .ok l := by
  simp only [Launch.ofConfig_ok_iff, Config.validate_ok_iff, Thresholds.validate_ok_iff,
    ExecutorConfig.validate_ok_iff, Config.nodeIdentity_ok_iff, Config.policyMode_ok_iff,
    Config.deviceMask_ok_iff]
  constructor
  · intro h
    obtain ⟨t, name, node⟩ := h.node
    obtain ⟨u, m, mode⟩ := h.mode
    obtain ⟨v, d, mask⟩ := h.mask
    exact ⟨⟨c, ⟨name⟩, m, d⟩,
      ⟨h.interval, h.apiTimeout, h.port, h.mock, ⟨h.debounce, h.floors⟩, h.domainSize, h.domain⟩,
      rfl, ⟨t, node⟩, ⟨u, mode⟩, ⟨v, mask⟩⟩
  · rintro ⟨l, ⟨interval, timeout, port, mock, ⟨debounce, floors⟩, size, domain⟩, -, ⟨t, node⟩,
      ⟨u, mode⟩, ⟨v, mask⟩⟩
    exact ⟨⟨t, _, node⟩, ⟨u, _, mode⟩, ⟨v, _, mask⟩, debounce, floors, interval, timeout, size,
      domain, mock, port⟩

/-- What gets past the checks is built of the settings. -/
theorem built_of_ofConfig {c : Config} {l : Launch} (h : Launch.ofConfig c = .ok l) :
    Built c l := by
  have sound := sound_iff.mpr ⟨l, h⟩
  obtain ⟨-, rfl, node, mode, mask⟩ := Launch.ofConfig_ok_iff.mp h
  refine ⟨Config.nodeIdentity_ok_iff.mp node, Config.policyMode_ok_iff.mp mode,
    Config.deviceMask_ok_iff.mp mask, sound.debounce, sound.floors, sound.interval,
    sound.apiTimeout, sound.domainSize, sound.domain, fun mock => ?_, rfl,
    ⟨rfl, rfl, rfl, rfl, rfl⟩⟩
  cases kind : l.config.deviceKind with
  | nvidia =>
    rw [Launch.source, kind] at mock
    cases mock
  | mock =>
    refine ⟨_, by rw [Launch.source, kind]; rfl, fun none => ?_⟩
    have readings : l.config.mockMemory = [] := by
      simpa [MockDevices.withMemory, List.zipIdx_eq_nil_iff] using none
    exact sound.mock kind readings

section
variable {read : Yaml.Reader} {args : Arguments} {file : SettingsFile}

theorem load_ok_iff (path : String) {f : Config} :
    file.load path read = .ok f ↔ file.settings? read = some f := by
  cases file with
  | absent => simp [SettingsFile.load, SettingsFile.settings?]
  | unreadable reason => simp [SettingsFile.load, SettingsFile.settings?]
  | text content =>
    simp only [SettingsFile.load, SettingsFile.settings?]
    cases Config.ofText? content read <;> simp

/-- A launch is prepared of the settings in the file with the arguments laid over them. -/
theorem Launch.prepare_ok_iff {l : Launch} : prepare args file read = .ok l ↔
    ∃ f, file.settings? read = some f ∧ ofConfig (f.override args) = .ok l := by
  simp only [← load_ok_iff args.config]
  unfold prepare
  cases file.load args.config read with
  | error e => simp [bind, Except.bind]
  | ok f => cases h : ofConfig (f.override args) <;> simp [Except.mapError, bind, Except.bind, h]

end

/-- What the program logs before it prepares a launch. -/
def Launch.announcements (args : Arguments) : SettingsFile → List Log.Entry
  | .absent => [LaunchNote.starting.entry, (LaunchNote.fileMissing args.config).entry]
  | _ => [LaunchNote.starting.entry]

theorem Launch.announce_eq {σ : Type} [Machine σ] (args : Arguments) (file : SettingsFile) (w : σ) :
    announce args file w = noteAll (announcements args file) w := by
  cases file <;> rfl

/-- The gate before a launch, for one environment, command line and settings file. What the
arguments are read to is given too, and how YAML is read. -/
structure StartupGate (read : Yaml.Reader) (env : Environment) (argv : List String)
    (args : Arguments) (file : SettingsFile) : Prop where
  /-- There is one configuration in effect, whatever the file says. -/
  effective : ∀ f, ∃! c, Effective env argv f c
  /-- The program is stopped at the gate exactly if the settings are not admissible, -/
  stopped : ∀ {σ : Type} [Machine σ] (limit : Nat) (w : σ),
    (∃ fault w', Launch.run args file limit w read = some (.error (.launch fault), w')) ↔
      ¬Admissible read env argv file
  /-- and then it has done nothing but write notes, the same on every machine. -/
  untouched : ¬Admissible read env argv file →
    ∃ fault notes, ∀ {σ : Type} [Machine σ] (limit : Nat) (w : σ),
    Launch.run args file limit w read = some (.error (.launch fault), noteAll notes w)
  /-- With sound settings an agent is built of them, again after nothing but notes. It goes
  to work in its initial state: it evaluates once if that is asked for, and else it is kept
  running. -/
  passed : ∀ f c, file.settings? read = some f → Effective env argv f c → Sound c →
    ∃ l notes, Built c l ∧ ∀ {σ : Type} [Machine σ] (limit : Nat) (w : σ),
      (CommandLine.Flagged .once argv →
        ∃ r, Launch.run args file limit w read = some r ∧ l.Evaluated (noteAll notes w) r) ∧
      (¬CommandLine.Flagged .once argv →
        l.Watched limit (noteAll notes w) (Launch.run args file limit w read))

section
variable {read : Yaml.Reader} {env : Environment} {argv : List String} {args : Arguments}
  {file : SettingsFile}

/-- The settings are admissible exactly if a launch can be prepared of them. -/
theorem admissible_iff (h : Arguments.parse env argv = .ok args) :
    Admissible read env argv file ↔ ∃ l, Launch.prepare args file read = .ok l := by
  simp only [Admissible, effective_iff h, sound_iff, Launch.prepare_ok_iff]
  constructor
  · rintro ⟨f, _, loaded, rfl, l, checked⟩
    exact ⟨l, f, loaded, checked⟩
  · rintro ⟨l, f, loaded, checked⟩
    exact ⟨f, _, loaded, rfl, l, checked⟩

section
variable {σ : Type} [Machine σ]

theorem run_of_error {fault : LaunchFault} (h : Launch.prepare args file read = .error fault)
    (limit : Nat) (w : σ) :
    Launch.run args file limit w read =
      some (.error (.launch fault), noteAll (Launch.announcements args file) w) := by
  simp only [Launch.run, h, Launch.announce_eq]

/-- What is noted before an agent goes to work. -/
def Launch.preamble (l : Launch) (args : Arguments) (file : SettingsFile) : List Log.Entry :=
  announcements args file ++ [(LaunchNote.loaded l).entry]

theorem run_of_ok {l : Launch} (h : Launch.prepare args file read = .ok l) (limit : Nat) (w : σ) :
    Launch.run args file limit w read =
      if args.once then some (l.evaluate (noteAll (l.preamble args file) w))
      else l.watch limit (noteAll (l.preamble args file) w) := by
  simp only [Launch.run, h, Launch.announce_eq, Launch.tell, Launch.preamble, noteAll,
    List.foldl_append, List.foldl_cons, List.foldl_nil]

/-- A launch that was prepared sends its agent to work. -/
theorem run_works {l : Launch} (h : Launch.prepare args file read = .ok l) (limit : Nat) (w : σ) :
    (args.once = true → ∃ r, Launch.run args file limit w read = some r ∧
      l.Evaluated (noteAll (l.preamble args file) w) r) ∧
    (args.once = false →
      l.Watched limit (noteAll (l.preamble args file) w) (Launch.run args file limit w read)) := by
  rw [run_of_ok h]
  constructor
  · intro once
    rw [if_pos once]
    exact ⟨_, rfl, l.evaluate_evaluated _⟩
  · intro kept
    rw [if_neg (by simpa using kept)]
    exact l.watch_watched limit _

/-- It never ends with a fault of the launch. -/
theorem run_ne_launch {l : Launch} (h : Launch.prepare args file read = .ok l) (limit : Nat)
    (w w' : σ) (fault : LaunchFault) :
    Launch.run args file limit w read ≠ some (.error (.launch fault), w') := by
  obtain ⟨evaluated, watched⟩ := run_works h limit w
  intro ended
  cases once : args.once with
  | true =>
    obtain ⟨r, ran, went⟩ := evaluated once
    exact went.ne_launch fault (congrArg Prod.fst (Option.some.inj (ran.symm.trans ended)))
  | false => exact (ended ▸ watched once : l.Watched limit _ _).ne_launch fault rfl

end

/-- Whatever the file, the environment and the command line say, the gate stands. -/
theorem startup_gate (read : Yaml.Reader) (h : Arguments.parse env argv = .ok args)
    (file : SettingsFile) :
    StartupGate read env argv args file where
  effective f := by
    simp only [effective_iff h]
    exact ⟨_, rfl, fun _ same => same⟩
  stopped := by
    intro σ _ limit w
    rw [admissible_iff h]
    cases prepared : Launch.prepare args file read with
    | error fault => simp [run_of_error prepared]
    | ok l => simp [run_ne_launch prepared]
  untouched := by
    rw [admissible_iff h]
    intro refused
    cases prepared : Launch.prepare args file read with
    | error fault => exact ⟨fault, _, fun limit w => run_of_error prepared limit w⟩
    | ok l => exact absurd ⟨l, prepared⟩ refused
  passed := by
    intro f c loaded effective sound
    obtain rfl := (effective_iff h).mp effective
    obtain ⟨l, checked⟩ := sound_iff.mp sound
    have prepared := Launch.prepare_ok_iff.mpr ⟨f, loaded, checked⟩
    rw [← Arguments.once_iff h, Bool.not_eq_true]
    exact ⟨l, _, built_of_ofConfig checked, fun limit w => run_works prepared limit w⟩

/-- The gate stands for an agent that is named in the environment and told the rest on the
command line, and lets it pass; and for one that is told nothing, which it stops. -/
theorem startup_gate_named_and_unnamed :
    let env := [("NODE_NAME", " gpu-1\n"), ("MODE", "MeanFreeMemory")]
    let argv := ["--mode=MaxFreeMemory", "--visible-devices", "all", "--dry-run"]
    let file := SettingsFile.text "mock_devices: []\ninterval: 5s\n"
    let read := Yaml.Node.ofText?
    (∃ args, Arguments.parse env argv = .ok args ∧ StartupGate read env argv args file ∧
      Admissible read env argv file) ∧
    ∃ args, Arguments.parse [] [] = .ok args ∧ StartupGate read [] [] args .absent ∧
      ¬Admissible read [] [] .absent := by
  intro env argv file read
  constructor
  · let args : Arguments :=
      ⟨"/etc/gnsa/config.yaml", some " gpu-1\n", some "MaxFreeMemory", some "all", "info",
        false, true, false⟩
    have accepted : Arguments.parse env argv = .ok args := by decide +kernel
    refine ⟨args, accepted, startup_gate read accepted file, (admissible_iff accepted).mpr ?_⟩
    let c : Config := { Config.default with mockMemory := [], interval := .ofSeconds 5 }
    have settings : file.settings? read = some c := by decide +kernel
    exact ⟨⟨c.override args, ⟨"gpu-1"⟩, .maxFreeMemory, .all⟩,
      Launch.prepare_ok_iff.mpr ⟨c, settings, by decide +kernel⟩⟩
  · let args : Arguments := ⟨"/etc/gnsa/config.yaml", none, none, none, "info", false, false, false⟩
    have accepted : Arguments.parse [] [] = .ok args := by decide +kernel
    have refused :
        Launch.prepare args .absent read = .error (.refused (.invalid .missingNodeName)) := by
      decide +kernel
    refine ⟨args, accepted, startup_gate read accepted .absent, fun h => ?_⟩
    obtain ⟨l, prepared⟩ := (admissible_iff accepted).mp h
    cases refused.symm.trans prepared

end

end NodeWarden
