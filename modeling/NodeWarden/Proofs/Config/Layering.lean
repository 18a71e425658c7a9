import NodeWarden.Config.Reader
import NodeWarden.Proofs.Yaml.Entries

/-!
# Settings over defaults

A settings file says something about some settings and nothing about the others. What it
says is a layer (`ConfigLayer`), with layers of their own for the sections; to read the file
is to lay it over the defaults (`LayeringLaws.layered`), whatever reader finds the document
in its text. Hence what a file leaves out has its default, whether the key is left out, or
the section, or only what is in it, and neither the order of the keys nor those that mean
nothing here make a difference.
-/

namespace NodeWarden

open Yaml (Node AlikeFor Gives Repeats)
open ConfigFile

/-! ## Layers -/

/-- What is said about the thresholds. -/
structure ThresholdsLayer where
  cordonFloor : Option UInt64
  deleteFloor : Option UInt64
  debounce : Option UInt32

/-- What is said about the executor. -/
structure ExecutorLayer where
  apiTimeout : Option Duration
  allowDelete : Option Bool
  publishScore : Option Bool
  labelDomain : Option String
  maxBackoffTicks : Option UInt32

/-- What is said about the metrics. -/
structure MetricsLayer where
  enabled : Option Bool
  port : Option UInt16
  path : Option String

/-- What is said about the settings. -/
structure ConfigLayer where
  deviceKind : Option BackendKind
  mockMemory : Option (List MemoryReading)
  nodeName : Option (Option String)
  mode : Option (Option String)
  visibleDevices : Option (Option String)
  interval : Option Duration
  thresholds : Option ThresholdsLayer
  executor : Option ExecutorLayer
  metrics : Option MetricsLayer
  dryRun : Option Bool

/-! Settings under a layer: what it says, and below it what was there before. -/

def ThresholdsLayer.over (l : ThresholdsLayer) (t : Thresholds) : Thresholds where
  cordonFloor := l.cordonFloor.getD t.cordonFloor
  deleteFloor := l.deleteFloor.getD t.deleteFloor
  debounce := l.debounce.getD t.debounce

def ExecutorLayer.over (l : ExecutorLayer) (s : ExecutorSettings) : ExecutorSettings where
  apiTimeout := l.apiTimeout.getD s.apiTimeout
  allowDelete := l.allowDelete.getD s.allowDelete
  publishScore := l.publishScore.getD s.publishScore
  labelDomain := l.labelDomain.getD s.labelDomain
  maxBackoffTicks := l.maxBackoffTicks.getD s.maxBackoffTicks

def MetricsLayer.over (l : MetricsLayer) (s : MetricsSettings) : MetricsSettings where
  enabled := l.enabled.getD s.enabled
  port := l.port.getD s.port
  path := l.path.getD s.path

def ConfigLayer.over (l : ConfigLayer) (c : Config) : Config where
  deviceKind := l.deviceKind.getD c.deviceKind
  mockMemory := l.mockMemory.getD c.mockMemory
  nodeName := l.nodeName.getD c.nodeName
  mode := l.mode.getD c.mode
  visibleDevices := l.visibleDevices.getD c.visibleDevices
  interval := l.interval.getD c.interval
  thresholds := (l.thresholds.map (·.over c.thresholds)).getD c.thresholds
  executor := (l.executor.map (·.over c.executor)).getD c.executor
  metrics := (l.metrics.map (·.over c.metrics)).getD c.metrics
  dryRun := l.dryRun.getD c.dryRun

/-! ## Layers in documents -/

/-- The entries of a mapping say of a setting what a layer does, its value being read in the
given way. -/
abbrev Says {α : Type} (entries : List (Node × Node)) (name : String) (read : Node → Option α)
    (said : Option α) : Prop :=
  Gives entries name (fun n a => read n = some a) said

/-- The entries of the section say what the layer does. -/
structure ThresholdsLayer.Entered (entries : List (Node × Node)) (l : ThresholdsLayer) : Prop where
  cordonFloor : Says entries "cordon_floor_bytes" word64? l.cordonFloor
  deleteFloor : Says entries "delete_floor_bytes" word64? l.deleteFloor
  debounce : Says entries "debounce_ticks" word32? l.debounce

structure ExecutorLayer.Entered (entries : List (Node × Node)) (l : ExecutorLayer) : Prop where
  apiTimeout : Says entries "api_timeout" duration? l.apiTimeout
  allowDelete : Says entries "allow_delete" Node.flag? l.allowDelete
  publishScore : Says entries "publish_score" Node.flag? l.publishScore
  labelDomain : Says entries "label_prefix" Node.text? l.labelDomain
  maxBackoffTicks : Says entries "max_backoff_ticks" word32? l.maxBackoffTicks

structure MetricsLayer.Entered (entries : List (Node × Node)) (l : MetricsLayer) : Prop where
  enabled : Says entries "enabled" Node.flag? l.enabled
  port : Says entries "port" word16? l.port
  path : Says entries "path" Node.text? l.path

/-! A section is a mapping, or it is missing and says nothing. -/

def ThresholdsLayer.Written (n : Node) (l : ThresholdsLayer) : Prop :=
  ∃ entries, n.IsMapping entries ∧ l.Entered entries

def ExecutorLayer.Written (n : Node) (l : ExecutorLayer) : Prop :=
  ∃ entries, n.IsMapping entries ∧ l.Entered entries

def MetricsLayer.Written (n : Node) (l : MetricsLayer) : Prop :=
  ∃ entries, n.IsMapping entries ∧ l.Entered entries

/-- The entries of the document say what the layer does, in three of them by sections. -/
structure ConfigLayer.Entered (entries : List (Node × Node)) (l : ConfigLayer) : Prop where
  deviceKind : Says entries "device_type" backendKind? l.deviceKind
  mockMemory : Says entries "mock_devices" mockMemory? l.mockMemory
  nodeName : Says entries "node_name" Node.optionalText? l.nodeName
  mode : Says entries "mode" Node.optionalText? l.mode
  visibleDevices : Says entries "visible_devices" Node.optionalText? l.visibleDevices
  interval : Says entries "interval" duration? l.interval
  thresholds : Gives entries "thresholds" ThresholdsLayer.Written l.thresholds
  executor : Gives entries "executor" ExecutorLayer.Written l.executor
  metrics : Gives entries "metrics" MetricsLayer.Written l.metrics
  dryRun : Says entries "dry_run" Node.flag? l.dryRun

/-- The document says what the layer does, and nothing else that has a meaning. -/
def ConfigLayer.Written (n : Node) (l : ConfigLayer) : Prop :=
  ∃ entries, n.IsMapping entries ∧ l.Entered entries

/-! ## Keys -/

def thresholdsKeys : List String := ["cordon_floor_bytes", "delete_floor_bytes", "debounce_ticks"]

def executorKeys : List String :=
  ["api_timeout", "allow_delete", "publish_score", "label_prefix", "max_backoff_ticks"]

def metricsKeys : List String := ["enabled", "port", "path"]

def configKeys : List String :=
  ["device_type", "mock_devices", "node_name", "mode", "visible_devices", "interval",
    "thresholds", "executor", "metrics", "dry_run"]

/-- The sections, and the keys that mean something in each. -/
def sections : List (String × List String) :=
  [("thresholds", thresholdsKeys), ("executor", executorKeys), ("metrics", metricsKeys)]

/-- Two documents that differ in nothing that means something: in the order of keys and in
keys that mean nothing, at the top or in a section, and in sections that say nothing. -/
inductive SameSettings : Node → Node → Prop
  | top {n m : Node} : AlikeFor configKeys n m → SameSettings n m
  | within {name : String} {keys : List String} {before after : List (Node × Node)}
      {key n m : Node} :
      (name, keys) ∈ sections → key.isKey name = true → AlikeFor keys n m →
      SameSettings (.mapping (before ++ (key, n) :: after)) (.mapping (before ++ (key, m) :: after))
  | leftOut {name : String} {keys : List String} {before after : List (Node × Node)}
      {key n : Node} :
      (name, keys) ∈ sections → key.isKey name = true → AlikeFor keys n .missing →
      (∀ e ∈ before ++ after, e.1.isKey name = false) →
      SameSettings (.mapping (before ++ (key, n) :: after)) (.mapping (before ++ after))
  | trans {n m k : Node} : SameSettings n m → SameSettings m k → SameSettings n k

/-- A document in which a key that means something is there twice, at the top or in a section. -/
inductive Ambiguous : Node → Prop
  | top {n : Node} : Repeats configKeys n → Ambiguous n
  | within {name : String} {keys : List String} {before after : List (Node × Node)} {key n : Node} :
      (name, keys) ∈ sections → key.isKey name = true → Repeats keys n →
      Ambiguous (.mapping (before ++ (key, n) :: after))

/-- What the settings of a file are, by the document that a reader of YAML finds in it. -/
structure LayeringLaws (read : Yaml.Reader) (text : String) : Prop where
  /-- A file is read if it says something that has a meaning, and then this is laid over the
  defaults. -/
  layered : ∀ c, Config.ofText? text read = some c ↔
    ∃ n l, read text = some n ∧ ConfigLayer.Written n l ∧ c = l.over Config.default
  /-- A file in which there is no document leaves the defaults. -/
  blank : read text = some .missing → Config.ofText? text read = some Config.default
  /-- Neither the order of the keys nor one that means nothing makes a difference, nor a
  section that says nothing. -/
  same : ∀ other n m, read text = some n → read other = some m → SameSettings n m →
    Config.ofText? text read = Config.ofText? other read
  /-- A key that is there twice is refused. -/
  ambiguous : ∀ n, read text = some n → Ambiguous n → Config.ofText? text read = none

namespace ConfigFile

/-! ## Sections -/

section
variable {α : Type} {entries : List (Node × Node)} {name : String} {default a : α}
  {read : Node → Option α}

theorem readKey_eq_some_iff_says : Node.readKey entries name default read = some a ↔
    ∃ said, Says entries name read said ∧ a = said.getD default := by
  have reads (n : Node) (a : α) : read n = some a ↔ ∃ b, read n = some b ∧ a = id b := by simp
  rw [Node.readKey_eq_some_iff reads]
  simp only [Option.map_id_fun, id_eq]

end

theorem thresholds?_eq_some_iff {n : Node} {t : Thresholds} :
    thresholds? n = some t ↔ ∃ l, ThresholdsLayer.Written n l ∧ t = l.over .default := by
  simp only [thresholds?, Option.bind_eq_bind, Option.bind_eq_some_iff, Node.entries?_eq_some_iff,
    readKey_eq_some_iff_says, Option.pure_def, Option.some.injEq]
  constructor
  · rintro ⟨es, mapping, _, ⟨cordonFloor, h₁, rfl⟩, _, ⟨deleteFloor, h₂, rfl⟩, _,
      ⟨debounce, h₃, rfl⟩, rfl⟩
    exact ⟨⟨cordonFloor, deleteFloor, debounce⟩, ⟨es, mapping, h₁, h₂, h₃⟩, rfl⟩
  · rintro ⟨l, ⟨es, mapping, h⟩, rfl⟩
    exact ⟨es, mapping, _, ⟨_, h.cordonFloor, rfl⟩, _, ⟨_, h.deleteFloor, rfl⟩, _,
      ⟨_, h.debounce, rfl⟩, rfl⟩

theorem executor?_eq_some_iff {n : Node} {s : ExecutorSettings} :
    executor? n = some s ↔ ∃ l, ExecutorLayer.Written n l ∧ s = l.over .default := by
  simp only [executor?, Option.bind_eq_bind, Option.bind_eq_some_iff, Node.entries?_eq_some_iff,
    readKey_eq_some_iff_says, Option.pure_def, Option.some.injEq]
  constructor
  · rintro ⟨es, mapping, _, ⟨timeout, h₁, rfl⟩, _, ⟨delete, h₂, rfl⟩, _, ⟨publish, h₃, rfl⟩, _,
      ⟨domain, h₄, rfl⟩, _, ⟨backoff, h₅, rfl⟩, rfl⟩
    exact ⟨⟨timeout, delete, publish, domain, backoff⟩, ⟨es, mapping, h₁, h₂, h₃, h₄, h₅⟩, rfl⟩
  · rintro ⟨l, ⟨es, mapping, h⟩, rfl⟩
    exact ⟨es, mapping, _, ⟨_, h.apiTimeout, rfl⟩, _, ⟨_, h.allowDelete, rfl⟩, _,
      ⟨_, h.publishScore, rfl⟩, _, ⟨_, h.labelDomain, rfl⟩, _, ⟨_, h.maxBackoffTicks, rfl⟩, rfl⟩

theorem metrics?_eq_some_iff {n : Node} {s : MetricsSettings} :
    metrics? n = some s ↔ ∃ l, MetricsLayer.Written n l ∧ s = l.over .default := by
  simp only [metrics?, Option.bind_eq_bind, Option.bind_eq_some_iff, Node.entries?_eq_some_iff,
    readKey_eq_some_iff_says, Option.pure_def, Option.some.injEq]
  constructor
  · rintro ⟨es, mapping, _, ⟨enabled, h₁, rfl⟩, _, ⟨port, h₂, rfl⟩, _, ⟨path, h₃, rfl⟩, rfl⟩
    exact ⟨⟨enabled, port, path⟩, ⟨es, mapping, h₁, h₂, h₃⟩, rfl⟩
  · rintro ⟨l, ⟨es, mapping, h⟩, rfl⟩
    exact ⟨es, mapping, _, ⟨_, h.enabled, rfl⟩, _, ⟨_, h.port, rfl⟩, _, ⟨_, h.path, rfl⟩, rfl⟩

end ConfigFile

theorem Config.ofNode?_eq_some_iff {n : Node} {c : Config} :
    Config.ofNode? n = some c ↔ ∃ l, ConfigLayer.Written n l ∧ c = l.over .default := by
  simp only [Config.ofNode?, Option.bind_eq_bind, Option.bind_eq_some_iff,
    Node.entries?_eq_some_iff, readKey_eq_some_iff_says,
    Node.readKey_eq_some_iff (fun n t => thresholds?_eq_some_iff),
    Node.readKey_eq_some_iff (fun n t => executor?_eq_some_iff),
    Node.readKey_eq_some_iff (fun n t => metrics?_eq_some_iff), Option.pure_def,
    Option.some.injEq]
  constructor
  · rintro ⟨es, mapping, _, ⟨kind, h₁, rfl⟩, _, ⟨memory, h₂, rfl⟩, _, ⟨node, h₃, rfl⟩, _,
      ⟨mode, h₄, rfl⟩, _, ⟨devices, h₅, rfl⟩, _, ⟨interval, h₆, rfl⟩, _, ⟨thresholds, h₇, rfl⟩, _,
      ⟨executor, h₈, rfl⟩, _, ⟨metrics, h₉, rfl⟩, _, ⟨dryRun, h₁₀, rfl⟩, rfl⟩
    exact ⟨⟨kind, memory, node, mode, devices, interval, thresholds, executor, metrics, dryRun⟩,
      ⟨es, mapping, h₁, h₂, h₃, h₄, h₅, h₆, h₇, h₈, h₉, h₁₀⟩, rfl⟩
  · rintro ⟨l, ⟨es, mapping, h⟩, rfl⟩
    exact ⟨es, mapping, _, ⟨_, h.deviceKind, rfl⟩, _, ⟨_, h.mockMemory, rfl⟩, _,
      ⟨_, h.nodeName, rfl⟩, _, ⟨_, h.mode, rfl⟩, _, ⟨_, h.visibleDevices, rfl⟩, _,
      ⟨_, h.interval, rfl⟩, _, ⟨_, h.thresholds, rfl⟩, _, ⟨_, h.executor, rfl⟩, _,
      ⟨_, h.metrics, rfl⟩, _, ⟨_, h.dryRun, rfl⟩, rfl⟩

/-! ## Documents that say the same -/

section
variable {n m : Node}

theorem thresholds?_of_alike (h : AlikeFor thresholdsKeys n m) : thresholds? n = thresholds? m := by
  obtain ⟨es, es', entries, entries', same⟩ := h.readKey
  simp only [thresholdsKeys, List.forall_mem_cons] at same
  simp only [thresholds?, entries, entries', Option.bind_eq_bind, Option.bind_some, same]

theorem executor?_of_alike (h : AlikeFor executorKeys n m) : executor? n = executor? m := by
  obtain ⟨es, es', entries, entries', same⟩ := h.readKey
  simp only [executorKeys, List.forall_mem_cons] at same
  simp only [executor?, entries, entries', Option.bind_eq_bind, Option.bind_some, same]

theorem metrics?_of_alike (h : AlikeFor metricsKeys n m) : metrics? n = metrics? m := by
  obtain ⟨es, es', entries, entries', same⟩ := h.readKey
  simp only [metricsKeys, List.forall_mem_cons] at same
  simp only [metrics?, entries, entries', Option.bind_eq_bind, Option.bind_some, same]

theorem ofNode?_of_alike (h : AlikeFor configKeys n m) : Config.ofNode? n = Config.ofNode? m := by
  obtain ⟨es, es', entries, entries', same⟩ := h.readKey
  simp only [configKeys, List.forall_mem_cons] at same
  simp only [Config.ofNode?, entries, entries', Option.bind_eq_bind, Option.bind_some, same]

variable {name : String} {keys : List String} {before after : List (Node × Node)} {key : Node}

/-- Two nodes are read alike by the reader of the section with the name. -/
structure SectionAlike (name : String) (n m : Node) : Prop where
  thresholds : name = "thresholds" → thresholds? n = thresholds? m
  executor : name = "executor" → executor? n = executor? m
  metrics : name = "metrics" → metrics? n = metrics? m

theorem SectionAlike.of_alikeFor (h : (name, keys) ∈ sections) (alike : AlikeFor keys n m) :
    SectionAlike name n m := by
  simp only [sections, List.mem_cons, Prod.mk.injEq, List.not_mem_nil, or_false] at h
  obtain ⟨rfl, rfl⟩ | ⟨rfl, rfl⟩ | ⟨rfl, rfl⟩ := h
  · exact ⟨fun _ => thresholds?_of_alike alike, fun e => absurd e (by decide),
      fun e => absurd e (by decide)⟩
  · exact ⟨fun e => absurd e (by decide), fun _ => executor?_of_alike alike,
      fun e => absurd e (by decide)⟩
  · exact ⟨fun e => absurd e (by decide), fun e => absurd e (by decide),
      fun _ => metrics?_of_alike alike⟩

/-- The readers of all other keys see no difference between two mappings that differ in one
section. -/
theorem ofNode?_of_section {es es' : List (Node × Node)} (h : (name, keys) ∈ sections)
    (scalars : es.all (·.1.isScalar) = es'.all (·.1.isScalar))
    (others : ∀ other ∈ configKeys, other ≠ name →
      ∀ (α : Type) (default : α) (read : Node → Option α), Node.readKey es other default read =
      Node.readKey es' other default read)
    (thresholds : name = "thresholds" →
      Node.readKey es "thresholds" .default thresholds? =
      Node.readKey es' "thresholds" .default thresholds?)
    (executor : name = "executor" →
      Node.readKey es "executor" .default executor? =
      Node.readKey es' "executor" .default executor?)
    (metrics : name = "metrics" →
      Node.readKey es "metrics" .default metrics? = Node.readKey es' "metrics" .default metrics?) :
    Config.ofNode? (.mapping es) = Config.ofNode? (.mapping es') := by
  simp only [Config.ofNode?, Node.entries?, scalars]
  simp only [configKeys, List.forall_mem_cons, ne_eq] at others
  split
  · simp only [sections, List.mem_cons, Prod.mk.injEq, List.not_mem_nil, or_false] at h
    obtain ⟨rfl, -⟩ | ⟨rfl, -⟩ | ⟨rfl, -⟩ := h
    · simp only [String.reduceEq, not_true, not_false_eq_true, true_implies, false_implies]
        at others thresholds
      simp only [Option.bind_eq_bind, Option.bind_some, others, thresholds]
    · simp only [String.reduceEq, not_true, not_false_eq_true, true_implies, false_implies]
        at others executor
      simp only [Option.bind_eq_bind, Option.bind_some, others, executor]
    · simp only [String.reduceEq, not_true, not_false_eq_true, true_implies, false_implies]
        at others metrics
      simp only [Option.bind_eq_bind, Option.bind_some, others, metrics]
  · rfl

/-- A section can be replaced by one that is the same to its reader. -/
theorem ofNode?_within (h : (name, keys) ∈ sections) (found : key.isKey name = true)
    (alike : AlikeFor keys n m) :
    Config.ofNode? (.mapping (before ++ (key, n) :: after)) =
      Config.ofNode? (.mapping (before ++ (key, m) :: after)) := by
  have same := SectionAlike.of_alikeFor h alike
  refine ofNode?_of_section h (by simp) (fun other _ ne _ _ _ => ?_) (fun isName => ?_)
    (fun isName => ?_) fun isName => ?_
  · exact Node.readKey_of_value fun isOther => absurd (Node.eq_of_isKey isOther found) ne
  · exact Node.readKey_of_value fun _ => same.thresholds isName
  · exact Node.readKey_of_value fun _ => same.executor isName
  · exact Node.readKey_of_value fun _ => same.metrics isName

/-- A section that says nothing can be left out. -/
theorem ofNode?_leftOut (h : (name, keys) ∈ sections) (found : key.isKey name = true)
    (silent : AlikeFor keys n .missing) (clear : ∀ e ∈ before ++ after, e.1.isKey name = false) :
    Config.ofNode? (.mapping (before ++ (key, n) :: after)) =
      Config.ofNode? (.mapping (before ++ after)) := by
  have same := SectionAlike.of_alikeFor h silent
  have scalar := Node.isScalar_of_isKey found
  have own {α : Type} (default : α) (read : Node → Option α) (empty : read n = some default) :
      Node.readKey (before ++ (key, n) :: after) name default read =
        Node.readKey (before ++ after) name default read := by
    rw [Node.readKey_of_singleton (Node.filter_isKey_eq_singleton found clear),
      Node.readKey_of_nil (Node.filter_isKey_eq_nil clear), empty]
  refine ofNode?_of_section h (by simp [scalar]) (fun other _ ne _ _ _ => ?_) ?_ ?_ ?_
  · exact Node.readKey_of_other (Node.isKey_eq_false_of_ne found ne)
  · rintro rfl
    exact own _ _ (same.thresholds rfl)
  · rintro rfl
    exact own _ _ (same.executor rfl)
  · rintro rfl
    exact own _ _ (same.metrics rfl)

theorem ofNode?_of_same (h : SameSettings n m) : Config.ofNode? n = Config.ofNode? m := by
  induction h with
  | top alike => exact ofNode?_of_alike alike
  | within h found alike => exact ofNode?_within h found alike
  | leftOut h found silent clear => exact ofNode?_leftOut h found silent clear
  | trans _ _ ih ih' => exact ih.trans ih'

end

/-! ## Keys that are there twice -/

section
variable {n : Node}

theorem ThresholdsLayer.not_written (h : Repeats thresholdsKeys n) (l : ThresholdsLayer) :
    ¬ l.Written n := by
  rintro ⟨es, isMapping, said⟩
  refine h.not_isMapping isMapping ?_
  simp only [thresholdsKeys, List.forall_mem_cons]
  exact ⟨said.cordonFloor.length_filter_le_one, said.deleteFloor.length_filter_le_one,
    said.debounce.length_filter_le_one, nofun⟩

theorem ExecutorLayer.not_written (h : Repeats executorKeys n) (l : ExecutorLayer) :
    ¬ l.Written n := by
  rintro ⟨es, isMapping, said⟩
  refine h.not_isMapping isMapping ?_
  simp only [executorKeys, List.forall_mem_cons]
  exact ⟨said.apiTimeout.length_filter_le_one, said.allowDelete.length_filter_le_one,
    said.publishScore.length_filter_le_one, said.labelDomain.length_filter_le_one,
    said.maxBackoffTicks.length_filter_le_one, nofun⟩

theorem MetricsLayer.not_written (h : Repeats metricsKeys n) (l : MetricsLayer) :
    ¬ l.Written n := by
  rintro ⟨es, isMapping, said⟩
  refine h.not_isMapping isMapping ?_
  simp only [metricsKeys, List.forall_mem_cons]
  exact ⟨said.enabled.length_filter_le_one, said.port.length_filter_le_one,
    said.path.length_filter_le_one, nofun⟩

theorem ConfigLayer.not_written (h : Ambiguous n) (l : ConfigLayer) : ¬ l.Written n := by
  rintro ⟨es, isMapping, said⟩
  cases h with
  | top twice =>
    refine twice.not_isMapping isMapping ?_
    simp only [configKeys, List.forall_mem_cons]
    exact ⟨said.deviceKind.length_filter_le_one, said.mockMemory.length_filter_le_one,
      said.nodeName.length_filter_le_one, said.mode.length_filter_le_one,
      said.visibleDevices.length_filter_le_one, said.interval.length_filter_le_one,
      said.thresholds.length_filter_le_one, said.executor.length_filter_le_one,
      said.metrics.length_filter_le_one, said.dryRun.length_filter_le_one, nofun⟩
  | @within name keys before after key v inSection found twice =>
    cases isMapping with
    | mapping =>
      have listed : (key, v) ∈ before ++ (key, v) :: after :=
        List.mem_append_right _ List.mem_cons_self
      simp only [sections, List.mem_cons, Prod.mk.injEq, List.not_mem_nil, or_false] at inSection
      obtain ⟨rfl, rfl⟩ | ⟨rfl, rfl⟩ | ⟨rfl, rfl⟩ := inSection
      · obtain ⟨l', written⟩ := said.thresholds.reads_of_mem listed found
        exact l'.not_written twice written
      · obtain ⟨l', written⟩ := said.executor.reads_of_mem listed found
        exact l'.not_written twice written
      · obtain ⟨l', written⟩ := said.metrics.reads_of_mem listed found
        exact l'.not_written twice written

end

/-! ## Files -/

theorem Config.ofText?_of_node {read : Yaml.Reader} {text : String} {n : Node}
    (h : read text = some n) : Config.ofText? text read = Config.ofNode? n := by
  rw [Config.ofText?, h]
  rfl

/-- The laws hold of every file, however YAML is read. -/
theorem layering_laws (read : Yaml.Reader) (text : String) : LayeringLaws read text where
  layered c := by
    constructor
    · intro h
      obtain ⟨n, document, accepted⟩ := Option.bind_eq_some_iff.1 h
      obtain ⟨l, written, rfl⟩ := Config.ofNode?_eq_some_iff.1 accepted
      exact ⟨n, l, document, written, rfl⟩
    · rintro ⟨n, l, document, written, rfl⟩
      rw [Config.ofText?_of_node document]
      exact Config.ofNode?_eq_some_iff.2 ⟨l, written, rfl⟩
  blank none := by
    rw [Config.ofText?_of_node none]
    rfl
  same other n m document document' h := by
    rw [Config.ofText?_of_node document, Config.ofText?_of_node document', ofNode?_of_same h]
  ambiguous n document h := by
    rw [Config.ofText?_of_node document, Option.eq_none_iff_forall_ne_some]
    intro c accepted
    obtain ⟨l, written, -⟩ := Config.ofNode?_eq_some_iff.1 accepted
    exact l.not_written h written

example : Config.ofText? "metrics: {port: 9200, x: [1]}\nthresholds:\nmode: a" =
    some { Config.default with
      mode := some "a"
      metrics := { MetricsSettings.default with port := 9200 } } := by
  decide +kernel

/-- A key that is no scalar is not passed over, although it means nothing. -/
theorem sequence_key_refused :
    Node.ofText? "[a]: 1\n" = some (.mapping [(.sequence [.scalar "a" true], .scalar "1" true)]) ∧
      (∀ name ∈ configKeys, (Node.sequence [.scalar "a" true]).isKey name = false) ∧
      ∀ read : Yaml.Reader, read "[a]: 1\n" = Node.ofText? "[a]: 1\n" →
        Config.ofText? "[a]: 1\n" read = none := by
  have tokens : Yaml.Token.ofText? "[a]: 1\n" = some [.blockMappingStart, .key, .flowSequenceStart,
      .scalar "a" true, .flowSequenceEnd, .value, .scalar "1" true, .blockEnd] := by decide +kernel
  have document : Node.ofText? "[a]: 1\n" =
      some (.mapping [(.sequence [.scalar "a" true], .scalar "1" true)]) := by
    rw [Node.ofText?, tokens]
    rfl
  refine ⟨document, by decide, fun read same => ?_⟩
  rw [Config.ofText?_of_node (same.trans document)]
  rfl

end NodeWarden
