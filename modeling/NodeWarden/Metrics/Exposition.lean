import NodeWarden.Metrics.Basic
import NodeWarden.Number.Decimal

/-!
# The text of metrics

Metrics as lines of text: for each family a line of help, a line with its type and a line for each
value. Families are in the order of their names, and one without a value is left out.
-/

namespace NodeWarden

/-- A family of metrics, as it is shown. -/
structure MetricFamily where
  name : String
  help : String
  type : String
  /-- What is appended to the name, the labels, and the text of the value. -/
  values : List (String × List (String × String) × String)
deriving Repr

namespace MetricFamily

/-- A character as it stands between the quotes of a label value. -/
def escapeChar : Char → List Char
  | '\\' => ['\\', '\\']
  | '"' => ['\\', '"']
  | '\n' => ['\\', 'n']
  | c => [c]

/-- A label as it is shown. -/
def labelText (l : String × String) : String :=
  l.1 ++ "=\"" ++ String.ofList (l.2.toList.flatMap escapeChar) ++ "\""

/-- Labels as they are shown: in braces, and if there are none, not at all. -/
def labelsText (labels : List (String × String)) : String :=
  if labels.isEmpty then ""
  else "\x7b" ++ ",".intercalate (labels.map labelText) ++ "\x7d"

/-- The lines of a family. -/
def lines (f : MetricFamily) : List String :=
  if f.values.isEmpty then []
  else
    s!"# HELP {f.name} {f.help}" :: s!"# TYPE {f.name} {f.type}" ::
      f.values.map fun (part, labels, value) => f.name ++ part ++ labelsText labels ++ " " ++ value

/-- The values of a series, whose labels have the given names. -/
def seriesValues {β : Type} (names : List String) (write : β → String) (s : Series β) :
    List (String × List (String × String) × String) :=
  s.map fun (key, v) => ("", names.zip key, write v)

/-- A single value without labels. -/
def single (text : String) : List (String × List (String × String) × String) :=
  [("", [], text)]

end MetricFamily

/-- A float as metrics show it. -/
def metricNumber (x : Float) : String := Number.FloatStyle.plain.write x

/-- The values of a histogram: for each bound how many values do not exceed it, then the sum and the
number of values. -/
def Histogram.values (h : Histogram) : List (String × List (String × String) × String) :=
  let ends := bounds.map metricNumber ++ ["+Inf"]
  let counts := cumulative 0 h.buckets ++ [h.count]
  (ends.zip counts).map (fun (bound, n) => ("_bucket", [("le", bound)], toString n))
    ++ [("_sum", [], metricNumber h.sum), ("_count", [], toString h.count)]

namespace Metrics

/-- The families of an agent's metrics, in the order of their names. -/
def families (m : Metrics) : List MetricFamily :=
  [⟨"gnsa_device_free_bytes", "GPU free memory in bytes", "gauge",
      MetricFamily.seriesValues ["device"] metricNumber m.freeBytes⟩,
    ⟨"gnsa_device_free_ratio", "GPU free memory as a fraction of total", "gauge",
      MetricFamily.seriesValues ["device"] metricNumber m.freeRatio⟩,
    ⟨"gnsa_node_actions_total", "Total number of node action outcomes", "counter",
      MetricFamily.seriesValues ["outcome"] toString m.nodeActions⟩,
    ⟨"gnsa_node_score", "Node score under the configured policy mode", "gauge",
      MetricFamily.single (metricNumber m.nodeScore)⟩,
    ⟨"gnsa_observe_only", "Whether node mutation has been disabled after a permission failure",
      "gauge", MetricFamily.single (if m.observeOnly then "1" else "0")⟩,
    ⟨"gnsa_tick_duration_seconds", "Duration of a sample/evaluate/apply tick", "histogram",
      m.tickDuration.values⟩,
    ⟨"gnsa_tick_failures_total", "Total number of failed tick stages", "counter",
      MetricFamily.seriesValues ["stage"] toString m.tickFailures⟩,
    ⟨"gnsa_verdicts_total", "Total number of verdicts by action and condition", "counter",
      MetricFamily.seriesValues ["action", "condition"] toString m.verdicts⟩,
    ⟨"gnsa_visible_devices", "Number of visible GPU devices", "gauge",
      MetricFamily.single (toString m.visibleDevices)⟩]

/-- The lines of an agent's metrics. -/
def exposition (m : Metrics) : List String :=
  m.families.flatMap MetricFamily.lines

end Metrics

end NodeWarden
