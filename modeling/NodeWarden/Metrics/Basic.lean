import NodeWarden.Executor.Basic
import NodeWarden.Metrics.Series
import NodeWarden.Sample

/-!
# Metrics

What an agent tells about itself in numbers: the state of its node and devices, and how many ticks
ended how. All of it starts at zero or empty.
-/

namespace NodeWarden

/-- How many ticks took how long. -/
structure Histogram where
  /-- The number of values so far. -/
  count : Nat
  sum : Float
  /-- The number of values in each interval that ends at one of the bounds. -/
  buckets : List Nat
deriving Repr

namespace Histogram

/-- The upper ends of the intervals, in seconds. -/
def bounds : List Float := [0.001, 0.005, 0.01, 0.025, 0.05, 0.1, 0.25, 0.5, 1, 2.5, 5, 10]

def empty : Histogram := ⟨0, 0, bounds.map fun _ => 0⟩

/-- Counts a value in the first interval whose end it does not exceed. -/
def place (x : Float) : List Float → List Nat → List Nat
  | b :: bs, n :: ns => if x ≤ b then (n + 1) :: ns else n :: place x bs ns
  | _, ns => ns

/-- Counts a value. One beyond all bounds, or not a number, is in no interval. -/
def observe (x : Float) (h : Histogram) : Histogram where
  count := h.count + 1
  sum := h.sum + x
  buckets := place x bounds h.buckets

/-- The sums of the counts up to each place, on top of a given one. -/
def cumulative : Nat → List Nat → List Nat
  | _, [] => []
  | sum, n :: ns => (sum + n) :: cumulative (sum + n) ns

end Histogram

/-- The metrics of an agent. -/
structure Metrics where
  /-- The score of the last verdict. -/
  nodeScore : Float
  /-- The free part of each device's memory, by its id. -/
  freeRatio : Series Float
  /-- The free bytes of each device, by its id. -/
  freeBytes : Series Float
  /-- The number of devices in the last sample. -/
  visibleDevices : Nat
  tickDuration : Histogram
  /-- Failures, by the stage of the tick that failed. -/
  tickFailures : Series Nat
  /-- Verdicts, by action and condition. -/
  verdicts : Series Nat
  /-- Outcomes, by their label. -/
  nodeActions : Series Nat
  observeOnly : Bool
deriving Repr

namespace Metrics

def empty : Metrics where
  nodeScore := 0
  freeRatio := []
  freeBytes := []
  visibleDevices := 0
  tickDuration := .empty
  tickFailures := []
  verdicts := []
  nodeActions := []
  observeOnly := false

/-- Takes in one sample. -/
def recordSample (m : Metrics) (s : DeviceSample) : Metrics :=
  { m with
    freeRatio := m.freeRatio.set [s.deviceId] s.freeRatio
    freeBytes := m.freeBytes.set [s.deviceId] s.free.toFloat }

/-- Takes in the samples of a tick. -/
def recordSamples (m : Metrics) (set : SampleSet) : Metrics :=
  set.samples.foldl recordSample { m with visibleDevices := set.samples.length }

def recordVerdict (m : Metrics) (v : Verdict) : Metrics :=
  { m with
    nodeScore := v.score
    verdicts := m.verdicts.bump [v.action.label, v.condition.label] }

def recordOutcome (m : Metrics) (o : ExecutionOutcome) : Metrics :=
  { m with nodeActions := m.nodeActions.bump [o.label] }

def recordFailure (m : Metrics) (stage : String) : Metrics :=
  { m with tickFailures := m.tickFailures.bump [stage] }

def recordDuration (m : Metrics) (seconds : Float) : Metrics :=
  { m with tickDuration := m.tickDuration.observe seconds }

def recordObserveOnly (m : Metrics) (on : Bool) : Metrics :=
  { m with observeOnly := on }

end Metrics

end NodeWarden
