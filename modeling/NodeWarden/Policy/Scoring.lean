import NodeWarden.Number.Binary
import NodeWarden.Policy.Basic
import NodeWarden.Sample

/-!
# Scoring and classifying

The score and the condition of a set of samples. Neither depends on the order in which a backend
lists its devices: the best device is the one with the greatest free ratio and, of those, the least
id, and a mean is taken in the order of ids, because adding floats in another order can give another
sum.
-/

namespace NodeWarden

namespace DeviceSample

/-- The free ratio as a key of the total order of floats. -/
def ratioKey (s : DeviceSample) : Int :=
  Number.totalOrderKey s.freeRatio

/-- Whether a sample is preferred to another: a greater free ratio, or the same and a lesser id. -/
def preferredTo (s t : DeviceSample) : Bool :=
  t.ratioKey < s.ratioKey || (t.ratioKey == s.ratioKey && s.deviceId < t.deviceId)

/-- The sample that is preferred to all others, the first of them in a tie. -/
def best : List DeviceSample → Option DeviceSample
  | [] => none
  | s :: rest => some (rest.foldl (fun b t => if t.preferredTo b then t else b) s)

end DeviceSample

namespace SampleSet

/-- The samples in the order of their device ids. -/
def byDevice (set : SampleSet) : List DeviceSample :=
  set.samples.mergeSort fun a b => a.deviceId ≤ b.deviceId

/-- The mean of the free ratios, zero if there is no sample. -/
def meanRatio (set : SampleSet) : Float :=
  if set.samples.isEmpty then 0
  else
    let ratios := set.byDevice.map DeviceSample.freeRatio
    ratios.foldl (· + ·) 0 / Float.ofNat ratios.length

/-- The score of a set of samples. -/
def score (set : SampleSet) (mode : PolicyMode) : Score :=
  let best := DeviceSample.best set.samples
  let value :=
    match mode with
    | .maxFreeMemory => (best.map DeviceSample.freeRatio).getD 0
    | .meanFreeMemory => set.meanRatio
  ⟨value, best.map DeviceSample.deviceId⟩

/-- Whether every device has fewer free bytes than the floor. -/
def allBelow (set : SampleSet) (floor : UInt64) : Bool :=
  set.samples.all fun s => s.free < floor

/-- The condition that a set of samples shows. -/
def classify (set : SampleSet) (t : Thresholds) : Condition :=
  if set.samples.isEmpty then .noDevices
  else if set.allBelow t.deleteFloor then .exhausted
  else if set.allBelow t.cordonFloor then .lowMemory
  else .healthy

end SampleSet

end NodeWarden
