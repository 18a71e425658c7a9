import NodeWarden.Agent.Note
import NodeWarden.Policy.Note
import NodeWarden.Time.Clock

/-!
# Ticks

A tick takes samples, comes to a verdict and applies it. No failure leaves the tick: a tick that
cannot be sampled counts as a condition of its own, and one whose verdict cannot be applied reports
so. The executor is left alone on a tick that could not be sampled and whose verdict asks for
nothing.
-/

namespace NodeWarden.Agent

/-- Writes a note into the log. -/
def tell {σ : Type} [Journal σ] (a : Agent) (n : AgentNote) (w : σ) : σ :=
  note (n.entry a) w

variable {σ : Type} [Journal σ] [Clock σ] (a : Agent)

/-- The verdict of a tick, and how sampling failed if it did. -/
def judge (backend : DeviceBackend) (s : AgentState) (w : σ) :
    (Verdict × Option DeviceError) × AgentState × σ :=
  let w := noteAll (SampleSet.notes backend a.mask) w
  match SampleSet.take backend a.node.name a.mask (Clock.now w) with
  | .ok set =>
    let (v, e) := s.evaluator.evaluate set
    ((v, none), { s with evaluator := e, metrics := s.metrics.recordSamples set },
      noteAll (s.evaluator.notes v) w)
  | .error error =>
    let w := note (Evaluator.failureNote error) (a.tell (.samplingFailed s.ticks error) w)
    let (v, e) := s.evaluator.recordFailure
    ((v, some error),
      { s with evaluator := e, metrics := s.metrics.recordFailure (TickError.sample error).stage },
      noteAll (s.evaluator.notes v) w)

/-- Samples and evaluates once, and does no more. -/
def evaluateOnce (backend : DeviceBackend) (s : AgentState) (w : σ) :
    Except DeviceError Verdict × AgentState × σ :=
  let w := noteAll (SampleSet.notes backend a.mask) w
  match SampleSet.take backend a.node.name a.mask (Clock.now w) with
  | .ok set =>
    let w := set.samples.foldl (fun w sample => a.tell (.sampled sample) w) w
    let (v, e) := s.evaluator.evaluate set
    (.ok v, { s with evaluator := e, metrics := s.metrics.recordSamples set },
      noteAll (s.evaluator.notes v) w)
  | .error error => (.error error, s, w)

variable [ClusterApi σ]

/-- Has the executor apply a verdict. -/
def enforce (v : Verdict) (s : AgentState) (w : σ) :
    Except ClusterError ExecutionOutcome × AgentState × σ :=
  match a.executor.apply v s.executor w with
  | (.ok outcome, x, w) =>
    (.ok outcome, { s with executor := x, metrics := s.metrics.recordOutcome outcome }, w)
  | (.error e, x, w) =>
    let metrics := s.metrics.recordFailure (TickError.execute e).stage
    (.error e, { s with executor := x, metrics }, a.tell (.actionFailed s.ticks v.action e) w)

/-- Has the executor apply a verdict, unless the tick is to be abandoned. -/
def enforceOrAbandon (v : Verdict) (sampling : Option DeviceError) (s : AgentState) (w : σ) :
    TickReport × AgentState × σ :=
  let before := (sampling.map TickError.sample).toList
  if sampling.isSome ∧ v.action = .none then
    (⟨s.ticks, v, none, before⟩, s, a.tell (.tickAbandoned s.ticks v.reason) w)
  else
    match a.enforce v s w with
    | (.ok outcome, s, w) => (⟨s.ticks, v, some outcome, before⟩, s, w)
    | (.error e, s, w) => (⟨s.ticks, v, none, before ++ [.execute e]⟩, s, w)

/-- One tick. -/
def tick (backend : DeviceBackend) (s : AgentState) (w : σ) : TickReport × AgentState × σ :=
  let start := Clock.stopwatch w
  let s := { s with ticks := s.ticks + 1 }
  let ((v, sampling), s, w) := a.judge backend s w
  let s := { s with metrics := s.metrics.recordVerdict v }
  let (report, s, w) := a.enforceOrAbandon v sampling s w
  let elapsed : Duration := ⟨(Clock.stopwatch w).nanos - start.nanos⟩
  let metrics := (s.metrics.recordObserveOnly s.executor.observeOnly).recordDuration elapsed.toFloat
  (report, { s with metrics := metrics }, a.tell (.tickCompleted report elapsed) w)

end NodeWarden.Agent
