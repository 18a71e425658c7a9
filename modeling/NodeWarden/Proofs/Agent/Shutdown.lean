import Mathlib.Logic.Function.Iterate
import NodeWarden.Proofs.Agent.Conduct
import NodeWarden.Proofs.Agent.Run
import NodeWarden.Simulation.World

/-!
# Shutdown

What is done with the channel on which a stop is announced, and when, decides when a loop
ends and nothing else. A run is what an agent does phase by phase (`run_iff`). Seen from an
attended world, one step after the other (`Step`), every run keeps to the rules
(`conduct_trace`), so that it ends in an orderly way (`shutdown_orderly`).
-/

namespace NodeWarden

namespace Agent

/-! ## The phases of a run -/

section
variable {σ : Type} [Schedule σ] (a : Agent)

/-- Begins to leave the loop. -/
def drain (l : AgentLoop σ) : AgentLoop σ :=
  let (s, w) := a.enter .draining l.state (a.tell .shutdownSeen l.world)
  { l with state := s, world := w }

/-- Leaves the loop for good. -/
def finish (l : AgentLoop σ) : AgentLoop σ :=
  let (s, w) := a.enter .stopped l.state (a.tell .nodeLeft l.world)
  { l with state := s, world := w }

theorem stop_eq (l : AgentLoop σ) : a.stop l = a.finish (a.drain l) := rfl

/-- What an agent does next, by its phase. -/
def next (l : AgentLoop σ) : AgentLoop σ :=
  match l.state.phase with
  | .starting => a.start l.state l.world
  | .running => (a.turn l).getD (a.drain l)
  | .draining => a.finish l
  | .stopped => l

variable {a}

theorem next_starting {l : AgentLoop σ} (h : l.state.phase = .starting) :
    a.next l = a.start l.state l.world := by
  simp only [next, h]

theorem next_running {l : AgentLoop σ} (h : l.state.phase = .running) :
    a.next l = (a.turn l).getD (a.drain l) := by
  simp only [next, h]

theorem next_draining {l : AgentLoop σ} (h : l.state.phase = .draining) :
    a.next l = a.finish l := by
  simp only [next, h]

theorem next_stopped {l : AgentLoop σ} (h : l.state.phase = .stopped) : a.next l = l := by
  simp only [next, h]

/-- What a turn does: it stops, looks, ticks or waits. -/
theorem turn_cases (l : AgentLoop σ) :
    ((Schedule.signal l.world).stops = true ∧ a.turn l = none) ∨
    ((Schedule.signal l.world).stops = false ∧ (Schedule.signal l.world).unseen = true ∧
      a.turn l = some { l with world := Schedule.look l.world }) ∨
    ((Schedule.signal l.world).stops = false ∧ (Schedule.signal l.world).unseen = false ∧
      ∃ due, a.turn l = some ⟨(a.tick (Schedule.devices l.world) l.state l.world).2.1, due,
        l.ticks ++ [(Schedule.time l.world, (a.tick (Schedule.devices l.world) l.state l.world).1)],
        (a.tick (Schedule.devices l.world) l.state l.world).2.2⟩) ∨
    ((Schedule.signal l.world).stops = false ∧ (Schedule.signal l.world).unseen = false ∧
      a.turn l = some { l with world := Schedule.wait l.due l.world }) := by
  unfold turn
  dsimp only
  cases stops : (Schedule.signal l.world).stops with
  | true => exact .inl ⟨rfl, rfl⟩
  | false =>
    cases unseen : (Schedule.signal l.world).unseen with
    | true => exact .inr (.inl ⟨rfl, rfl, rfl⟩)
    | false =>
      by_cases due : l.due ≤ Schedule.time l.world
      · refine .inr (.inr (.inl ⟨rfl, rfl, a.nextDue l.due (Schedule.time l.world), ?_⟩))
        simp [due]
      · refine .inr (.inr (.inr ⟨rfl, rfl, ?_⟩))
        simp [due]

/-- A turn leaves the agent in its phase. -/
theorem turn_phase {l l' : AgentLoop σ} (h : a.turn l = some l') :
    l'.state.phase = l.state.phase := by
  obtain ⟨-, stop⟩ | ⟨-, -, look⟩ | ⟨-, -, _, tick⟩ | ⟨-, -, wait⟩ := a.turn_cases l
  · cases stop.symm.trans h
  · cases look.symm.trans h
    rfl
  · cases tick.symm.trans h
    exact tick_phase a _ _ _
  · cases wait.symm.trans h
    rfl

/-- The turns of a loop are what the agent does while it is running. -/
theorem turns_next {limit : Nat} {l l' : AgentLoop σ} (running : l.state.phase = .running)
    (h : a.turns limit l = some l') :
    ∃ n, a.next^[n] l = l' ∧ l'.state.phase = .running ∧ a.turn l' = none := by
  induction limit generalizing l with
  | zero => cases h
  | succ limit ih =>
    rw [turns] at h
    cases turned : a.turn l with
    | none =>
      rw [turned] at h
      cases h
      exact ⟨0, rfl, running, turned⟩
    | some next =>
      rw [turned] at h
      obtain ⟨n, reached, ended⟩ := ih ((turn_phase turned).trans running) h
      refine ⟨n + 1, ?_, ended⟩
      rw [Function.iterate_succ_apply, next_running running, turned]
      exact reached

theorem iterate_stopped {l : AgentLoop σ} (h : l.state.phase = .stopped) (n : Nat) :
    a.next^[n] l = l :=
  Function.iterate_fixed (next_stopped h) n

/-- What the agent does once it is running is to take the turns of the loop and to leave it. -/
theorem turns_of_stopped {n : Nat} {l : AgentLoop σ} (running : l.state.phase = .running)
    (stopped : (a.next^[n] l).state.phase = .stopped) :
    (a.turns n l).map a.stop = some (a.next^[n] l) := by
  induction n generalizing l with
  | zero => cases running.symm.trans stopped
  | succ n ih =>
    rw [Function.iterate_succ_apply, next_running running] at stopped ⊢
    rw [turns]
    cases turned : a.turn l with
    | some next =>
      rw [turned] at stopped
      exact ih ((turn_phase turned).trans running) stopped
    | none =>
      rw [turned] at stopped
      simp only [Option.getD_none, Option.map_some, Option.some.injEq] at stopped ⊢
      -- The loop is left in two steps, and after these nothing changes.
      cases n with
      | zero => cases stopped
      | succ n =>
        rw [Function.iterate_succ_apply, next_draining (l := a.drain l) rfl, iterate_stopped rfl]
        rfl

/-- An agent that is not yet in its loop. -/
def unstarted (s : AgentState) (w : σ) : AgentLoop σ := ⟨s, 0, [], w⟩

variable {s : AgentState} {w : σ}

/-- A run is what an agent does, phase by phase, until it has stopped. -/
theorem run_iff (fresh : s.phase = .starting) (l : AgentLoop σ) :
    (∃ limit, a.run limit s w = some l) ↔
      ∃ n, a.next^[n] (unstarted s w) = l ∧ l.state.phase = .stopped := by
  have started : a.next (unstarted s w) = a.start s w := next_starting fresh
  constructor
  · rintro ⟨limit, ran⟩
    obtain ⟨last, turned, rfl⟩ := Option.map_eq_some_iff.mp ran
    obtain ⟨n, reached, running, ended⟩ := turns_next rfl turned
    refine ⟨n + 1 + 2, ?_, rfl⟩
    rw [Function.iterate_succ_apply', Function.iterate_succ_apply', Function.iterate_succ_apply,
      started, reached, stop_eq, next_running running, ended, Option.getD_none, next_draining rfl]
  · rintro ⟨n, rfl, stopped⟩
    cases n with
    | zero => cases fresh.symm.trans stopped
    | succ n =>
      rw [Function.iterate_succ_apply, started] at stopped ⊢
      exact ⟨n, turns_of_stopped rfl stopped⟩

end

/-! ## What is seen of a run -/

section
variable {τ : Type} [Schedule τ] {a : Agent}

/-- What is seen when a loop goes on: the phase that is entered, if it is another one, and
whatever happens in its world, which is in a tick if one was made. -/
def passage (l l' : AgentLoop (Attended τ)) : List LoopEvent :=
  let during := l'.world.events.drop l.world.events.length
  (if l'.state.phase = l.state.phase then [] else [.entered l'.state.phase]) ++
    match l'.ticks.drop l.ticks.length with
    | [] => during
    | (_, report) :: _ => .began :: during ++ [.ended report]

/-- What is seen of an agent that goes on so many times. -/
def trace (a : Agent) (l : AgentLoop (Attended τ)) : Nat → List LoopEvent
  | 0 => l.world.events
  | n + 1 => a.trace l n ++ passage (a.next^[n] l) (a.next^[n + 1] l)

omit [Schedule τ] in
/-- A passage without a tick. -/
theorem passage_untouched {l l' : AgentLoop (Attended τ)} {during : List LoopEvent}
    (led : Attended.Leads l.world l'.world during) (ticks : l'.ticks = l.ticks ∨ l'.ticks = []) :
    passage l l' =
      (if l'.state.phase = l.state.phase then [] else [.entered l'.state.phase]) ++ during := by
  have untouched : l'.ticks.drop l.ticks.length = [] := by
    rcases ticks with same | empty
    · rw [same, List.drop_length]
    · rw [empty, List.drop_nil]
  simp only [passage, led.events, List.drop_left, untouched]

omit [Schedule τ] in
/-- A passage in which only the world changes. -/
theorem passage_staying {l : AgentLoop (Attended τ)} {w : Attended τ} {during : List LoopEvent}
    (led : Attended.Leads l.world w during) : passage l { l with world := w } = during := by
  simp only [passage, led.events, List.drop_left, List.drop_length, if_pos, List.nil_append]

omit [Schedule τ] in
/-- A passage in which a tick was made. -/
theorem passage_tick {l : AgentLoop (Attended τ)} {s : AgentState} {w : Attended τ}
    {during : List LoopEvent} (led : Attended.Leads l.world w during)
    (phase : s.phase = l.state.phase) (due time : Nat) (report : TickReport) :
    passage l ⟨s, due, l.ticks ++ [(time, report)], w⟩ = .began :: during ++ [.ended report] := by
  simp only [passage, phase, if_pos, List.nil_append, led.events, List.drop_left]

/-- What an agent does next, as it is seen. -/
inductive Step (a : Agent) (l l' : AgentLoop (Attended τ)) : List LoopEvent → Prop
  | enter {q : AgentPhase} {during : List LoopEvent} (next : l.state.phase.next? = some q)
      (entered : l'.state.phase = q) (cause : q = .draining → l.world.signal.stops = true)
      (led : Attended.Leads l.world l'.world during) (only : ∀ e ∈ during, e.isChannel = true) :
      Step a l l' (.entered q :: during)
  | pause {during : List LoopEvent} (running : l.state.phase = .running)
      (same : l'.state.phase = .running) (led : Attended.Leads l.world l'.world during)
      (only : ∀ e ∈ during, e = .looked ∨ e.isChannel = true) :
      Step a l l' during
  | tick {during : List LoopEvent} {report : TickReport} (running : l.state.phase = .running)
      (same : l'.state.phase = .running) (goes : l.world.signal.stops = false)
      (seen : l.world.signal.unseen = false) (led : Attended.Leads l.world l'.world during)
      (only : ∀ e ∈ during, e.isCall = true ∨ e.isChannel = true)
      (alone : a.tick (Schedule.devices l.world) l.state (Observed.fresh l.world.world) =
        (report, l'.state, ⟨l'.world.world, during.filterMap LoopEvent.call?⟩)) :
      Step a l l' (.began :: during ++ [.ended report])
  | rest (stopped : l.state.phase = .stopped) (same : l' = l) : Step a l l' []

/-- An agent that enters another phase writes two notes meanwhile. -/
theorem step_entering {l l' : AgentLoop (Attended τ)} {q : AgentPhase}
    (next : l.state.phase.next? = some q) (entered : l'.state.phase = q)
    (cause : q = .draining → l.world.signal.stops = true)
    (quiet : Attended.Quietly l.world l'.world) (ticks : l'.ticks = l.ticks ∨ l'.ticks = []) :
    Step a l l' (passage l l') := by
  obtain ⟨during, led, only⟩ := quiet
  have other : l'.state.phase ≠ l.state.phase := by
    rw [entered]
    rintro rfl
    exact AgentPhase.next?_ne next rfl
  rw [passage_untouched led ticks, if_neg other, entered]
  exact .enter next entered cause led only

/-- What a running agent does next: it leaves its loop, looks, ticks or waits. -/
theorem step_running {l : AgentLoop (Attended τ)} (running : l.state.phase = .running) :
    Step a l (a.next l) (passage l (a.next l)) := by
  rw [next_running running]
  obtain ⟨stops, stop⟩ | ⟨goes, unseen, look⟩ | ⟨goes, seen, due, tick⟩ | ⟨goes, seen, wait⟩ :=
    a.turn_cases l
  · rw [stop, Option.getD_none]
    refine step_entering (by rw [running]; rfl) rfl (fun _ => stops) ?_ (.inl rfl)
    exact (Attended.note_quietly l.world _).trans (Attended.note_quietly _ _)
  · rw [look, Option.getD_some]
    have on : l.world.signal.value = false := by
      rw [ShutdownSignal.stops, if_pos unseen] at goes
      exact goes
    obtain ⟨during, led, only⟩ := Attended.look_spec unseen on
    rw [passage_staying led]
    exact .pause running running led fun e he => (List.mem_cons.mp he).imp id (only e)
  · rw [tick, Option.getD_some]
    obtain ⟨report, s', w', during, ticked, led, only, alone⟩ :=
      Attended.tick_spec a (Schedule.devices l.world) l.state l.world
    have phase := tick_phase a l.world (Schedule.devices l.world) l.state
    rw [ticked] at phase ⊢
    rw [passage_tick led phase]
    exact .tick running (phase.trans running) goes seen led only alone
  · rw [wait, Option.getD_some]
    obtain ⟨during, led, only⟩ := Attended.wait_quietly l.world l.due
    rw [passage_staying led]
    exact .pause running running led fun e he => .inr (only e he)

theorem step_next (a : Agent) (l : AgentLoop (Attended τ)) :
    Step a l (a.next l) (passage l (a.next l)) := by
  cases phase : l.state.phase with
  | starting =>
    rw [next_starting phase]
    refine step_entering (by rw [phase]; rfl) rfl (fun same => nomatch same) ?_ (.inr rfl)
    exact (Attended.note_quietly l.world _).trans (Attended.note_quietly _ _)
  | running => exact step_running phase
  | draining =>
    rw [next_draining phase]
    refine step_entering (by rw [phase]; rfl) rfl (fun same => nomatch same) ?_ (.inl rfl)
    exact (Attended.note_quietly l.world _).trans (Attended.note_quietly _ _)
  | stopped =>
    rw [next_stopped phase, passage_staying (.refl l.world)]
    exact .rest phase rfl

/-- A step is in keeping with the rules, and leaves the agent hearing its channel. -/
theorem Step.conduct {l l' : AgentLoop (Attended τ)} {past seen : List LoopEvent}
    (step : Step a l l' seen) (h : Conduct l.state.phase past) (heard : Heard past l.world.signal) :
    Conduct l'.state.phase (past ++ seen) ∧ Heard (past ++ seen) l'.world.signal := by
  cases step with
  | @enter q during next entered cause led only =>
    rw [entered]
    refine ⟨h.enter next (fun left => heard.cause (cause left)) only, ?_⟩
    rw [List.append_cons]
    exact led.heard (heard.mark (.entered q) rfl)
  | pause running same led only =>
    rw [same]
    rw [running] at h
    exact ⟨h.pause only, led.heard heard⟩
  | @tick during report running same goes seen led only _ =>
    rw [same]
    rw [running] at h
    refine ⟨h.tick (heard.quiet goes seen) only, ?_⟩
    rw [List.cons_append, List.append_cons past, ← List.append_assoc]
    exact (led.heard (heard.mark .began rfl)).mark (.ended report) rfl
  | rest stopped same =>
    rw [same, List.append_nil]
    exact ⟨h, heard⟩

/-- A step in which a tick is seen is the tick of the world alone. -/
theorem Step.alone {l l' : AgentLoop (Attended τ)} {during : List LoopEvent} {report : TickReport}
    (step : Step a l l' (.began :: during ++ [.ended report])) :
    a.tick (Schedule.devices l.world) l.state (Observed.fresh l.world.world) =
      (report, l'.state, ⟨l'.world.world, during.filterMap LoopEvent.call?⟩) := by
  -- No other step begins with the beginning of a tick.
  generalize seen : LoopEvent.began :: during ++ [.ended report] = events at step
  cases step with
  | enter => cases seen
  | pause running same led only =>
    rcases only .began (by rw [← seen]; simp) with looked | channel
    · cases looked
    · cases channel
  | tick running same goes _ led only alone =>
    have inside := (List.cons.inj seen).2
    obtain ⟨rfl, last⟩ := List.append_inj' inside rfl
    cases last
    exact alone
  | rest => cases seen

/-- Every run is in keeping with the rules. -/
theorem conduct_trace {s : AgentState} (fresh : s.phase = .starting) (w : τ) (initial : Bool)
    (script : List (List ChannelEvent)) (n : Nat) :
    let l := unstarted s (.attend w initial script)
    Conduct (a.next^[n] l).state.phase (a.trace l n) ∧
      Heard (a.trace l n) (a.next^[n] l).world.signal := by
  intro l
  induction n with
  | zero =>
    -- Before the start there is what the first entry of the script does.
    obtain ⟨-, during, led, only⟩ :=
      Attended.elapse_quietly (⟨w, ⟨initial, false, false⟩, script, []⟩ : Attended τ)
    have nothing : Heard [] ⟨initial, false, false⟩ := by
      refine ⟨by simp, ?_, fun _ => ?_⟩
      · intro unseen
        cases unseen
      · decide
    have events : a.trace l 0 = during := led.events
    have phase : (a.next^[0] l).state.phase = .starting := fresh
    rw [events, phase]
    exact ⟨.unstarted only, led.heard nothing⟩
  | succ n ih =>
    rw [trace, Function.iterate_succ_apply']
    exact (step_next a _).conduct ih.1 ih.2

/-- A running agent that is due to stop leaves its loop, if need be after one last look at
its channel. -/
theorem drains_of_stopDue {l : AgentLoop (Attended τ)} {past : List LoopEvent}
    (running : l.state.phase = .running) (heard : Heard past l.world.signal) (due : StopDue past) :
    (a.next l).state.phase = .draining ∨ (a.next (a.next l)).state.phase = .draining := by
  have drains {l : AgentLoop (Attended τ)} (running : l.state.phase = .running)
      (stops : l.world.signal.stops = true) :
      (a.next l).state.phase = .draining := by
    obtain ⟨-, stop⟩ | ⟨goes, -⟩ | ⟨goes, -⟩ | ⟨goes, -⟩ := a.turn_cases l
    · rw [next_running running, stop]
      rfl
    all_goals exact absurd (stops.symm.trans goes) (by decide)
  rcases heard.stops due with stops | ⟨unseen, value, gone⟩
  · exact .inl (drains running stops)
  · have goes : l.world.signal.stops = false := by rw [ShutdownSignal.stops, if_pos unseen, value]
    have looks : a.next l = { l with world := Schedule.look l.world } := by
      obtain ⟨stops, -⟩ | ⟨-, -, look⟩ | ⟨-, seen, -⟩ | ⟨-, seen, -⟩ := a.turn_cases l
      · exact absurd (stops.symm.trans goes) (by decide)
      · rw [next_running running, look]
        rfl
      all_goals exact absurd (unseen.symm.trans seen) (by decide)
    rw [looks]
    refine .inr (drains running ?_)
    -- The sender is gone, so that nothing can be sent during the look.
    have same : (Schedule.look l.world).signal = { l.world.signal with unseen := false } :=
      Attended.elapse_closed gone
    show (Schedule.look l.world).signal.stops = true
    rw [same, ShutdownSignal.stops, if_neg Bool.false_ne_true]
    exact gone

/-- **Shutdown of the loop.** Whatever is sent to an agent and when, until the sender goes:
the agent starts, runs, drains and stops in this order; a tick that has begun goes on to its
end, and nothing but its calls happens meanwhile; no tick begins when a stop is due, and
then the loop is left; it is left for no other reason, so that an agent to which only
`false` is sent goes on running; and once it is left no call is made. What is sent in the
course of a tick does not change what the tick does. A run ends with the agent that has
stopped. -/
theorem shutdown_orderly {s : AgentState} (fresh : s.phase = .starting) (w : τ) (initial : Bool)
    (script : List (List ChannelEvent)) :
    let l := unstarted s (.attend w initial script)
    (∀ n, OrderlyShutdown (a.next^[n] l).state.phase (a.trace l n)) ∧
    (∀ n, (a.next^[n] l).state.phase = .running → StopDue (a.trace l n) →
      (a.next^[n + 1] l).state.phase = .draining ∨ (a.next^[n + 2] l).state.phase = .draining) ∧
    (∀ n, (∀ e ∈ a.trace l n, e ≠ .channel .drop ∧ e ≠ .channel (.send true)) →
      (a.next^[n] l).state.phase = .starting ∨ (a.next^[n] l).state.phase = .running) ∧
    (∀ n during report, a.trace l (n + 1) = a.trace l n ++ (.began :: during ++ [.ended report]) →
      a.tick (Schedule.devices (a.next^[n] l).world) (a.next^[n] l).state
          (Observed.fresh (a.next^[n] l).world.world) =
        (report, (a.next^[n + 1] l).state,
          ⟨(a.next^[n + 1] l).world.world, during.filterMap LoopEvent.call?⟩)) ∧
    (∀ last, (∃ limit, a.run limit s (Attended.attend w initial script) = some last) ↔
      ∃ n, a.next^[n] l = last ∧ last.state.phase = .stopped) := by
  intro l
  have conduct := conduct_trace (a := a) fresh w initial script
  refine ⟨fun n => (conduct n).1.orderly, fun n running due => ?_,
    fun n idle => (conduct n).1.goes_on idle, fun n during report seen => ?_, run_iff fresh⟩
  · rw [Function.iterate_succ_apply', Function.iterate_succ_apply', Function.iterate_succ_apply']
    exact drains_of_stopDue running (conduct n).2 due
  · have step := step_next a (a.next^[n] l)
    rw [← Function.iterate_succ_apply' a.next n l] at step
    rw [trace] at seen
    rw [List.append_cancel_left seen] at step
    exact step.alone

end

/-- A simulated world with one node and one device that is short of memory. -/
def trialWorld : World :=
  .create (.withNodes ["node-a"]) (.mock (.withMemory [⟨16000, 100⟩])) false []

/-- What is done with the channel in the trial: a stop is announced in the middle of the
first tick. -/
def trialScript : List (List ChannelEvent) :=
  [[], [], [], [], [.send true]]

/-- That tick makes its calls nevertheless, and it is the only one. -/
theorem shutdown_orderly_trial :
    trial.initial.phase = .starting ∧
    OrderlyShutdown
      (trial.next^[4]
        (unstarted trial.initial (Attended.attend trialWorld false trialScript))).state.phase
      (trial.trace (unstarted trial.initial (Attended.attend trialWorld false trialScript)) 4) ∧
    (trial.next^[4] (unstarted trial.initial
    (Attended.attend trialWorld false trialScript))).state.phase = .stopped ∧
    (trial.trace (unstarted trial.initial (Attended.attend trialWorld false trialScript)) 4).map
      LoopEvent.isChannel = [false, false, true, false, false, false, false, false] ∧
    (trial.trace (unstarted trial.initial (Attended.attend trialWorld false trialScript)) 4).map
      LoopEvent.isCall = [false, false, false, true, true, false, false, false] ∧
    ∃ last limit, trial.run limit trial.initial
      (Attended.attend trialWorld false trialScript) = some last ∧
      last.ticks.length = 1 := by
  obtain ⟨orderly, -, -, -, run⟩ :=
    shutdown_orderly (a := trial) (s := trial.initial) rfl trialWorld false trialScript
  have stopped :
      (trial.next^[4]
        (unstarted trial.initial (Attended.attend trialWorld false trialScript))).state.phase =
        .stopped := by
    decide
  obtain ⟨limit, ran⟩ := (run _).mpr ⟨4, rfl, stopped⟩
  exact ⟨rfl, orderly 4, stopped, by decide, by decide, _, limit, ran, by decide⟩

end Agent

end NodeWarden
