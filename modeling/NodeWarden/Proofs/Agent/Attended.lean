import NodeWarden.Agent.Run
import NodeWarden.Proofs.Agent.Worlds

/-!
# Attended worlds

A world in which somebody holds the sending end of the channel on which a stop is announced,
and uses it while the agent is at work: a script says what is sent during each operation of
the agent, which may be in the middle of a tick. An attended world keeps a record of the
calls, of the looks at the channel and of what was done with it. What a loop hears from the
channel is what was sent on it (`Heard`), and a tick hears nothing (`Attended.tick_spec`).
-/

namespace NodeWarden

/-- What is done with the sending end of the channel. -/
inductive ChannelEvent where
  | send (value : Bool)
  | drop
deriving DecidableEq

/-- The receiving end after something was done with the other one. -/
def ShutdownSignal.after (s : ShutdownSignal) : ChannelEvent → ShutdownSignal
  | .send v => s.send v
  | .drop => { s with closed := true }

/-- What happens in the course of a loop. -/
inductive LoopEvent where
  | entered (phase : AgentPhase)
  | began
  | ended (report : TickReport)
  /-- The loop looked at a value that it had not seen, and went on. -/
  | looked
  | called (e : Exchange)
  | channel (e : ChannelEvent)

namespace LoopEvent

/-- The phase that is entered. -/
def phase? : LoopEvent → Option AgentPhase
  | entered p => some p
  | _ => none

/-- The call that is made. -/
def call? : LoopEvent → Option Exchange
  | called e => some e
  | _ => none

/-- The value that is sent. -/
def sent? : LoopEvent → Option Bool
  | channel (.send v) => some v
  | _ => none

def isCall (e : LoopEvent) : Bool := e.call?.isSome

def isChannel : LoopEvent → Bool
  | channel _ => true
  | _ => false

variable {e : LoopEvent}

theorem sent?_of_not_isChannel (h : e.isChannel = false) : e.sent? = none := by
  cases e with
  | channel => cases h
  | entered | began | ended | looked | called => rfl

theorem call?_of_isChannel (h : e.isChannel = true) : e.call? = none := by
  cases e with
  | channel => rfl
  | entered | began | ended | looked | called => cases h

theorem phase?_of_isChannel (h : e.isChannel = true) : e.phase? = none := by
  cases e with
  | channel => rfl
  | entered | began | ended | looked | called => cases h

theorem phase?_of_isCall (h : e.isCall = true) : e.phase? = none := by
  cases e with
  | called => rfl
  | entered | began | ended | looked | channel => cases h

end LoopEvent

/-- The value that was sent last, if one was sent. -/
def lastSent (events : List LoopEvent) : Option Bool :=
  (events.filterMap LoopEvent.sent?).getLast?

theorem lastSent_append (events more : List LoopEvent) :
    lastSent (events ++ more) = (lastSent more).or (lastSent events) := by
  rw [lastSent, List.filterMap_append, List.getLast?_append]
  rfl

/-- The sender is gone, or has last told the loop to stop. -/
def StopDue (events : List LoopEvent) : Prop :=
  .channel .drop ∈ events ∨ lastSent events = some true

/-- What was sent last was sent. -/
theorem mem_of_lastSent {events : List LoopEvent} {v : Bool} (h : lastSent events = some v) :
    .channel (.send v) ∈ events := by
  obtain ⟨e, there, sent⟩ := List.mem_filterMap.mp (List.mem_of_getLast? h)
  cases e with
  | channel c =>
    cases c with
    | send u =>
      cases sent
      exact there
    | drop => cases sent
  | entered | began | ended | looked | called => cases sent

/-- What a loop hears from its channel: whether the sender is gone, and the last value if it
has not seen it. A value that it has seen and that it went on after does not say that it
should stop. -/
structure Heard (events : List LoopEvent) (signal : ShutdownSignal) : Prop where
  closed : signal.closed = true ↔ .channel .drop ∈ events
  unseen : signal.unseen = true → lastSent events = some signal.value
  seen : signal.unseen = false → lastSent events ≠ some true

namespace Heard

variable {events : List LoopEvent} {signal : ShutdownSignal}

/-- What does not concern the channel is not heard. -/
theorem append (h : Heard events signal) {more : List LoopEvent}
    (others : ∀ e ∈ more, e.isChannel = false) :
    Heard (events ++ more) signal := by
  have last : lastSent (events ++ more) = lastSent events := by
    have silent : more.filterMap LoopEvent.sent? = [] :=
      List.filterMap_eq_nil_iff.mpr fun e he => LoopEvent.sent?_of_not_isChannel (others e he)
    rw [lastSent_append, lastSent, silent]
    rfl
  have kept : .channel .drop ∉ more := fun he => absurd (others _ he) (by decide)
  refine ⟨?_, ?_, ?_⟩
  · rw [h.closed, List.mem_append, or_iff_left kept]
  · rw [last]
    exact h.unseen
  · rw [last]
    exact h.seen

theorem mark (h : Heard events signal) (e : LoopEvent) (other : e.isChannel = false) :
    Heard (events ++ [e]) signal :=
  h.append fun _ he => (List.mem_singleton.mp he) ▸ other

/-- A loop that looks and goes on has seen a value that does not say that it should stop. -/
theorem look (h : Heard events signal) (unseen : signal.unseen = true) (on : signal.value = false) :
    Heard (events ++ [.looked]) { signal with unseen := false } := by
  have told : lastSent events ≠ some true := by
    rw [h.unseen unseen, on]
    decide
  have seen : Heard events { signal with unseen := false } := by
    refine ⟨h.closed, fun still => ?_, fun _ => told⟩
    cases still
  exact seen.mark .looked rfl

/-- What is done with the channel while there is a sender is heard. -/
theorem channel (h : Heard events signal) (there : signal.closed = false) (e : ChannelEvent) :
    Heard (events ++ [.channel e]) (signal.after e) := by
  have before : .channel .drop ∉ events :=
    fun gone => absurd (h.closed.mpr gone) (by rw [there]; decide)
  cases e with
  | send v =>
    refine ⟨?_, ?_, ?_⟩
    · simp [ShutdownSignal.after, ShutdownSignal.send, there, before]
    · intro _
      rw [lastSent_append]
      rfl
    · intro seen
      cases seen
  | drop =>
    have last : lastSent (events ++ [.channel .drop]) = lastSent events := by
      rw [lastSent_append]
      rfl
    refine ⟨?_, ?_, ?_⟩
    · simp [ShutdownSignal.after]
    · rw [last]
      exact h.unseen
    · rw [last]
      exact h.seen

/-- A loop stops when that is due. -/
theorem cause (h : Heard events signal) (stops : signal.stops = true) : StopDue events := by
  unfold ShutdownSignal.stops at stops
  split at stops
  · rename_i unseen
    exact .inr ((h.unseen unseen).trans (congrArg some stops))
  · exact .inl (h.closed.mp stops)

/-- A loop that neither stops nor looks is not due to stop. -/
theorem quiet (h : Heard events signal) (goes : signal.stops = false)
    (seen : signal.unseen = false) :
    ¬ StopDue events := by
  rw [ShutdownSignal.stops, seen, if_neg (by decide)] at goes
  rintro (gone | told)
  · exact absurd (h.closed.mpr gone) (by rw [goes]; decide)
  · exact h.seen seen told

/-- A loop that is due to stop does so, unless it has yet to look at a value after which the
sender has gone. -/
theorem stops (h : Heard events signal) (due : StopDue events) :
    signal.stops = true ∨ signal.unseen = true ∧ signal.value = false ∧ signal.closed = true := by
  unfold ShutdownSignal.stops
  cases unseen : signal.unseen with
  | true =>
    rw [if_pos rfl]
    rcases due with gone | told
    · cases value : signal.value with
      | true => exact .inl rfl
      | false => exact .inr ⟨rfl, rfl, h.closed.mpr gone⟩
    · rw [h.unseen unseen] at told
      exact .inl (Option.some.inj told)
  | false =>
    rw [if_neg (by decide)]
    exact .inl (h.closed.mpr (due.resolve_right (h.seen unseen)))

end Heard

/-! ## Worlds with a sender -/

/-- A world with a channel that somebody attends to. -/
structure Attended (τ : Type) where
  world : τ
  signal : ShutdownSignal
  /-- What is done with the channel during each of the operations to come. -/
  script : List (List ChannelEvent)
  /-- What has happened so far, the first first. -/
  events : List LoopEvent

namespace Attended

variable {τ : Type}

/-- The channel after something was done with it. Once the sender is gone nothing more can
be done. -/
def happen (w : Attended τ) (e : ChannelEvent) : Attended τ :=
  if w.signal.closed then w
  else { w with signal := w.signal.after e, events := w.events ++ [.channel e] }

/-- What is done with the channel during one operation. -/
def elapse (w : Attended τ) : Attended τ :=
  match w.script with
  | [] => w
  | es :: rest => es.foldl happen { w with script := rest }

/-- A world with a channel that was created with a value, which does not count as sent. The
first entry of the script is done before anything else happens. -/
def attend (w : τ) (initial : Bool) (script : List (List ChannelEvent)) : Attended τ :=
  elapse ⟨w, ⟨initial, false, false⟩, script, []⟩

/-- Records a call and goes on in the world that it has led to. -/
def remember (w : Attended τ) (e : Exchange) (u : τ) : Attended τ :=
  { w with world := u, events := w.events ++ [.called e] }

instance [Schedule τ] : Schedule (Attended τ) where
  getNode limit name w :=
    let (answer, u) := ClusterApi.getNode limit name w.world
    (answer, (w.remember (.read name answer) u).elapse)
  changeNode limit change name w :=
    let (answer, u) := ClusterApi.changeNode limit change name w.world
    (answer, (w.remember (.change change name answer) u).elapse)
  note e w := elapse { w with world := note e w.world }
  now w := Clock.now w.world
  stopwatch w := Clock.stopwatch w.world
  time w := Schedule.time w.world
  signal w := w.signal
  look w :=
    let signal := { w.signal with unseen := false }
    elapse { w with signal, events := w.events ++ [.looked] }
  devices w := Schedule.devices w.world
  wait time w := elapse { w with world := Schedule.wait time w.world }

/-- Something happens in a world, of which the loop hears what concerns its channel. -/
structure Leads (w w' : Attended τ) (during : List LoopEvent) : Prop where
  events : w'.events = w.events ++ during
  heard : ∀ {past : List LoopEvent}, Heard past w.signal → Heard (past ++ during) w'.signal

namespace Leads

variable {w w' w'' : Attended τ} {during more : List LoopEvent}

theorem refl (w : Attended τ) : Leads w w [] :=
  ⟨(List.append_nil _).symm, fun h => by rwa [List.append_nil]⟩

theorem trans (h : Leads w w' during) (h' : Leads w' w'' more) : Leads w w'' (during ++ more) where
  events := by rw [h'.events, h.events, List.append_assoc]
  heard heard := by
    rw [← List.append_assoc]
    exact h'.heard (h.heard heard)

/-- What happens in the world itself is not heard. -/
theorem silent (w : Attended τ) (u : τ) : Leads w { w with world := u } [] :=
  ⟨(List.append_nil _).symm, fun h => by rwa [List.append_nil]⟩

theorem remember (w : Attended τ) (e : Exchange) (u : τ) : Leads w (w.remember e u) [.called e] :=
  ⟨rfl, fun h => h.mark (.called e) rfl⟩

end Leads

/-- Nothing happens but to the channel, and to the world what an operation does to it. -/
def Quietly (w w' : Attended τ) : Prop :=
  ∃ during, Leads w w' during ∧ ∀ e ∈ during, e.isChannel = true

namespace Quietly

variable {w w' w'' : Attended τ}

theorem refl (w : Attended τ) : Quietly w w :=
  ⟨[], .refl w, by simp⟩

theorem trans (h : Quietly w w') (h' : Quietly w' w'') : Quietly w w'' := by
  obtain ⟨during, leads, only⟩ := h
  obtain ⟨more, leads', only'⟩ := h'
  refine ⟨during ++ more, leads.trans leads', fun e he => ?_⟩
  exact (List.mem_append.mp he).elim (only e) (only' e)

end Quietly

theorem happen_quietly (w : Attended τ) (e : ChannelEvent) :
    (w.happen e).world = w.world ∧ Quietly w (w.happen e) := by
  unfold happen
  cases closed : w.signal.closed with
  | true => exact ⟨rfl, .refl w⟩
  | false => exact ⟨rfl, [.channel e], ⟨rfl, fun h => h.channel closed e⟩,
      by simp [LoopEvent.isChannel]⟩

/-- During an operation the channel is used, and the world left alone. -/
theorem elapse_quietly (w : Attended τ) : w.elapse.world = w.world ∧ Quietly w w.elapse := by
  have all (es : List ChannelEvent) (w : Attended τ) :
      (es.foldl happen w).world = w.world ∧ Quietly w (es.foldl happen w) := by
    induction es generalizing w with
    | nil => exact ⟨rfl, .refl w⟩
    | cons e es ih =>
      obtain ⟨same, first⟩ := happen_quietly w e
      obtain ⟨same', rest⟩ := ih (w.happen e)
      exact ⟨same'.trans same, first.trans rest⟩
  unfold elapse
  cases w.script with
  | nil => exact ⟨rfl, .refl w⟩
  | cons es rest =>
    obtain ⟨same, during, ⟨events, heard⟩, only⟩ := all es { w with script := rest }
    exact ⟨same, during, ⟨events, heard⟩, only⟩

/-- Once the sender is gone nothing more is heard. -/
theorem elapse_closed {w : Attended τ} (gone : w.signal.closed = true) :
    w.elapse.signal = w.signal := by
  have all (es : List ChannelEvent) (w : Attended τ) (gone : w.signal.closed = true) :
      es.foldl happen w = w := by
    induction es with
    | nil => rfl
    | cons e es ih => rw [List.foldl_cons, happen, if_pos gone, ih]
  unfold elapse
  cases w.script with
  | nil => rfl
  | cons es rest =>
    dsimp only
    rw [all es { w with script := rest } gone]

/-- An attended world on the way from an earlier state, and an observed world without a
channel in which the same happens. -/
def Alongside (start w : Attended τ) (o : Observed τ) : Prop :=
  w.world = o.world ∧
    ∃ during, Leads start w during ∧ during.filterMap LoopEvent.call? = o.exchanges ∧
    ∀ e ∈ during, e.isCall = true ∨ e.isChannel = true

namespace Alongside

variable {start w : Attended τ} {o : Observed τ}

theorem quietly (h : Alongside start w o) {w' : Attended τ} {o' : Observed τ} (quiet : Quietly w w')
    (same : w'.world = o'.world) (exchanges : o'.exchanges = o.exchanges) :
    Alongside start w' o' := by
  obtain ⟨-, during, leads, calls, only⟩ := h
  obtain ⟨more, leads', channel⟩ := quiet
  refine ⟨same, during ++ more, leads.trans leads', ?_, fun e he => ?_⟩
  · have silent : more.filterMap LoopEvent.call? = [] :=
      List.filterMap_eq_nil_iff.mpr fun e he => LoopEvent.call?_of_isChannel (channel e he)
    rw [List.filterMap_append, silent, List.append_nil, calls, exchanges]
  · exact (List.mem_append.mp he).elim (only e) fun he => .inr (channel e he)

/-- The same call is made in both worlds. -/
theorem call (h : Alongside start w o) (e : Exchange) (u : τ) :
    Alongside start (w.remember e u).elapse ⟨u, o.exchanges ++ [e]⟩ := by
  obtain ⟨-, during, leads, calls, only⟩ := h
  -- First the call is recorded on both sides, then the channel is used on one.
  have made : Alongside start (w.remember e u) ⟨u, o.exchanges ++ [e]⟩ := by
    refine ⟨rfl, during ++ [.called e], leads.trans (.remember w e u), ?_, fun d hd => ?_⟩
    · rw [List.filterMap_append, calls]
      rfl
    · rcases List.mem_append.mp hd with earlier | now
      · exact only d earlier
      · cases List.mem_singleton.mp now
        exact .inl rfl
  obtain ⟨same, quiet⟩ := elapse_quietly (w.remember e u)
  exact made.quietly quiet same rfl

end Alongside

section
variable [Schedule τ]

theorem note_quietly (w : Attended τ) (e : Log.Entry) : Quietly w (note e w) := by
  obtain ⟨during, leads, only⟩ := (elapse_quietly { w with world := note e w.world }).2
  exact ⟨during, (Leads.silent w _).trans leads, only⟩

theorem wait_quietly (w : Attended τ) (time : Nat) : Quietly w (Schedule.wait time w) := by
  obtain ⟨during, leads, only⟩ := (elapse_quietly { w with world := Schedule.wait time w.world }).2
  exact ⟨during, (Leads.silent w _).trans leads, only⟩

/-- A look that finds a value after which the loop goes on. -/
theorem look_spec {w : Attended τ} (unseen : w.signal.unseen = true) (on : w.signal.value = false) :
    ∃ during, Leads w (Schedule.look w) (.looked :: during) ∧ ∀ e ∈ during, e.isChannel = true := by
  let seen : Attended τ :=
    { w with signal := { w.signal with unseen := false }, events := w.events ++ [.looked] }
  have looked : Leads w seen [.looked] := ⟨rfl, fun h => h.look unseen on⟩
  obtain ⟨during, leads, only⟩ := (elapse_quietly seen).2
  exact ⟨during, looked.trans leads, only⟩

/-! ## Ticks -/

/-- What is done with the channel is nothing to an agent on a tick. -/
theorem respects (a : Agent) (start : Attended τ) : a.Respects (Alongside start) where
  calls := {
    get := by
      rintro w ⟨u, xs⟩ h
      obtain rfl : w.world = u := h.1
      rw [NodeScope.get_eq_accept, NodeScope.get_eq_accept]
      exact ⟨rfl, h.call _ _⟩
    change := by
      rintro w ⟨u, xs⟩ c h
      obtain rfl : w.world = u := h.1
      exact ⟨rfl, h.call _ _⟩
    note := by
      rintro w ⟨u, xs⟩ e h
      obtain rfl : w.world = u := h.1
      exact h.quietly (note_quietly w e) (elapse_quietly { w with world := note e w.world }).1 rfl }
  now := by
    rintro w ⟨u, xs⟩ ⟨rfl, -⟩
    rfl
  stopwatch := by
    rintro w ⟨u, xs⟩ ⟨rfl, -⟩
    rfl

/-- Whatever is done with the channel in the course of a tick, the tick is what it is in the
world alone: it has the same report, makes the same calls with the same answers, and leaves
the agent and the world in the same state. -/
theorem tick_spec (a : Agent) (backend : DeviceBackend) (s : AgentState) (w : Attended τ) :
    ∃ report s' w' during, a.tick backend s w = (report, s', w') ∧ Leads w w' during ∧
      (∀ e ∈ during, e.isCall = true ∨ e.isChannel = true) ∧
      a.tick backend s (Observed.fresh w.world) =
      (report, s', ⟨w'.world, during.filterMap LoopEvent.call?⟩) := by
  have start : Alongside w w (Observed.fresh w.world) := ⟨rfl, [], .refl w, rfl, by simp⟩
  obtain ⟨report, s', w', ⟨u, xs⟩, ⟨rfl, during, leads, rfl, only⟩, hl, hr⟩ :=
    (Agent.tick_agrees (respects a w) start backend s).eq
  exact ⟨report, s', w', during, hl, leads, only, hr⟩

end

end Attended

end NodeWarden
