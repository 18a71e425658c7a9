import NodeWarden.Proofs.Agent.Attended

/-!
# The conduct of a loop

The rules to which a loop keeps that is told to stop, or is not, as a grammar of what may
happen one thing after the other (`Conduct`), and what they come to, event by event
(`Conduct.orderly`).
-/

namespace NodeWarden

namespace AgentPhase

/-- The phase after a phase. -/
def next? : AgentPhase → Option AgentPhase
  | starting => some running
  | running => some draining
  | draining => some stopped
  | stopped => none

theorem next?_ne {p q : AgentPhase} (h : p.next? = some q) : q ≠ p := by
  cases p <;> cases h <;> decide

/-- The phases that an agent has entered by the time that it is in a phase. -/
def entered : AgentPhase → List AgentPhase
  | starting => []
  | running => [running]
  | draining => [running, draining]
  | stopped => [running, draining, stopped]

theorem entered_next {p q : AgentPhase} (h : p.next? = some q) : q.entered = p.entered ++ [q] := by
  cases p <;> cases h <;> rfl

end AgentPhase

/-- The courses that a loop may take, by the phase in which they end. -/
inductive Conduct : AgentPhase → List LoopEvent → Prop
  | unstarted {events : List LoopEvent} (only : ∀ e ∈ events, e.isChannel = true) :
      Conduct .starting events
  /-- The loop goes on to its next phase, and leaves its turns only if a stop is due. -/
  | enter {past during : List LoopEvent} {p q : AgentPhase} (h : Conduct p past)
      (next : p.next? = some q) (cause : q = .draining → StopDue past)
      (only : ∀ e ∈ during, e.isChannel = true) :
      Conduct q (past ++ .entered q :: during)
  /-- The loop waits, or looks. -/
  | pause {past during : List LoopEvent} (h : Conduct .running past)
      (only : ∀ e ∈ during, e = .looked ∨ e.isChannel = true) : Conduct .running (past ++ during)
  /-- The loop ticks, which it does not if a stop is due. -/
  | tick {past during : List LoopEvent} {report : TickReport} (h : Conduct .running past)
      (on : ¬ StopDue past) (only : ∀ e ∈ during, e.isCall = true ∨ e.isChannel = true) :
      Conduct .running (past ++ (.began :: during ++ [.ended report]))

/-! ## What the rules come to -/

/-- What is said of every run of a loop that is told to stop, or is not. -/
structure OrderlyShutdown (phase : AgentPhase) (events : List LoopEvent) : Prop where
  /-- The phases are entered in their order. -/
  phases : events.filterMap LoopEvent.phase? = phase.entered
  /-- A tick that has begun goes on to its end. Until then there are its calls, and what is
  done with the channel. -/
  complete : ∀ before after, events = before ++ .began :: after → ∃ during report rest,
    after = during ++ .ended report :: rest ∧ ∀ e ∈ during, e.isCall = true ∨ e.isChannel = true
  /-- A call is made on a tick that has begun and not ended. -/
  inside : ∀ before call after, events = before ++ .called call :: after → ∃ earlier during,
    before = earlier ++ .began :: during ∧ ∀ e ∈ during, e.isCall = true ∨ e.isChannel = true
  /-- No tick begins when a stop is due. -/
  willing : ∀ before after, events = before ++ .began :: after → ¬ StopDue before
  /-- The loop is left only when a stop is due. -/
  cause : ∀ before after, events = before ++ .entered .draining :: after → StopDue before
  /-- Once it is left there are neither ticks nor calls: nothing happens but that the agent
  stops. -/
  silent : ∀ before after, events = before ++ .entered .draining :: after →
    ∀ e ∈ after, e = .entered .stopped ∨ e.isChannel = true

/-- What is known of an event by its place among the others. -/
inductive Placed (before : List LoopEvent) : LoopEvent → List LoopEvent → Prop
  | channel (c : ChannelEvent) (after : List LoopEvent) : Placed before (.channel c) after
  | looked (after : List LoopEvent) : Placed before .looked after
  | entered (q : AgentPhase) (after : List LoopEvent) (cause : q = .draining → StopDue before) :
      Placed before (.entered q) after
  | began (during rest : List LoopEvent) (report : TickReport) (on : ¬ StopDue before)
      (only : ∀ e ∈ during, e.isCall = true ∨ e.isChannel = true) :
      Placed before .began (during ++ .ended report :: rest)
  | called (earlier during after : List LoopEvent) (call : Exchange)
      (since : before = earlier ++ .began :: during)
      (only : ∀ e ∈ during, e.isCall = true ∨ e.isChannel = true) :
      Placed before (.called call) after
  | ended (report : TickReport) (after : List LoopEvent) : Placed before (.ended report) after

/-- What comes after the others changes nothing. -/
theorem Placed.append {before after : List LoopEvent} {x : LoopEvent} (h : Placed before x after)
    (more : List LoopEvent) : Placed before x (after ++ more) := by
  cases h with
  | channel c => exact .channel c _
  | looked => exact .looked _
  | entered q _ cause => exact .entered q _ cause
  | began during rest report on only =>
    rw [List.append_assoc, List.cons_append]
    exact .began during _ report on only
  | called earlier during _ call since only => exact .called earlier during _ call since only
  | ended report => exact .ended report _

theorem Placed.of_isChannel {before after : List LoopEvent} {x : LoopEvent}
    (h : x.isChannel = true) :
    Placed before x after := by
  cases x with
  | channel c => exact .channel c after
  | entered | began | ended | looked | called => cases h

/-- An event of a list that is continued is in the list or in what continues it. -/
theorem split_append {past more before after : List LoopEvent} {x : LoopEvent}
    (h : past ++ more = before ++ x :: after) :
    (∃ rest, past = before ++ x :: rest ∧ after = rest ++ more) ∨
      ∃ rest, before = past ++ rest ∧ more = rest ++ x :: after := by
  rcases List.append_eq_append_iff.mp h with ⟨rest, same, split⟩ | ⟨rest, same, split⟩
  · exact .inr ⟨rest, same, split⟩
  · cases rest with
    | nil => exact .inr ⟨[], by simpa using same.symm, by simpa using split.symm⟩
    | cons y rest =>
      obtain ⟨rfl, rfl⟩ := List.cons.inj split
      exact .inl ⟨rest, same, rfl⟩

namespace Conduct

variable {p : AgentPhase} {events before after : List LoopEvent} {x : LoopEvent}

/-- An event within a tick, from its beginning to its end. -/
theorem placed_tick {past during : List LoopEvent} {report : TickReport} (on : ¬ StopDue past)
    (only : ∀ e ∈ during, e.isCall = true ∨ e.isChannel = true) {rest : List LoopEvent}
    (h : .began :: during ++ [.ended report] = rest ++ x :: after) :
    Placed (past ++ rest) x after := by
  cases rest with
  | nil =>
    obtain ⟨rfl, rfl⟩ := List.cons.inj h
    rw [List.append_nil]
    exact .began during [] report on only
  | cons y rest =>
    obtain rfl := (List.cons.inj h).1
    have inner : during ++ [.ended report] = rest ++ x :: after := (List.cons.inj h).2
    rcases split_append inner with ⟨later, rfl, rfl⟩ | ⟨later, rfl, last⟩
    · rcases only x (by simp) with call | channel
      · obtain ⟨c, made⟩ := Option.isSome_iff_exists.mp call
        obtain rfl : x = .called c := by
          cases x with
          | called d => rw [Option.some.inj made]
          | entered | began | ended | looked | channel => cases made
        exact .called past rest _ c rfl fun e he => only e (by simp [he])
      · exact .of_isChannel channel
    · cases later with
      | nil =>
        obtain ⟨rfl, rfl⟩ := List.cons.inj last
        exact .ended report _
      | cons y later => simp at last

/-- Every event is in its place. -/
theorem placed (h : Conduct p events) (found : events = before ++ x :: after) :
    Placed before x after := by
  -- Every rule adds something at the end: the event is in that, or it was in its place before.
  induction h generalizing before after with
  | unstarted only =>
    exact .of_isChannel (only x (by simp [found]))
  | @enter past during p q h next cause only ih =>
    rcases split_append found with ⟨rest, earlier, rfl⟩ | ⟨rest, rfl, now⟩
    · exact (ih earlier).append _
    · cases rest with
      | nil =>
        obtain ⟨rfl, rfl⟩ := List.cons.inj now
        rw [List.append_nil]
        exact .entered q _ cause
      | cons y rest =>
        obtain ⟨rfl, rfl⟩ := List.cons.inj now
        exact .of_isChannel (only x (by simp))
  | @pause past during h only ih =>
    rcases split_append found with ⟨rest, earlier, rfl⟩ | ⟨rest, rfl, rfl⟩
    · exact (ih earlier).append _
    · rcases only x (by simp) with rfl | channel
      · exact .looked _
      · exact .of_isChannel channel
  | tick h on only ih =>
    rcases split_append found with ⟨rest, earlier, rfl⟩ | ⟨rest, rfl, now⟩
    · exact (ih earlier).append _
    · exact placed_tick on only now

/-- The phases that were entered are those up to the current one. -/
theorem phases (h : Conduct p events) : events.filterMap LoopEvent.phase? = p.entered := by
  induction h with
  | unstarted only =>
    exact List.filterMap_eq_nil_iff.mpr fun e he => LoopEvent.phase?_of_isChannel (only e he)
  | @enter past during p q h next cause only ih =>
    have channel : during.filterMap LoopEvent.phase? = [] :=
      List.filterMap_eq_nil_iff.mpr fun e he => LoopEvent.phase?_of_isChannel (only e he)
    rw [List.filterMap_append, ih, AgentPhase.entered_next next, ← channel]
    rfl
  | @pause past during h only ih =>
    have idle : during.filterMap LoopEvent.phase? = [] := by
      refine List.filterMap_eq_nil_iff.mpr fun e he => ?_
      rcases only e he with rfl | channel
      · rfl
      · exact LoopEvent.phase?_of_isChannel channel
    rw [List.filterMap_append, ih, idle, List.append_nil]
  | @tick past during report h on only ih =>
    have busy : (LoopEvent.began :: during ++ [LoopEvent.ended report]).filterMap LoopEvent.phase? =
        [] := by
      refine List.filterMap_eq_nil_iff.mpr fun e he => ?_
      rcases List.mem_append.mp he with begun | last
      · rcases List.mem_cons.mp begun with rfl | inside
        · rfl
        · exact (only e inside).elim LoopEvent.phase?_of_isCall LoopEvent.phase?_of_isChannel
      · rw [List.mem_singleton.mp last]
        rfl
    rw [List.filterMap_append, ih, busy, List.append_nil]

/-- A loop that is running has entered no other phase. -/
theorem mem_entered (h : Conduct p events) {q : AgentPhase} :
    .entered q ∈ events ↔ q ∈ p.entered := by
  rw [← h.phases, List.mem_filterMap]
  constructor
  · intro there
    exact ⟨_, there, rfl⟩
  · rintro ⟨e, there, phase⟩
    cases e with
    | entered r =>
      cases phase
      exact there
    | began | ended | looked | called | channel => cases phase

/-- Once the loop is left nothing happens but that the agent stops. -/
theorem silent (h : Conduct p events) (left : events = before ++ .entered .draining :: after) :
    ∀ e ∈ after, e = .entered .stopped ∨ e.isChannel = true := by
  have here : .entered .draining ∈ events := by simp [left]
  induction h generalizing before after with
  | unstarted only => exact absurd (only _ here) (by decide)
  | @enter past during p q h next cause only ih =>
    rcases split_append left with ⟨rest, earlier, rfl⟩ | ⟨rest, rfl, now⟩
    · have within : .entered .draining ∈ past := by simp [earlier]
      intro e he
      rcases List.mem_append.mp he with he | he
      · exact ih earlier within e he
      · rcases List.mem_cons.mp he with rfl | he
        · -- The phase after one in which the loop has been left is the last.
          have left := h.mem_entered.mp within
          cases p with
          | starting | running => exact absurd left (by decide)
          | draining =>
            cases next
            exact .inl rfl
          | stopped => cases next
        · exact .inr (only e he)
    · cases rest with
      | nil =>
        obtain ⟨-, rfl⟩ := List.cons.inj now
        exact fun e he => .inr (only e he)
      | cons y rest =>
        obtain ⟨-, rfl⟩ := List.cons.inj now
        exact absurd (only _ (List.mem_append_right rest List.mem_cons_self)) (by decide)
  -- A loop that is running has not been left.
  | pause h only => exact absurd ((h.pause only).mem_entered.mp here) (by decide)
  | tick h on only => exact absurd ((h.tick on only).mem_entered.mp here) (by decide)

/-- An agent that is told nothing but to go on does so. -/
theorem goes_on (h : Conduct p events)
    (idle : ∀ e ∈ events, e ≠ .channel .drop ∧ e ≠ .channel (.send true)) :
    p = .starting ∨ p = .running := by
  -- If the loop had been left there would be a cause among the events.
  have stays (left : .draining ∈ p.entered) : False := by
    obtain ⟨before, after, found⟩ := List.append_of_mem (h.mem_entered.mpr left)
    have earlier {e : LoopEvent} (he : e ∈ before) : e ∈ events := by
      rw [found]
      exact List.mem_append_left _ he
    cases h.placed found with
    | entered _ _ cause =>
      rcases cause rfl with gone | told
      · exact (idle _ (earlier gone)).1 rfl
      · exact (idle _ (earlier (mem_of_lastSent told))).2 rfl
  cases p with
  | starting => exact .inl rfl
  | running => exact .inr rfl
  | draining => exact absurd (by decide) stays
  | stopped => exact absurd (by decide) stays

/-- Whoever keeps to the rules shuts down in an orderly way. -/
theorem orderly (h : Conduct p events) : OrderlyShutdown p events where
  phases := h.phases
  complete := by
    intro before after found
    cases h.placed found with
    | began during rest report on only => exact ⟨during, report, rest, rfl, only⟩
  inside := by
    intro before call after found
    cases h.placed found with
    | called earlier during _ _ since only => exact ⟨earlier, during, since, only⟩
  willing := by
    intro before after found
    cases h.placed found with
    | began during rest report on only => exact on
  cause := by
    intro before after found
    cases h.placed found with
    | entered _ _ cause => exact cause rfl
  silent := fun _ _ left => h.silent left

end Conduct

end NodeWarden
