import NodeWarden.Proofs.Agent.InStep

/-!
# Agents that nothing disturbs

An agent that nothing disturbs is in step throughout its run, so that on every tick it does
what is due (`Agent.sighting_due`). Of every sequence of device states it is thus known what
the agent does. In particular a node that stays registered while a condition lasts is
deleted as soon as that has outlasted the debounce (`Agent.deleted_iff_outlasts`). The
longest debounce of all is never outlasted: the evaluator counts no further than that, so
its agent deletes nothing (`Agent.kept_of_longest`).
-/

namespace NodeWarden

namespace Sighting

/-- The node was there at every tick of a stretch, and at the end of each but the last. -/
def Registered (ss : List Sighting) (i t : Nat) : Prop :=
  ∀ k b, i ≤ k → k ≤ t → ss[k]? = some b → b.found ≠ none ∧ (k < t → b.left ≠ none)

theorem Registered.upto {ss : List Sighting} {i j t : Nat} (h : Registered ss i t) (hjt : j ≤ t) :
    Registered ss i j :=
  fun k b hik hkj hk =>
    (h k b hik (Nat.le_trans hkj hjt) hk).imp_right fun left hk => left (Nat.lt_of_lt_of_le hk hjt)

end Sighting

namespace Agent

variable {a : Agent} {c : MemoryCluster}

/-! ## Runs -/

/-- A run that is followed from tick to tick. -/
structure Followed where
  run : AgentState × MemoryCluster
  /-- How the node stood at the end of the last tick, or at the start. -/
  previous : Option Bool

/-- The start of a run of a new agent. -/
def meet (a : Agent) (c : MemoryCluster) : Followed := ⟨(a.initial, c), a.standing c⟩

/-- One step of a run that is followed. -/
def follow (a : Agent) (r : Followed) (step : AgentStep) : Followed × Option Sighting :=
  let after := (a.advance r.run step).1
  match step with
  | .tick backend =>
    (⟨after, a.standing after.2⟩, some (a.sighting backend r.run.1 r.run.2 r.previous))
  | .event _ => (⟨after, r.previous⟩, none)
  | .wait _ => (⟨after, r.previous⟩, none)

/-- What is seen of the ticks of a run of a new agent, the first one first. -/
def sightings (a : Agent) (c : MemoryCluster) (steps : List AgentStep) : List Sighting :=
  History.records a.follow (a.meet c) steps

/-- Nothing but the agent disturbs its calls or touches its node, except that it may be
registered again while it is absent. -/
def Undisturbed (a : Agent) (r : Followed) : AgentStep → Prop
  | .tick _ => True
  | .event e => r.run.2.Undisturbing a.executor.scope e
  | .wait _ => True

instance (r : Followed) : (step : AgentStep) → Decidable (a.Undisturbed r step)
  | .tick _ | .wait _ => .isTrue trivial
  | .event e => inferInstanceAs (Decidable (r.run.2.Undisturbing a.executor.scope e))

variable {r : Followed} {step : AgentStep} {steps : List AgentStep} {i t : Nat} {b d : Sighting}
  {past : List Sighting}

theorem advance_eq_follow (r : Followed) (step : AgentStep) :
    a.advance r.run step = ((a.follow r step).1.run, (a.follow r step).2.map Sighting.tick) := by
  cases step with
  | tick backend => simp only [follow, advance, sighting, Option.map_some]
  | event e => rfl
  | wait ms => rfl

/-- The ticks that are seen are those of the run. -/
theorem sightings_ticks (a : Agent) (c : MemoryCluster) (steps : List AgentStep) :
    (a.sightings c steps).map Sighting.tick = a.history c steps :=
  History.records_map Followed.run Sighting.tick advance_eq_follow (a.meet c) steps

theorem getElem?_history (h : (a.sightings c steps)[t]? = some b) :
    (a.history c steps)[t]? = some b.tick := by
  rw [← sightings_ticks, List.getElem?_map, h, Option.map_some]

/-- A step that is seen is a tick. -/
theorem follow_spec (made : (a.follow r step).2 = some b) :
    ∃ backend, step = .tick backend ∧ b = a.sighting backend r.run.1 r.run.2 r.previous ∧
      (a.follow r step).1.previous = b.left := by
  cases step with
  | tick backend =>
    cases made
    exact ⟨backend, rfl, rfl, rfl⟩
  | event => cases made
  | wait => cases made

/-- What is remembered is what the last tick has left. -/
def Followed.Remembers (r : Followed) (past : List Sighting) : Prop :=
  ∀ d, past.getLast? = some d → r.previous = d.left

theorem Followed.Remembers.silent (h : r.Remembers past) (silent : (a.follow r step).2 = none) :
    (a.follow r step).1.Remembers past := by
  cases step with
  | tick => cases silent
  | event => exact h
  | wait => exact h

theorem Followed.Remembers.recorded (past : List Sighting) (made : (a.follow r step).2 = some b) :
    (a.follow r step).1.Remembers (past ++ [b]) := by
  intro d last
  obtain ⟨_, -, -, left⟩ := follow_spec made
  rw [List.getLast?_concat] at last
  cases last
  exact left

/-- The node is remembered to stand as the tick before has left it. -/
theorem previous_eq_left (hb : (a.sightings c steps)[t + 1]? = some b)
    (hd : (a.sightings c steps)[t]? = some d) : b.previous = d.left := by
  have start : (a.meet c).Remembers [] := by
    intro d last
    cases last
  obtain ⟨r, step, remembers, made⟩ := History.exists_related start
    (fun _ _ _ remembers silent => remembers.silent silent)
    (fun _ _ past _ _ made => .recorded past made) hb
  obtain ⟨_, -, rfl, -⟩ := follow_spec made
  have last : ((a.sightings c steps).take (t + 1)).getLast? = some d := by
    rw [List.take_add_one, hd, Option.toList_some, List.getLast?_concat]
  exact remembers d last

/-- An agent in step stays so. -/
theorem InStep.follow (h : a.InStep r.run.1 r.run.2 r.previous)
    (wet : a.executor.config.dryRun = false) (allowed : a.executor.config.allowDelete = true)
    (undisturbed : a.Undisturbed r step) :
    a.InStep (a.follow r step).1.run.1 (a.follow r step).1.run.2 (a.follow r step).1.previous := by
  cases step with
  | tick backend => exact (h.due wet allowed backend).2
  | event e => exact h.happen undisturbed
  | wait ms => exact { h with steady := h.steady.pass ms }

/-- On every tick of an undisturbed run the agent does what is due. -/
theorem sighting_due (wet : a.executor.config.dryRun = false)
    (allowed : a.executor.config.allowDelete = true) (steady : c.Steady a.executor.scope)
    (registered : a.standing c ≠ none)
    (undisturbed : History.Throughout a.follow a.Undisturbed (a.meet c) steps)
    (hb : (a.sightings c steps)[t]? = some b) : b.Due := by
  have start : a.InStep a.initial c (a.standing c) := .new steady registered
  obtain ⟨r, step, inStep, -, made⟩ := undisturbed.exists_input
    (R := fun r : Followed => a.InStep r.run.1 r.run.2 r.previous) start
    (fun _ _ inStep undisturbed => inStep.follow wet allowed undisturbed) hb
  obtain ⟨backend, -, rfl, -⟩ := follow_spec made
  exact (inStep.due wet allowed backend).1

/-! ## Streaks -/

/-- All ticks from one to another are of a condition, and the tick before them is not. -/
def StreakFrom (ticks : List TickRecord) (condition : Condition) (i t : Nat) : Prop :=
  i ≤ t ∧ Streak ticks condition i t ∧
    ∀ d, (ticks.take i).getLast? = some d → d.condition ≠ condition

/-- In a streak the action is that of the table, by the number of the ticks since it began. -/
theorem StreakFrom.action {condition : Condition} {b : TickRecord}
    (h : StreakFrom (a.history c steps) condition i t) (positive : 0 < a.thresholds.debounce)
    (ht : (a.history c steps)[t]? = some b) :
    b.report.verdict.action =
      condition.dueAction (min (t + 1 - i) 0xffffffff) a.thresholds.debounce.toNat := by
  obtain ⟨ordered, streak, began⟩ := h
  have same : b.report.verdict.condition = condition := streak t b ordered (Nat.le_refl t) ht
  obtain ⟨m, whole⟩ : ∃ m, t + 1 = i + m := ⟨t + 1 - i, by omega⟩
  have lasting : condition.lasting ((((a.history c steps).map fun k => k.report.verdict).map
      Verdict.condition).take (t + 1)) = m := by
    rw [whole]
    apply Condition.lasting_of_began
    · intro c' last
      rw [List.map_map, ← List.map_take, List.getLast?_map] at last
      obtain ⟨d, hd, rfl⟩ := Option.map_eq_some_iff.1 last
      exact began d hd
    · intro k hk
      obtain ⟨d, hd⟩ := History.exists_getElem?_of_le ht (by omega : i + k ≤ t)
      rw [List.getElem?_map, List.getElem?_map, hd, Option.map_some, Option.map_some]
      exact congrArg some (streak (i + k) d (by omega) (by omega) hd)
  have action := history_byTable positive t _ (getElem?_verdicts ht)
  rwa [same, lasting, show m = t + 1 - i by omega] at action

theorem StreakFrom.upto {ticks : List TickRecord} {condition : Condition} {j : Nat}
    (h : StreakFrom ticks condition i t) (hij : i ≤ j) (hjt : j ≤ t) :
    StreakFrom ticks condition i j :=
  ⟨hij, fun k d hik hkj => h.2.1 k d hik (Nat.le_trans hkj hjt), h.2.2⟩

section Outlasting

variable {condition : Condition} (positive : 0 < a.thresholds.debounce)
  (deletable : condition ∈ [.noDevices, .exhausted, .sampleFailure])
  (due : ∀ (t : Nat) (b : Sighting), (a.sightings c steps)[t]? = some b → b.Due)
include positive deletable due

/-- A node that stays registered is deleted when the condition has outlasted the debounce. -/
theorem deleted_of_outlasts (streak : StreakFrom (a.history c steps) condition i t)
    (registered : Sighting.Registered (a.sightings c steps) i t)
    (hb : (a.sightings c steps)[t]? = some b)
    (outlasts : a.thresholds.debounce.toNat < min (t + 1 - i) 0xffffffff) :
    b.tick.report.outcome = some .deleted := by
  have positive' : 0 < a.thresholds.debounce.toNat := UInt32.lt_iff_toNat_lt.1 positive
  have action := streak.action positive (getElem?_history hb)
  rw [Condition.dueAction_eq_delete deletable outlasts] at action
  refine ((due t b hb).deleted_iff (registered t b streak.1 (Nat.le_refl t) hb).1).2 ⟨action, ?_⟩
  -- the tick is not the first of the streak, so the node was left registered by the one before
  obtain ⟨u, rfl⟩ : ∃ u, t = u + 1 := ⟨t - 1, by omega⟩
  obtain ⟨d, hd⟩ := History.exists_getElem?_of_le hb (Nat.le_succ u)
  rw [previous_eq_left hb hd]
  exact (registered u d (by omega) (by omega) hd).2 (by omega)

/-- It is deleted then, neither earlier nor later. -/
theorem deleted_iff_outlasts (streak : StreakFrom (a.history c steps) condition i t)
    (registered : Sighting.Registered (a.sightings c steps) i t)
    (hb : (a.sightings c steps)[t]? = some b) :
    b.tick.report.outcome = some .deleted ↔
      t = i + a.thresholds.debounce.toNat ∧ a.thresholds.debounce.toNat < 0xffffffff := by
  have there := (registered t b streak.1 (Nat.le_refl t) hb).1
  constructor
  · intro deleted
    obtain ⟨delete, -⟩ := ((due t b hb).deleted_iff there).1 deleted
    have action := (streak.action positive (getElem?_history hb)).symm.trans delete
    obtain ⟨-, outlasts⟩ := Condition.of_dueAction_eq_delete action
    refine ⟨?_, by omega⟩
    -- if it had outlasted the debounce before, then the node would have been deleted before
    by_contra late
    have before : i + a.thresholds.debounce.toNat < t := by omega
    obtain ⟨d, hd⟩ := History.exists_getElem?_of_le hb before.le
    obtain ⟨found, left⟩ := registered _ _ (by omega) before.le hd
    have deleted := deleted_of_outlasts positive deletable due (streak.upto (by omega) before.le)
      (registered.upto before.le) hd (by omega)
    exact left before ((due _ _ hd).left_of_deleted found deleted)
  · rintro ⟨rfl, bounded⟩
    exact deleted_of_outlasts positive deletable due streak registered hb (by omega)

end Outlasting

/-- What an agent does in a steady cluster, with deletions allowed and out of a dry run, if
its node exists at the start and nobody else touches it except that it may be registered
again while it is absent. Its verdicts are those of the escalation table; every tick comes
to what is due for its verdict; and a node that stays registered while a condition lasts is
deleted on the tick on which that has outlasted the debounce, neither earlier nor later.
(The count of the ticks ends at the largest debounce, which nothing outlasts.) -/
theorem undisturbed_due (positive : 0 < a.thresholds.debounce)
    (wet : a.executor.config.dryRun = false) (allowed : a.executor.config.allowDelete = true)
    (steady : c.Steady a.executor.scope) (registered : a.standing c ≠ none)
    (undisturbed : History.Throughout a.follow a.Undisturbed (a.meet c) steps) :
    (a.sightings c steps).map Sighting.tick = a.history c steps ∧
    Verdict.ByTable a.thresholds.debounce ((a.history c steps).map fun k => k.report.verdict) ∧
    (∀ (t : Nat) (b : Sighting), (a.sightings c steps)[t]? = some b → b.Due) ∧
    ∀ (i t : Nat) (b : Sighting) (condition : Condition),
      condition ∈ [.noDevices, .exhausted, .sampleFailure] →
      StreakFrom (a.history c steps) condition i t → Sighting.Registered (a.sightings c steps) i t →
      (a.sightings c steps)[t]? = some b →
      (b.tick.report.outcome = some .deleted ↔
        t = i + a.thresholds.debounce.toNat ∧ a.thresholds.debounce.toNat < 0xffffffff) := by
  have due (t : Nat) (b : Sighting) (hb : (a.sightings c steps)[t]? = some b) : b.Due :=
    sighting_due wet allowed steady registered undisturbed hb
  refine ⟨sightings_ticks a c steps, history_byTable positive, due, ?_⟩
  intro i t b condition deletable streak registered hb
  exact deleted_iff_outlasts positive deletable due streak registered hb

/-- A run in which devices fail on every tick, and the node is registered again after it was
deleted. -/
def failingSteps : List AgentStep :=
  [.tick .failing, .tick .failing, .tick .failing, .event (.register "node-a"),
    .tick .failing, .tick .failing]

/-- In that run the first tick is abandoned, the third deletes the node, and the fourth
defers another deletion. -/
theorem undisturbed_due_trial :
    ∃ first third fourth,
      (patient.sightings (.withNodes ["node-a"]) failingSteps)[0]? = some first ∧
      (patient.sightings (.withNodes ["node-a"]) failingSteps)[2]? = some third ∧
      (patient.sightings (.withNodes ["node-a"]) failingSteps)[3]? = some fourth ∧
      first.tick.report.outcome = none ∧ third.tick.report.outcome = some .deleted ∧
      fourth.tick.report.outcome = some .deleteDeferred := by
  obtain ⟨-, -, due, streak⟩ :=
    @undisturbed_due patient (.withNodes ["node-a"]) failingSteps (by decide) rfl
    rfl (.new _) (by decide) (by decide)
  have first : (patient.sightings (.withNodes ["node-a"]) failingSteps)[0]? = some _ := rfl
  have third : (patient.sightings (.withNodes ["node-a"]) failingSteps)[2]? = some _ := rfl
  have fourth : (patient.sightings (.withNodes ["node-a"]) failingSteps)[3]? = some _ := rfl
  refine ⟨_, _, _, first, third, fourth, ?_, ?_, ?_⟩
  · exact ((due 0 _ first).abandoned ⟨_, List.mem_cons_self⟩ rfl).1
  · refine (streak 0 2 _ .sampleFailure (by decide) ⟨by decide, ?_, by simp⟩ ?_ third).2
      ⟨rfl, by decide⟩
    · intro k d _ upto hk
      match k, upto with
      | 0, _ | 1, _ | 2, _ =>
        cases hk
        rfl
    · intro k b _ upto hk
      match k, upto with
      | 0, _ | 1, _ | 2, _ =>
        cases hk
        exact ⟨by decide, by decide⟩
  · exact ((due 3 _ fourth).applied fun idle => nomatch idle.2).1

/-! ## Runs of ticks alone -/

section Ticks

variable {backends : List DeviceBackend}

/-- What holds of every tick holds throughout a run of ticks alone. -/
theorem throughout_ticks {P : Followed → AgentStep → Prop}
    (h : ∀ r, ∀ backend ∈ backends, P r (.tick backend)) (r : Followed) :
    History.Throughout a.follow P r (backends.map .tick) := by
  induction backends generalizing r with
  | nil => trivial
  | cons backend rest ih =>
    exact ⟨h r backend List.mem_cons_self,
      ih (fun r other among => h r other (List.mem_cons_of_mem _ among)) _⟩

theorem length_sightings_ticks (a : Agent) (c : MemoryCluster) (backends : List DeviceBackend) :
    (a.sightings c (backends.map .tick)).length = backends.length := by
  unfold sightings
  generalize a.meet c = r
  induction backends generalizing r with
  | nil => rfl
  | cons backend rest ih =>
    rw [List.map_cons, History.records_cons_of_some rfl, List.length_cons, List.length_cons, ih]

/-- Nothing happens between the ticks, so the node is found as the tick before has left it. -/
theorem sighting_of_ticks (hb : (a.sightings c (backends.map .tick))[t]? = some b) :
    b.found = b.previous ∧
      ∃ backend ∈ backends, ∃ s c' previous, b = a.sighting backend s c' previous := by
  have ticking : History.Throughout a.follow
      (fun _ step => ∃ backend ∈ backends, step = .tick backend) (a.meet c) (backends.map .tick) :=
    throughout_ticks (fun _ backend among => ⟨backend, among, rfl⟩) _
  obtain ⟨r, step, seen, ⟨backend, among, rfl⟩, made⟩ := ticking.exists_input
    (R := fun r : Followed => r.previous = a.standing r.run.2) rfl
    (fun r step _ ticks => by
      obtain ⟨backend, -, rfl⟩ := ticks
      rfl) hb
  cases made
  exact ⟨seen.symm, backend, among, _, _, _, rfl⟩

/-- A node that no tick deletes stays registered. -/
theorem registered_of_kept (there : a.standing c ≠ none)
    (due : ∀ (t : Nat) (b : Sighting), (a.sightings c (backends.map .tick))[t]? = some b → b.Due)
    (kept : ∀ (t : Nat) (b : Sighting), (a.sightings c (backends.map .tick))[t]? = some b →
      b.tick.report.outcome ≠ some .deleted) (t : Nat) :
    Sighting.Registered (a.sightings c (backends.map .tick)) 0 t := by
  -- it is found as it was left, and it is left if it was found
  have stays (k : Nat) : ∀ b, (a.sightings c (backends.map .tick))[k]? = some b →
      b.found ≠ none ∧ b.left ≠ none := by
    induction k with
    | zero =>
      intro b hb
      have found : b.found ≠ none := by
        cases backends with
        | nil => cases hb
        | cons backend rest =>
          cases hb
          exact there
      exact ⟨found, (due 0 b hb).left_of_kept found (kept 0 b hb)⟩
    | succ k ih =>
      intro b hb
      obtain ⟨d, hd⟩ := History.exists_getElem?_of_le hb (Nat.le_succ k)
      have found : b.found ≠ none := by
        rw [(sighting_of_ticks hb).1, previous_eq_left hb hd]
        exact (ih d hd).2
      exact ⟨found, (due (k + 1) b hb).left_of_kept found (kept (k + 1) b hb)⟩
  exact fun k b _ _ hk => (stays k b hk).imp_right fun left _ => left

end Ticks

/-! ## The longest debounce -/

/-- Nothing outlasts the longest debounce, for the count of the ticks ends there. -/
theorem kept_of_longest (longest : a.thresholds.debounce = 0xffffffff)
    (hb : (a.sightings c steps)[t]? = some b) (due : b.Due) :
    b.tick.report.outcome ≠ some .deleted := by
  intro deleted
  have positive : 0 < a.thresholds.debounce := by
    rw [longest]
    decide
  obtain ⟨delete, -⟩ := (due.deleted_iff (due.found_of_deleted deleted)).1 deleted
  have action := history_byTable positive t _ (getElem?_verdicts (getElem?_history hb))
  obtain ⟨-, outlasts⟩ := Condition.of_dueAction_eq_delete (action.symm.trans delete)
  rw [longest] at outlasts
  exact absurd outlasts (Nat.not_lt.2 (Nat.min_le_right _ _))

/-- So while a condition lasts, however long, an agent with the longest debounce sees its
node registered and never deletes it. -/
theorem keeps_of_longest {backends : List DeviceBackend} {condition : Condition}
    (longest : a.thresholds.debounce = 0xffffffff) (wet : a.executor.config.dryRun = false)
    (allowed : a.executor.config.allowDelete = true) (steady : c.Steady a.executor.scope)
    (registered : a.standing c ≠ none)
    (lasts : ∀ backend ∈ backends, ∀ time, a.shows backend time = condition)
    (ht : t < backends.length) :
    ∃ b, (a.sightings c (backends.map .tick))[t]? = some b ∧
      StreakFrom (a.history c (backends.map .tick)) condition 0 t ∧
      Sighting.Registered (a.sightings c (backends.map .tick)) 0 t ∧
      b.tick.report.outcome ≠ some .deleted := by
  have due (t : Nat) (b : Sighting) (hb : (a.sightings c (backends.map .tick))[t]? = some b) :
      b.Due :=
    sighting_due wet allowed steady registered (throughout_ticks (fun _ _ _ => trivial) _) hb
  have kept (t : Nat) (b : Sighting) (hb : (a.sightings c (backends.map .tick))[t]? = some b) :
      b.tick.report.outcome ≠ some .deleted :=
    kept_of_longest longest hb (due t b hb)
  have inside : t < (a.sightings c (backends.map .tick)).length := by
    rwa [length_sightings_ticks]
  refine ⟨_, List.getElem?_eq_getElem inside, ⟨Nat.zero_le t, ?_, by simp⟩,
    registered_of_kept registered due kept t, kept t _ (List.getElem?_eq_getElem inside)⟩
  intro k d _ _ hd
  rw [← sightings_ticks, List.getElem?_map] at hd
  obtain ⟨b, hb, rfl⟩ := Option.map_eq_some_iff.1 hd
  rw [(due k b hb).condition]
  obtain ⟨-, backend, among, s, c', previous, rfl⟩ := sighting_of_ticks hb
  exact lasts backend among _

/-- An agent with the longest debounce. -/
def steadfast : Agent := { trial with thresholds := ⟨1000, 250, 0xffffffff⟩ }

/-- An agent to which its mask shows no device. -/
def blind : Agent := { trial with mask := .none }

/-- Ticks with the node registered again between two of them. -/
def returningSteps : List AgentStep :=
  [.tick .failing, .tick .failing, .event (.register "node-a"), .tick .failing, .tick .failing]

/-- It does not hold of every debounce that a node that stays registered is deleted when a
condition has outlasted it: not of the longest, in a failure that lasts for 2 ^ 32 ticks.
Nor is it enough that the node is there on every tick. If it has been registered again
between two of them then it is deleted twice. -/
theorem untimely_deletions :
    (¬ ∀ (a : Agent) (c : MemoryCluster) (steps : List AgentStep), 0 < a.thresholds.debounce →
      a.executor.config.dryRun = false → a.executor.config.allowDelete = true →
      c.Steady a.executor.scope → a.standing c ≠ none →
      History.Throughout a.follow a.Undisturbed (a.meet c) steps →
      ∀ (i t : Nat) (b : Sighting) (condition : Condition),
        condition ∈ [.noDevices, .exhausted, .sampleFailure] →
        StreakFrom (a.history c steps) condition i t →
        Sighting.Registered (a.sightings c steps) i t → (a.sightings c steps)[t]? = some b →
        (b.tick.report.outcome = some .deleted ↔ t = i + a.thresholds.debounce.toNat)) ∧
    ∃ second fourth,
      (∀ b ∈ blind.sightings (.withNodes ["node-a"]) returningSteps,
        b.shown = .noDevices ∧ b.found ≠ none) ∧
      (blind.sightings (.withNodes ["node-a"]) returningSteps)[1]? = some second ∧
      (blind.sightings (.withNodes ["node-a"]) returningSteps)[3]? = some fourth ∧
      second.tick.report.outcome = some .deleted ∧ fourth.tick.report.outcome = some .deleted := by
  refine ⟨fun law => ?_, _, _, by decide, rfl, rfl, rfl, rfl⟩
  have steady : (MemoryCluster.withNodes ["node-a"]).Steady steadfast.executor.scope := .new _
  have there : steadfast.standing (.withNodes ["node-a"]) ≠ none := by decide
  have lasts : ∀ backend ∈ List.replicate (2 ^ 32) DeviceBackend.failing, ∀ time,
      steadfast.shows backend time = .sampleFailure := by
    intro backend among time
    cases List.eq_of_mem_replicate among
    rfl
  obtain ⟨b, hb, streak, registered, kept⟩ := keeps_of_longest (t := 0xffffffff) rfl rfl rfl steady
    there lasts (by rw [List.length_replicate]; decide)
  exact kept ((law steadfast _ _ (by decide) rfl rfl steady there
    (throughout_ticks (fun _ _ _ => trivial) _) 0 0xffffffff b .sampleFailure (by decide) streak
    registered hb).2 rfl)

end Agent

end NodeWarden
