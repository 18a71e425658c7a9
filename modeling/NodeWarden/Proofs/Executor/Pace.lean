import NodeWarden.Proofs.Executor.AnyWorld

/-!
# The pace of an executor

Whether an executor acts at all on a tick depends on a part of its memory, its pace: the
counters of ticks, failures and skipped ticks, and the latch. Carrying out a verdict leaves
the pace alone (`ExecuteCourse.pace`); only its result changes it (`remember_pace`). So an
application meets the latch, or backs off, or is executed and paced by its result
(`Took.pace`), and while an executor backs off it counts down the ticks to skip
(`countdown`).
-/

namespace NodeWarden

/-- Counting down does not go below zero. -/
theorem Number.toNat_pred {n : UInt32} (h : 0 < n) : (n - 1).toNat = n.toNat - 1 :=
  UInt32.toNat_sub_of_le n 1 (UInt32.le_iff_toNat_le.2 (UInt32.lt_iff_toNat_lt.1 h))

/-- What an executor goes by when it decides whether to act. -/
structure Pace where
  tick : Nat
  failures : UInt32
  skipTicks : UInt32
  observeOnly : Bool

/-- The pace that a state keeps. -/
def ExecutorState.pace (s : ExecutorState) : Pace :=
  ⟨s.tick, s.failures, s.skipTicks, s.observeOnly⟩

/-- A state after so many skipped ticks. -/
def ExecutorState.Waited (s : ExecutorState) (k : Nat) (t : ExecutorState) : Prop :=
  ∃ r : UInt32, r.toNat = s.skipTicks.toNat - k ∧ t = { s with tick := s.tick + k, skipTicks := r }

theorem ExecutorState.Waited.start (s : ExecutorState) : s.Waited 0 s := ⟨s.skipTicks, rfl, rfl⟩

/-- After all of them there are none left. -/
theorem ExecutorState.Waited.done {s t : ExecutorState} (h : s.Waited s.skipTicks.toNat t) :
    t = { s with tick := s.tick + s.skipTicks.toNat, skipTicks := 0 } := by
  obtain ⟨r, left, rfl⟩ := h
  cases UInt32.toNat_inj.1 (left.trans (Nat.sub_self _) : r.toNat = (0 : UInt32).toNat)
  rfl

namespace Application

/-- Whether the verdict was carried out: its tick was not skipped. -/
def executed (a : Application) : Bool :=
  match a.result with
  | .ok outcome => !outcome.skips
  | .error _ => true

/-- The application met the latch. -/
structure Observes (a : Application) : Prop where
  result : a.result = .ok .observeOnly
  calls : a.exchanges = []
  after : a.after = { a.before with tick := a.before.tick + 1 }

/-- The application was skipped, and so many more will be. -/
structure BacksOff (a : Application) (remaining : UInt32) : Prop where
  result : a.result = .ok (.backingOff remaining)
  calls : a.exchanges = []
  after : a.after = { a.before with tick := a.before.tick + 1, skipTicks := remaining }

variable {a : Application} {remaining : UInt32}

theorem Observes.not_executed (h : a.Observes) : a.executed = false := by
  rw [executed, h.result]
  rfl

theorem BacksOff.not_executed (h : a.BacksOff remaining) : a.executed = false := by
  rw [executed, h.result]
  rfl

end Application

namespace Executor

variable {x : Executor} {v : Verdict} {s s' : ExecutorState} {xs : List Exchange}
  {action : NodeAction} {read : NodeState} {result : Except ClusterError ExecutionOutcome}

/-! ## Courses -/

theorem CordonCourse.pace (h : x.CordonCourse read s xs result s') : s'.pace = s.pace := by
  cases h <;> rfl

theorem DeleteCourse.pace (h : x.DeleteCourse s xs result s') : s'.pace = s.pace := by
  cases h <;> rfl

theorem ActCourse.pace (h : x.ActCourse s action xs result s') : s'.pace = s.pace := by
  cases h with
  | none => rfl
  | unread => rfl
  | cordon _ went => exact went.pace
  | delete _ _ went => exact went.pace
  | defer _ _ went => exact went.pace

theorem VerdictCourse.pace (h : x.VerdictCourse v s xs result s') : s'.pace = s.pace := by
  cases h with
  | failed _ went => exact went.pace
  | unlabelled went => exact went.pace
  | labelled went _ _ published =>
    rw [published.state]
    exact went.pace

theorem ExecuteCourse.pace (h : x.ExecuteCourse v s xs result s') : s'.pace = s.pace := by
  cases h with
  | present _ went => exact went.pace
  | absent => rfl
  | unseen => rfl
  | returned _ _ went => exact went.pace

/-- The pace after a verdict that was carried out with the given result. -/
def repace (x : Executor) (result : Except ClusterError ExecutionOutcome) (p : Pace) : Pace :=
  match result with
  | .ok _ => { p with failures := 0 }
  | .error e =>
    if e.isTransient then
      { p with
        failures := Number.saturatingSucc p.failures
        skipTicks := backoffTicks (Number.saturatingSucc p.failures) x.config.maxBackoffTicks }
    else { p with observeOnly := true }

theorem remember_pace (result : Except ClusterError ExecutionOutcome) (s : ExecutorState) :
    (x.remember result s).pace = x.repace result s.pace := by
  cases result with
  | ok => rfl
  | error e =>
    by_cases passing : e.isTransient = true
    · simp [remember, repace, passing, ExecutorState.pace, ExecutorState.countFailure]
    · simp [remember, repace, passing, ExecutorState.pace]

end Executor

namespace Application

open Executor

variable {x : Executor} {a : Application} {e : ClusterError}

/-! ## Applications -/

/-- An application meets the latch, or backs off, or is executed and paced by its result. -/
theorem Took.pace (h : a.Took x) :
    (a.before.observeOnly = true ∧ a.Observes) ∨
    (a.before.observeOnly = false ∧ 0 < a.before.skipTicks ∧ a.BacksOff (a.before.skipTicks - 1)) ∨
    (a.before.observeOnly = false ∧ a.before.skipTicks = 0 ∧ a.executed = true ∧
      a.after.pace = x.repace a.result { a.before.pace with tick := a.before.tick + 1 }) := by
  rcases h.cases with ⟨latched, calls, result, after⟩ | ⟨unlatched, waits, calls, result, after⟩ |
    ⟨unlatched, ready, s', went, after⟩
  · exact .inl ⟨latched, result, calls, after⟩
  · exact .inr (.inl ⟨unlatched, waits, result, calls, after⟩)
  · refine .inr (.inr ⟨unlatched, ready, ?_, ?_⟩)
    · unfold executed
      split
      · rename_i outcome done
        rw [went.not_skips done]
        rfl
      · rfl
    · rw [after, remember_pace, went.pace]
      rfl

theorem Took.of_executed (h : a.Took x) (executed : a.executed = true) :
    a.before.observeOnly = false ∧ a.before.skipTicks = 0 ∧
      a.after.pace = x.repace a.result { a.before.pace with tick := a.before.tick + 1 } := by
  rcases h.pace with ⟨-, observes⟩ | ⟨-, -, waits⟩ | ⟨unlatched, ready, -, paced⟩
  · exact absurd (executed.symm.trans observes.not_executed) (by decide)
  · exact absurd (executed.symm.trans waits.not_executed) (by decide)
  · exact ⟨unlatched, ready, paced⟩

/-- If nothing keeps the executor from acting, the verdict is executed. -/
theorem Took.executed_of_ready (h : a.Took x) (active : a.before.observeOnly = false)
    (ready : a.before.skipTicks = 0) : a.executed = true := by
  rcases h.pace with ⟨latched, -⟩ | ⟨-, waits, -⟩ | ⟨-, -, executed, -⟩
  · exact absurd (latched.symm.trans active) (by decide)
  · rw [ready] at waits
    exact absurd waits (by decide)
  · exact executed

theorem executed_of_failed (failed : a.result = .error e) : a.executed = true := by
  rw [executed, failed]

/-- After a transient error the failures are one more, and so many ticks are to be skipped
as is due for them. -/
theorem Took.paced_of_transient (h : a.Took x) (failed : a.result = .error e)
    (transient : e.isTransient = true) :
    a.after.failures = Number.saturatingSucc a.before.failures ∧
      a.after.skipTicks = backoffTicks a.after.failures x.config.maxBackoffTicks ∧
      a.after.observeOnly = false := by
  obtain ⟨unlatched, -, paced⟩ := h.of_executed (executed_of_failed failed)
  rw [failed, repace, if_pos transient] at paced
  have failures : a.after.failures = Number.saturatingSucc a.before.failures :=
    congrArg Pace.failures paced
  refine ⟨failures, ?_, (congrArg Pace.observeOnly paced).trans unlatched⟩
  rw [failures]
  exact congrArg Pace.skipTicks paced

/-- After any other error the executor is latched. -/
theorem Took.paced_of_final (h : a.Took x) (failed : a.result = .error e)
    (final : e.isTransient = false) :
    a.after.skipTicks = 0 ∧ a.after.observeOnly = true := by
  obtain ⟨-, ready, paced⟩ := h.of_executed (executed_of_failed failed)
  rw [failed, repace, if_neg (by simp [final])] at paced
  exact ⟨(congrArg Pace.skipTicks paced).trans ready, congrArg Pace.observeOnly paced⟩

/-- After a success there are no failures, and nothing is skipped. -/
theorem Took.paced_of_ok {outcome : ExecutionOutcome} (h : a.Took x) (executed : a.executed = true)
    (done : a.result = .ok outcome) :
    a.after.failures = 0 ∧ a.after.skipTicks = 0 ∧ a.after.observeOnly = false := by
  obtain ⟨unlatched, ready, paced⟩ := h.of_executed executed
  rw [done] at paced
  exact ⟨congrArg Pace.failures paced, (congrArg Pace.skipTicks paced).trans ready,
    (congrArg Pace.observeOnly paced).trans unlatched⟩

/-- Every application is a tick. -/
theorem Took.tick (h : a.Took x) : a.after.tick = a.before.tick + 1 := by
  rcases h.pace with ⟨-, observes⟩ | ⟨-, -, waits⟩ | ⟨-, -, -, paced⟩
  · rw [observes.after]
  · rw [waits.after]
  · refine (congrArg Pace.tick paced).trans ?_
    unfold repace
    split <;> (try split) <;> rfl

/-! ## Skipped ticks -/

/-- While there are ticks to skip, an application is skipped. -/
theorem Took.waited {s : ExecutorState} {k : Nat} (h : a.Took x) (unlatched : s.observeOnly = false)
    (few : k < s.skipTicks.toNat) (waited : s.Waited k a.before) :
    (∃ r : UInt32, r.toNat = s.skipTicks.toNat - 1 - k ∧ a.BacksOff r) ∧
      s.Waited (k + 1) a.after := by
  obtain ⟨r, left, before⟩ := waited
  have more : 0 < a.before.skipTicks := by
    rw [before, UInt32.lt_iff_toNat_lt]
    show 0 < r.toNat
    omega
  have fewer : (a.before.skipTicks - 1).toNat = s.skipTicks.toNat - 1 - k := by
    rw [Number.toNat_pred more, before]
    show r.toNat - 1 = _
    omega
  rcases h.pace with ⟨latched, -⟩ | ⟨-, -, backs⟩ | ⟨-, ready, -⟩
  · rw [before] at latched
    exact absurd (latched.symm.trans unlatched) (by decide)
  · refine ⟨⟨_, fewer, backs⟩, a.before.skipTicks - 1, by omega, ?_⟩
    rw [backs.after, before]
    rfl
  · rw [ready] at more
    exact absurd more (by decide)

/-- When there are none left, it is executed. -/
theorem Took.executed_of_waited {s : ExecutorState} (h : a.Took x)
    (unlatched : s.observeOnly = false) (waited : s.Waited s.skipTicks.toNat a.before) :
    a.executed = true := by
  have before := waited.done
  exact h.executed_of_ready (by rw [before]; exact unlatched) (by rw [before])

end Application

/-! ## Runs -/

namespace Executor

variable {σ : Type} [ClusterApi σ] [Journal σ] {x : Executor} {st : ExecutorState × σ}
  {steps : List (WorldStep σ)} {j : Nat} {b : Application}

/-- An executor that is not latched waits for as many ticks as it is to skip. -/
theorem waited_of_records (x : Executor) (st : ExecutorState × σ) (steps : List (WorldStep σ))
    (unlatched : st.1.observeOnly = false) :
    (History.records x.proceed st steps).length ≤ st.1.skipTicks.toNat →
      st.1.Waited (History.records x.proceed st steps).length
      (History.final x.proceed st steps).1 := by
  refine History.records_invariant
    (R := fun (st' : ExecutorState × σ) past =>
      past.length ≤ st.1.skipTicks.toNat → st.1.Waited past.length st'.1)
    (fun _ => .start st.1) ?_ ?_
  · intro st' step past waited silent few
    rw [proceed_silent silent]
    exact waited few
  · intro st' step past a waited made few
    obtain ⟨took, before, after⟩ := proceed_spec made
    rw [List.length_append, List.length_singleton] at few ⊢
    have waiting : st.1.Waited past.length a.before := before ▸ waited (Nat.le_of_succ_le few)
    rw [← after]
    exact (took.waited unlatched few waiting).2

/-- It skips them one by one, counting them down, and then acts again. -/
theorem countdown (x : Executor) (st : ExecutorState × σ) (steps : List (WorldStep σ))
    (unlatched : st.1.observeOnly = false)
    (found : (History.records x.proceed st steps)[j]? = some b) :
    (j < st.1.skipTicks.toNat →
      ∃ r : UInt32, r.toNat = st.1.skipTicks.toNat - 1 - j ∧ b.BacksOff r) ∧
    (j = st.1.skipTicks.toNat → b.executed = true) := by
  obtain ⟨earlier, step, later, rfl, rfl, made⟩ := History.exists_input found
  obtain ⟨took, before, -⟩ := proceed_spec made
  have waited := waited_of_records x st earlier unlatched
  rw [← before] at waited
  constructor
  · intro few
    exact (took.waited unlatched few (waited (Nat.le_of_lt few))).1
  · intro all
    exact took.executed_of_waited unlatched (all ▸ waited (Nat.le_of_eq all))

variable {w : σ} {i : Nat} {a : Application}

/-- So it does after an application of a run. -/
theorem countdown_after (hi : (x.undertakings w steps)[i]? = some a)
    (unlatched : a.after.observeOnly = false) (hb : (x.undertakings w steps)[i + 1 + j]? = some b) :
    (j < a.after.skipTicks.toNat →
      ∃ r : UInt32, r.toNat = a.after.skipTicks.toNat - 1 - j ∧ b.BacksOff r) ∧
    (j = a.after.skipTicks.toNat → b.executed = true) := by
  obtain ⟨before, input, later, rfl, rfl, made⟩ := History.exists_input hi
  obtain ⟨-, -, after⟩ := proceed_spec made
  rw [undertakings, History.getElem?_after made (by omega),
    show (History.records x.proceed (.initial, w) before).length + 1 + j -
      (History.records x.proceed (.initial, w) before).length - 1 = j by omega] at hb
  rw [after] at unlatched ⊢
  exact countdown x _ _ unlatched hb

end Executor

end NodeWarden
