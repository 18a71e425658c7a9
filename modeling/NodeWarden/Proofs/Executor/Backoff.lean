import Mathlib.Algebra.Ring.Nat
import NodeWarden.Proofs.Executor.Pace
import NodeWarden.Proofs.Policy.Escalation

/-!
# The retry schedule

After transient errors in a row an executor skips ticks, the more the more there were: 0, 1,
3, 7 and so on, up to a limit (`failures_retried`). It remembers no more of them than a
counter that saturates and a countdown; that these come to the schedule is an invariant over
the applications so far (`Scheduled`). None of the words in which it counts wraps around or
loses bits (`BackoffExact`), and it is never to skip more ticks than the limit
(`Reachable.skipTicks_le`).
-/

namespace NodeWarden

/-! ## Words -/

/-- The lesser of two words is the lesser number. -/
theorem Number.map_min {α : Type} [LE α] [DecidableLE α] {f : α → Nat}
    (mono : ∀ {a b : α}, a ≤ b ↔ f a ≤ f b) (a b : α) :
    f (@min α minOfLe a b) = min (f a) (f b) := by
  change f (if a ≤ b then a else b) = _
  split
  · rename_i le
    exact (Nat.min_eq_left (mono.1 le)).symm
  · rename_i gt
    exact (Nat.min_eq_right (Nat.le_of_not_le fun le => gt (mono.2 le))).symm

/-- How often the ticks to skip are doubled. -/
def doublings (failures : UInt32) : UInt32 := min (failures - min failures 1) 31

/-- The ticks to skip after so many failures if there is no limit. -/
def unlimitedTicks (failures : UInt32) : UInt64 := (1 <<< (doublings failures).toUInt64) - 1

theorem sub_min_one_toNat (failures : UInt32) :
    (failures - min failures 1).toNat = failures.toNat - 1 := by
  have least : (min failures 1).toNat = min failures.toNat 1 :=
    Number.map_min UInt32.le_iff_toNat_le failures 1
  have le : min failures 1 ≤ failures := by
    rw [UInt32.le_iff_toNat_le, least]
    exact Nat.min_le_left _ _
  rw [UInt32.toNat_sub_of_le _ _ le, least]
  omega

theorem doublings_toNat (failures : UInt32) :
    (doublings failures).toNat = min (failures.toNat - 1) 31 := by
  have least := Number.map_min UInt32.le_iff_toNat_le (failures - min failures 1) 31
  rw [sub_min_one_toNat] at least
  exact least

theorem shifted_toNat (failures : UInt32) :
    ((1 : UInt64) <<< (doublings failures).toUInt64).toNat = 2 ^ (doublings failures).toNat := by
  have bound : (doublings failures).toNat < 64 := by
    rw [doublings_toNat]
    omega
  have fits : 2 ^ (doublings failures).toNat < 2 ^ 64 := Nat.pow_lt_pow_right (by omega) bound
  rw [UInt64.toNat_shiftLeft, UInt32.toNat_toUInt64, Nat.mod_eq_of_lt bound, UInt64.toNat_one,
    Nat.one_shiftLeft, Nat.mod_eq_of_lt fits]

theorem unlimitedTicks_toNat (failures : UInt32) :
    (unlimitedTicks failures).toNat = 2 ^ (doublings failures).toNat - 1 := by
  have positive : (1 : UInt64) ≤ 1 <<< (doublings failures).toUInt64 := by
    rw [UInt64.le_iff_toNat_le, shifted_toNat]
    exact Nat.one_le_two_pow
  rw [unlimitedTicks, UInt64.toNat_sub_of_le _ _ positive, shifted_toNat, UInt64.toNat_one]

theorem limited_toNat (failures limit : UInt32) :
    (min (unlimitedTicks failures) limit.toUInt64).toNat =
      min (unlimitedTicks failures).toNat limit.toNat := by
  have least := Number.map_min UInt64.le_iff_toNat_le (unlimitedTicks failures) limit.toUInt64
  rw [UInt32.toNat_toUInt64] at least
  exact least

theorem backoffTicks_toNat (failures limit : UInt32) :
    (backoffTicks failures limit).toNat = min (unlimitedTicks failures).toNat limit.toNat := by
  have fits : min (unlimitedTicks failures).toNat limit.toNat < 2 ^ 32 :=
    Nat.lt_of_le_of_lt (Nat.min_le_right _ _) limit.toNat_lt
  change (min (unlimitedTicks failures) limit.toUInt64).toUInt32.toNat = _
  rw [UInt64.toNat_toUInt32, limited_toNat, Nat.mod_eq_of_lt fits]

/-- The ticks to skip in numbers: less by one than a power of two, or as many as the limit
allows. -/
theorem backoffTicks_eq (failures limit : UInt32) :
    (backoffTicks failures limit).toNat =
      min (2 ^ min (failures.toNat - 1) 31 - 1) limit.toNat := by
  rw [backoffTicks_toNat, unlimitedTicks_toNat, doublings_toNat]

/-- In no step of the schedule does a word wrap around or lose bits: from the counter of
failures to the ticks that are still to be skipped, each is the number that it stands for.
-/
structure BackoffExact (failures limit waiting : UInt32) : Prop where
  counted : (Number.saturatingSucc failures).toNat = min (failures.toNat + 1) 0xffffffff
  lessened : (failures - min failures 1).toNat = failures.toNat - 1
  doubled : (doublings failures).toNat = min (failures.toNat - 1) 31
  shifted : ((1 : UInt64) <<< (doublings failures).toUInt64).toNat = 2 ^ (doublings failures).toNat
  unlimited : (unlimitedTicks failures).toNat = 2 ^ (doublings failures).toNat - 1
  limited : (min (unlimitedTicks failures) limit.toUInt64).toNat =
    min (unlimitedTicks failures).toNat limit.toNat
  narrowed : backoffTicks failures limit = (min (unlimitedTicks failures) limit.toUInt64).toUInt32 ∧
    (backoffTicks failures limit).toNat = (min (unlimitedTicks failures) limit.toUInt64).toNat
  countedDown : 0 < waiting → (waiting - 1).toNat = waiting.toNat - 1

theorem backoffExact (failures limit waiting : UInt32) : BackoffExact failures limit waiting where
  counted := Number.saturatingSucc_toNat failures
  lessened := sub_min_one_toNat failures
  doubled := doublings_toNat failures
  shifted := shifted_toNat failures
  unlimited := unlimitedTicks_toNat failures
  limited := limited_toNat failures limit
  narrowed := ⟨rfl, (backoffTicks_toNat failures limit).trans (limited_toNat failures limit).symm⟩
  countedDown := Number.toNat_pred

namespace Application

/-! ## Failures in a row -/

/-- Whether the application ended in a transient error. -/
def stumbles (a : Application) : Bool :=
  match a.result with
  | .ok _ => false
  | .error e => e.isTransient

/-- How many of the last verdicts that were carried out ended in a transient error. -/
def failuresInRow (past : List Application) : Nat :=
  ((past.filter executed).rtakeWhile stumbles).length

variable {x : Executor} {a : Application} {past : List Application}

theorem stumbles_iff : a.stumbles = true ↔ ∃ e, a.result = .error e ∧ e.isTransient = true := by
  unfold stumbles
  split
  · rename_i done
    simp [done]
  · rename_i failed
    simp [failed]

theorem failuresInRow_of_skipped (h : a.executed = false) :
    failuresInRow (past ++ [a]) = failuresInRow past := by
  simp [failuresInRow, List.filter_append, h]

theorem failuresInRow_of_stumbles (executed : a.executed = true) (stumbles : a.stumbles = true) :
    failuresInRow (past ++ [a]) = failuresInRow past + 1 := by
  rw [failuresInRow, List.filter_append, List.filter_cons_of_pos executed, List.filter_nil,
    List.rtakeWhile_concat_pos _ _ _ stumbles, List.length_append,
    List.length_singleton, failuresInRow]

theorem failuresInRow_of_not_stumbles (executed : a.executed = true) (other : a.stumbles = false) :
    failuresInRow (past ++ [a]) = 0 := by
  rw [failuresInRow, List.filter_append, List.filter_cons_of_pos executed, List.filter_nil,
    List.rtakeWhile_concat_neg _ _ _ (by simp [other]), List.length_nil]

end Application

/-! ## What the counters say -/

/-- The counter of an executor that is not latched has counted its failures in a row, and it
has counted its ticks. -/
structure ExecutorState.Scheduled (s : ExecutorState) (past : List Application) : Prop where
  tick : s.tick = past.length
  failures : s.observeOnly = false →
    s.failures.toNat = min (Application.failuresInRow past) 0xffffffff

namespace Application

open Executor

variable {x : Executor} {a : Application} {past : List Application}

theorem Took.scheduled (h : a.Took x) (scheduled : a.before.Scheduled past) :
    a.after.Scheduled (past ++ [a]) where
  tick := by rw [h.tick, scheduled.tick, List.length_append, List.length_singleton]
  failures unlatched := by
    rcases h.pace with ⟨latched, observes⟩ | ⟨active, -, waits⟩ | ⟨active, -, executed, -⟩
    · rw [observes.after] at unlatched
      exact absurd (latched.symm.trans unlatched) (by decide)
    · rw [failuresInRow_of_skipped waits.not_executed, waits.after]
      exact scheduled.failures active
    · cases result : a.result with
      | ok outcome =>
        rw [failuresInRow_of_not_stumbles executed (by rw [stumbles, result]),
          (h.paced_of_ok executed result).1]
        rfl
      | error e =>
        cases transient : e.isTransient with
        | true =>
          rw [failuresInRow_of_stumbles executed (stumbles_iff.2 ⟨e, result, transient⟩),
            (h.paced_of_transient result transient).1, Number.saturatingSucc_toNat,
            scheduled.failures active]
          omega
        | false =>
          have latched := (h.paced_of_final result transient).2
          exact absurd (latched.symm.trans unlatched) (by decide)

end Application

namespace Executor

variable {σ : Type} [ClusterApi σ] [Journal σ] {x : Executor} {s : ExecutorState} {w : σ}
  {steps : List (WorldStep σ)} {a : Application} {e : ClusterError} {i : Nat}

theorem scheduled_of_undertakings (hi : (x.undertakings w steps)[i]? = some a) :
    a.after.Scheduled ((x.undertakings w steps).take (i + 1)) := by
  obtain ⟨st, step, made, scheduled⟩ := History.exists_related_after
    (R := fun (st : ExecutorState × σ) past => st.1.Scheduled past)
    ⟨rfl, fun _ => rfl⟩
    (fun st step _ scheduled silent => by rwa [proceed_silent silent])
    (fun st step _ a scheduled made => by
      obtain ⟨took, before, after⟩ := proceed_spec made
      rw [← after]
      exact took.scheduled (before ▸ scheduled)) hi
  obtain ⟨-, -, after⟩ := proceed_spec made
  rwa [after]

/-- No more ticks are ever to be skipped than the limit allows. -/
theorem Reachable.skipTicks_le (h : x.Reachable s) : s.skipTicks ≤ x.config.maxBackoffTicks := by
  refine h.invariant (P := fun s => s.skipTicks ≤ x.config.maxBackoffTicks)
    (UInt32.le_iff_toNat_le.2 (Nat.zero_le _)) fun a took bounded => ?_
  rcases took.pace with ⟨-, observes⟩ | ⟨-, waits, backs⟩ | ⟨-, ready, executed, -⟩
  · rwa [observes.after]
  · have less := Number.toNat_pred waits
    rw [backs.after, UInt32.le_iff_toNat_le]
    rw [UInt32.le_iff_toNat_le] at bounded
    show (a.before.skipTicks - 1).toNat ≤ _
    omega
  · cases result : a.result with
    | ok outcome =>
      rw [(took.paced_of_ok executed result).2.1, ← ready]
      exact bounded
    | error e =>
      cases transient : e.isTransient with
      | true =>
        rw [(took.paced_of_transient result transient).2.1, UInt32.le_iff_toNat_le,
          backoffTicks_toNat]
        exact Nat.min_le_right _ _
      | false =>
        rw [(took.paced_of_final result transient).1, ← ready]
        exact bounded

/-- The `k`-th transient error in a row among the verdicts that are carried out has the
executor skip `2 ^ (k - 1) - 1` ticks, or as many as the limit allows, whatever they bring;
on the tick after them it acts again. Nothing in this wraps around: the words are exact, and
the ticks are counted from the first. -/
theorem failures_retried (hi : (x.undertakings w steps)[i]? = some a) (failed : a.result = .error e)
    (transient : e.isTransient = true) :
    let k := Application.failuresInRow ((x.undertakings w steps).take (i + 1))
    let skipped := min (2 ^ min (k - 1) 31 - 1) x.config.maxBackoffTicks.toNat
    0 < k ∧ a.after.tick = i + 1 ∧
    (∀ j b, j < skipped → (x.undertakings w steps)[i + 1 + j]? = some b →
      ∃ remaining : UInt32, remaining.toNat = skipped - 1 - j ∧ b.BacksOff remaining) ∧
    (∀ b, (x.undertakings w steps)[i + 1 + skipped]? = some b → b.executed = true) ∧
    (∀ s, x.Reachable s → s.skipTicks ≤ x.config.maxBackoffTicks) ∧
    ∀ failures limit waiting, BackoffExact failures limit waiting := by
  intro k skipped
  have scheduled := scheduled_of_undertakings hi
  have positive : 0 < k := by
    have stumbles := Application.stumbles_iff.2 ⟨e, failed, transient⟩
    simp only [k, List.take_add_one, hi, Option.toList_some]
    rw [Application.failuresInRow_of_stumbles (Application.executed_of_failed failed) stumbles]
    exact Nat.succ_pos _
  obtain ⟨-, skips, unlatched⟩ := (took_of_undertakings hi).paced_of_transient failed transient
  -- the counter may be saturated, but not before the schedule is
  have saturated : min (min k 0xffffffff - 1) 31 = min (k - 1) 31 := by omega
  have due : a.after.skipTicks.toNat = skipped := by
    rw [skips, backoffTicks_eq, scheduled.failures unlatched, saturated]
  have ticks : a.after.tick = i + 1 := by
    have inside := (List.getElem?_eq_some_iff.1 hi).1
    rw [scheduled.tick, List.length_take]
    omega
  refine ⟨positive, ticks, fun j b hj hb => ?_, fun b hb => ?_,
    fun s reachable => reachable.skipTicks_le, backoffExact⟩
  · rw [← due] at hj ⊢
    exact (countdown_after hi unlatched hb).1 hj
  · exact (countdown_after hi unlatched hb).2 due.symm

/-- The next read of the node fails. -/
def failedRead : WorldStep MemoryCluster :=
  .change (MemoryCluster.happen (.failNext .get (.api "reset")))

/-- Three reads that fail in a row, with the tick that is skipped after the second, and what
comes after them. -/
def unreadSteps : List (WorldStep MemoryCluster) :=
  [failedRead, .apply (.trial .cordon), failedRead, .apply (.trial .cordon),
    .apply (.trial .none), failedRead, .apply (.trial .none), .apply (.trial .cordon),
    .apply (.trial .delete), .apply (.trial .none), .apply (.trial .cordon)]

/-- After the third of them three ticks are skipped, and the next is not. -/
theorem failures_retried_trial :
    ∃ first second third last,
      ((trial false).undertakings (MemoryCluster.withNodes ["node-a"]) unreadSteps).drop 4 =
        [first, second, third, last] ∧ first.BacksOff 2 ∧ second.BacksOff 1 ∧ third.BacksOff 0 ∧
      last.executed = true := by
  obtain ⟨-, -, waits, acts, -⟩ := failures_retried
    (rfl : ((trial false).undertakings (MemoryCluster.withNodes ["node-a"]) unreadSteps)[3]? =
      some _) rfl rfl
  have backs (j : Nat) (b : Application) (r : UInt32) (sooner : j < 3) (last : r.toNat = 2 - j)
      (hb : ((trial false).undertakings (MemoryCluster.withNodes ["node-a"]) unreadSteps)[4 + j]? =
        some b) :
      b.BacksOff r := by
    obtain ⟨r', same, backs⟩ := waits j b sooner hb
    cases UInt32.toNat_inj.1 (same.trans last.symm)
    exact backs
  exact ⟨_, _, _, _, rfl, backs 0 _ 2 (by decide) rfl rfl, backs 1 _ 1 (by decide) rfl rfl,
    backs 2 _ 0 (by decide) rfl rfl, acts _ rfl⟩

end Executor

end NodeWarden
