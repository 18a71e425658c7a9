import NodeWarden.Proofs.Executor.LabelCache

/-!
# Changes that come late

A patch or a deletion that failed with a timeout or an error of the API may be carried out
nevertheless, after the executor has gone on. Then the labels on the node are no longer the
ones that were last published, which is what the executor compares with; so it leaves them
stale until it has others to publish (`late_patch_stales`). Short of that, a verdict that
succeeds leaves its labels on the node: if nothing was carried out late since the last patch
that succeeded, or if it patches them itself (`labels_carried`).
-/

namespace NodeWarden

/-- The change that may be carried out although the call has failed. -/
def Exchange.doubtful : Exchange → Option NodeChange
  | change .cordon _ _ => none
  | change c _ (.error (.api _)) => some c
  | change c _ (.error (.timeout _)) => some c
  | _ => none

namespace Executor

variable {x : Executor} {v : Verdict} {s s' : ExecutorState} {xs : List Exchange}
  {result : Except ClusterError ExecutionOutcome} {outcome : ExecutionOutcome}
  {answer : Except ClusterError Unit} {n n' : Option NodeState}

/-! ## Patches that succeed -/

/-- A patch that succeeds sets right whatever was wrong about the labels. -/
theorem PublishCourse.coherent_of_patched (h : x.PublishCourse v s xs answer s')
    (effects : Exchange.Effects xs n n') (patched : ∃ e ∈ xs, e.patched ≠ none) :
    x.Coherent s' n' := by
  obtain ⟨e, he, patched⟩ := patched
  cases h with
  | unchanged => cases he
  | rehearsed => cases he
  | failed =>
    cases List.mem_singleton.1 he
    exact absurd rfl patched
  | published =>
    cases Exchange.Effects.singleton_iff.1 effects with
    | labelled m =>
      rintro l ⟨⟩
      exact ⟨_, rfl, (x.labels v).in_union x.config m.labels⟩

/-- An action patches no labels. -/
theorem ActCourse.unpatched {action : NodeAction} (h : x.ActCourse s action xs result s') :
    ¬ ∃ e ∈ xs, e.patched ≠ Option.none := by
  rintro ⟨e, he, patched⟩
  obtain ⟨labels, some⟩ := Option.ne_none_iff_exists'.1 patched
  exact h.kind_ne e he (Exchange.kind_of_patched some)

theorem VerdictCourse.coherent_of_patched (h : x.VerdictCourse v s xs result s')
    (effects : Exchange.Effects xs n n') (patched : ∃ e ∈ xs, e.patched ≠ none) :
    x.Coherent s' n' := by
  cases h with
  | failed _ went => exact absurd patched went.unpatched
  | unlabelled went => exact absurd patched went.unpatched
  | labelled went _ _ published =>
    obtain ⟨m, -, labelled⟩ := Exchange.Effects.append_iff.1 effects
    obtain ⟨e, he, patched⟩ := patched
    rcases List.mem_append.1 he with he | he
    · exact absurd ⟨e, he, patched⟩ went.unpatched
    · exact published.coherent_of_patched labelled ⟨e, he, patched⟩

theorem ExecuteCourse.coherent_of_patched (h : x.ExecuteCourse v s xs result s')
    (effects : Exchange.Effects xs n n') (patched : ∃ e ∈ xs, e.patched ≠ none) :
    x.Coherent s' n' := by
  cases h with
  | present _ went => exact went.coherent_of_patched effects patched
  | absent => simp [asked, Exchange.patched] at patched
  | unseen => simp [asked, Exchange.patched] at patched
  | returned _ _ went =>
    cases effects with
    | cons _ rest =>
      exact went.coherent_of_patched rest (by simpa [asked, Exchange.patched] using patched)

/-- A verdict that calls for a patch and succeeds has patched the labels. -/
theorem VerdictCourse.patched_of_ok (h : x.VerdictCourse v s xs result s')
    (done : result = .ok outcome) (calls : ∃ e ∈ xs, e.kind = .updateLabels) :
    ∃ e ∈ xs, e.patched ≠ none := by
  obtain ⟨e, he, label⟩ := calls
  cases h with
  | failed => cases done
  | unlabelled went => exact absurd label (went.kind_ne e he)
  | labelled went _ _ published =>
    rcases List.mem_append.1 he with he | he
    · exact absurd label (went.kind_ne e he)
    · cases published with
      | unchanged => cases he
      | rehearsed => cases he
      | published => exact ⟨_, List.mem_append_right _ List.mem_cons_self, nofun⟩
      | failed => cases done

theorem ExecuteCourse.patched_of_ok (h : x.ExecuteCourse v s xs result s')
    (done : result = .ok outcome) (calls : ∃ e ∈ xs, e.kind = .updateLabels) :
    ∃ e ∈ xs, e.patched ≠ none := by
  cases h with
  | present _ went => exact went.patched_of_ok done calls
  | absent => simp at calls
  | unseen => cases done
  | returned _ _ went =>
    obtain ⟨e, he, patched⟩ := went.patched_of_ok done (by simpa using calls)
    exact ⟨e, List.mem_cons_of_mem _ he, patched⟩

end Executor

namespace Application

open Executor

variable {x : Executor} {a : Application} {c c' : MemoryCluster} {outcome : ExecutionOutcome}

/-- A patch of labels succeeded. -/
def Patches (a : Application) : Prop := ∃ e ∈ a.exchanges, e.patched ≠ none

instance : Decidable a.Patches := inferInstanceAs (Decidable (∃ e ∈ a.exchanges, e.patched ≠ none))

/-- After a patch what is taken for published is right, whatever it was before. -/
theorem Took.coherent_of_patches (h : a.Took x) (answered : c.Answered x.scope a.exchanges c')
    (patches : a.Patches) : x.Coherent a.after c'.nodes[x.scope.node.name]? := by
  rcases h.cases with ⟨-, silent, -⟩ | ⟨-, -, silent, -⟩ | ⟨-, -, s', went, after⟩
  · simp [Patches, silent] at patches
  · simp [Patches, silent] at patches
  · rw [after]
    exact (went.coherent_of_patched answered.effects patches).congr remember_published rfl

theorem Took.patches_of_ok (h : a.Took x) (done : a.result = .ok outcome)
    (carried : outcome.skips = false) (calls : ∃ e ∈ a.exchanges, e.kind = .updateLabels) :
    a.Patches := by
  obtain ⟨s', went, -⟩ := h.executed_of_ok done carried
  exact went.patched_of_ok done calls

end Application

/-! ## Runs in which changes come late -/

/-- What comes next in a run in which changes may come late. -/
inductive LateStep where
  | step (s : ExecutorStep)
  /-- The change of the last verdict that failed doubtfully is carried out. -/
  | late

/-- Where such a run is. -/
structure LateRun where
  executor : ExecutorState
  cluster : MemoryCluster
  /-- The change that may still be carried out: one of the last verdict, which failed. -/
  doubtful : Option NodeChange
  /-- Whether a change was carried out late, since the last patch that succeeded. -/
  stale : Bool

namespace LateRun

/-- The start of a run. -/
def start (c : MemoryCluster) : LateRun := ⟨.initial, c, none, false⟩

end LateRun

namespace Executor

variable {x : Executor} {c w w' : MemoryCluster} {s s' : ExecutorState} {v : Verdict}
  {steps : List LateStep} {result : Except ClusterError ExecutionOutcome}
  {doubtful : Option NodeChange} {stale : Bool} {outcome : ExecutionOutcome}

/-- The run after a change of the own node is carried out late. It has no effect on a node
that is not there any more. -/
def carryLate (x : Executor) (change : NodeChange) (r : LateRun) : LateRun :=
  match r.cluster.effect change x.scope.node.name with
  | (.ok (), c) => { r with cluster := c, doubtful := none, stale := true }
  | (.error _, _) => { r with doubtful := none }

/-- One step of a run in which changes may come late. -/
def endure (x : Executor) (r : LateRun) : LateStep → LateRun × Option Application
  | .step (.apply v) =>
    let a := x.application v r.executor r.cluster
    let after := (x.apply v r.executor r.cluster).2
    (⟨after.1, after.2, a.exchanges.findSome? Exchange.doubtful, r.stale && !decide a.Patches⟩,
      some a)
  | .step (.event e) => ({ r with cluster := r.cluster.happen e }, none)
  | .step (.wait ms) => ({ r with cluster := r.cluster.pass ms }, none)
  | .late => ((r.doubtful.map fun change => x.carryLate change r).getD r, none)

/-- Besides the changes that come late, nobody interferes with the labels of the own node. -/
def GenuineLate (x : Executor) (r : LateRun) : LateStep → Prop
  | .step s => x.Genuine (r.executor, r.cluster) s
  | .late => True

instance (r : LateRun) : (step : LateStep) → Decidable (x.GenuineLate r step)
  | .step s => inferInstanceAs (Decidable (x.Genuine (r.executor, r.cluster) s))
  | .late => .isTrue trivial

/-- What is taken for published is on the node, unless a change came late since the last patch. -/
theorem coherent_of_genuine (wet : x.config.dryRun = false)
    (genuine : History.Throughout x.endure x.GenuineLate (.start c) steps)
    (reached : History.final x.endure (.start c) steps = ⟨s, w, doubtful, false⟩) :
    x.Coherent s w.nodes[x.scope.node.name]? := by
  have coherent := genuine.invariant
    (R := fun r => r.stale = false → x.Coherent r.executor r.cluster.nodes[x.scope.node.name]?)
    (fun _ => .of_unpublished rfl) (fun r step coherent genuine => ?_)
  · rw [reached] at coherent
    exact coherent rfl
  · intro fresh
    obtain ⟨s, c, doubtful, stale⟩ := r
    cases step with
    | late =>
      cases doubtful with
      | none => exact coherent fresh
      | some change =>
        simp only [endure, Option.map_some, Option.getD_some, carryLate] at fresh ⊢
        split at fresh
        · cases fresh
        · exact coherent fresh
    | step step =>
      cases step with
      | apply v =>
        have made : (x.advance (s, c) (.apply v)).2 = some (x.application v s c) := rfl
        obtain ⟨took, -, after, answered⟩ := advance_spec made
        show x.Coherent (x.advance (s, c) (.apply v)).1.1 _
        rw [← after]
        by_cases patches : (x.application v s c).Patches
        · exact took.coherent_of_patches answered patches
        · have before : stale = false := by simpa [endure, patches] using fresh
          exact took.coherent wet answered (coherent before)
      | event e => exact (coherent fresh).happen genuine
      | wait ms => exact coherent fresh

/-- A verdict that succeeds and does not delete the node leaves it with the labels of that
verdict, unless there is no node; provided that no change came late since the last patch
that succeeded, or that the verdict itself patches the labels. -/
theorem labels_carried (wet : x.config.dryRun = false) (wanted : x.config.publishScore = true)
    (genuine : History.Throughout x.endure x.GenuineLate (.start c) (steps ++ [.step (.apply v)]))
    (reached : History.final x.endure (.start c) steps = ⟨s, w, doubtful, stale⟩)
    (applied : x.apply v s w = (.ok outcome, s', w'))
    (fresh : stale = false ∨ ∃ e ∈ (x.application v s w).exchanges, e.kind = .updateLabels)
    (carried : outcome.skips = false) (kept : outcome ≠ .deleted) :
    (outcome = .noAction ∧ w'.nodes[x.scope.node.name]? = none) ∨
      ∃ n, w'.nodes[x.scope.node.name]? = some n ∧ x.Tells v n.labels := by
  obtain ⟨earlier, last⟩ := History.throughout_append.1 genuine
  rw [reached] at last
  obtain ⟨done, rfl, answered⟩ := application_of_apply applied
  have took := Application.took x v s w
  refine took.carries wanted answered last.1 ?_ done carried kept
  rcases fresh with rfl | calls
  · exact took.coherent wet answered (coherent_of_genuine wet earlier reached)
  · exact took.coherent_of_patches answered (took.patches_of_ok done carried calls)

/-- After a patch that failed, one that succeeds: it sets the labels right although the
first came late. -/
theorem labels_carried_trial :
    ∃ s c s' c', History.final (trial true).endure (.start (.withNodes ["node-a"]))
        [.step (.event (.failNext .updateLabels (.api "reset"))),
          .step (.apply (.trial .cordon)), .late] =
        ⟨s, c, none, true⟩ ∧
      (trial true).apply (.trial .none) s c = (.ok .noAction, s', c') ∧
      ∃ n, c'.nodes["node-a"]? = some n ∧ (trial true).Tells (.trial .none) n.labels := by
  refine ⟨_, _, _, _, rfl, rfl, ?_⟩
  have carried := @labels_carried (trial true) (.withNodes ["node-a"]) _ _ _ _ (.trial .none)
    [.step (.event (.failNext .updateLabels (.api "reset"))),
      .step (.apply (.trial .cordon)), .late]
    none true .noAction rfl rfl (by decide) rfl rfl (.inr (by decide)) rfl (by decide)
  exact carried.resolve_left fun absent => absurd absent.2 (by decide)

/-- Labels are published, and a patch with others fails and comes late. -/
def lateTrial : List LateStep :=
  [.step (.apply (.trial .none)), .step (.event (.failNext .updateLabels (.api "reset"))),
    .step (.apply { Verdict.trial .none with condition := .lowMemory }), .late]

/-- Then a verdict with the labels that were published first patches nothing, and the node
keeps those of the late patch. -/
theorem late_patch_stales :
    ¬ ∀ (x : Executor) (c w w' : MemoryCluster) (s s' : ExecutorState) (steps : List LateStep)
        (v : Verdict) (doubtful : Option NodeChange) (stale : Bool) (outcome : ExecutionOutcome),
      x.config.dryRun = false → x.config.publishScore = true →
      History.Throughout x.endure x.GenuineLate (.start c) (steps ++ [.step (.apply v)]) →
      History.final x.endure (.start c) steps = ⟨s, w, doubtful, stale⟩ →
      x.apply v s w = (.ok outcome, s', w') → outcome.skips = false → outcome ≠ .deleted →
      (outcome = .noAction ∧ w'.nodes[x.scope.node.name]? = none) ∨
        ∃ n, w'.nodes[x.scope.node.name]? = some n ∧ x.Tells v n.labels := by
  intro law
  have kept : ((trial true).apply (.trial .none)
        (History.final (trial true).endure (.start (.withNodes ["node-a"])) lateTrial).executor
        (History.final (trial true).endure (.start (.withNodes ["node-a"]))
          lateTrial).cluster).1.toOption = some .noAction ∧
      (((trial true).apply (.trial .none)
        (History.final (trial true).endure (.start (.withNodes ["node-a"])) lateTrial).executor
        (History.final (trial true).endure (.start (.withNodes ["node-a"]))
          lateTrial).cluster).2.2.nodes[
          (trial true).scope.node.name]?.map fun n => n.labels[(trial true).config.conditionKey]?) =
        some (some "low-memory") := by
    decide +kernel
  have genuine : History.Throughout (trial true).endure (trial true).GenuineLate
      (.start (.withNodes ["node-a"])) (lateTrial ++ [.step (.apply (.trial .none))]) := by
    decide +kernel
  generalize reached :
    History.final (trial true).endure (.start (.withNodes ["node-a"])) lateTrial = run
    at kept
  obtain ⟨s, w, doubtful, stale⟩ := run
  rcases applied : (trial true).apply (.trial .none) s w with ⟨_ | outcome, s', w'⟩
  · rw [applied] at kept
    cases kept.1
  · rw [applied] at kept
    obtain ⟨⟨⟩, label⟩ := kept
    dsimp only at label
    rcases law _ _ _ _ _ _ _ _ _ _ _ rfl rfl genuine reached applied rfl (by decide) with
      ⟨-, absent⟩ | ⟨n, found, labelled⟩
    · rw [absent] at label
      cases label
    · rw [found] at label
      have clash : some "low-memory" = some "exhausted" :=
        (Option.some.inj label).symm.trans labelled.condition
      exact absurd clash (by decide)

end Executor

end NodeWarden
