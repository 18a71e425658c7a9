import NodeWarden.Proofs.Executor.Effect
import NodeWarden.Proofs.Executor.Run

/-!
# Outcomes

What an executor reports of a verdict is what has become of its node (`apply_truthful`). Out
of a dry run every action has its effect on the node or fails (`Acted`); looking for the
node before it and labelling the node after it do not change how the node stands, so that
the result speaks for the action alone. Only where the labels of a node fail after its
cordon does an error stand for a node that has changed.
-/

namespace NodeWarden

/-- How a node stands: whether it is there, and if it is, whether it is unschedulable. -/
def NodeState.standing (n : Option NodeState) : Option Bool := n.map (·.unschedulable)

/-- Whether the tick was skipped or had nothing to do. -/
def ExecutionOutcome.idles : ExecutionOutcome → Bool
  | .noAction => true
  | outcome => outcome.skips

namespace Exchange

/-- Neither reads nor labels change how a node stands. -/
theorem Effects.standing {xs : List Exchange} {n n' : Option NodeState} (h : Effects xs n n')
    (aside : ∀ e ∈ xs, e.kind = .get ∨ e.kind = .updateLabels) :
    NodeState.standing n' = NodeState.standing n := by
  induction h with
  | nil => rfl
  | cons first _ ih =>
    rw [ih fun e he => aside e (List.mem_cons_of_mem _ he)]
    have kind := aside _ List.mem_cons_self
    cases first with
    | shown => rfl
    | unread => rfl
    | refused => rfl
    | labelled => rfl
    | cordoned => rcases kind with kind | kind <;> cases kind
    | deleted => rcases kind with kind | kind <;> cases kind

end Exchange

namespace Executor

variable {x : Executor} {v : Verdict} {action : NodeAction} {s s' : ExecutorState}
  {xs : List Exchange} {result : Except ClusterError ExecutionOutcome} {n n' : Option NodeState}
  {b b' : Option Bool}

/-! ## Actions -/

/-- What carrying out an action comes to out of a dry run: how the node stands before, the
calls that are made, the result, and how the node stands after. -/
inductive Acted (x : Executor) : NodeAction → Option Bool → List Exchange →
    Except ClusterError ExecutionOutcome → Option Bool → Prop where
  | idle (b : Option Bool) : Acted x .none b [] (.ok .noAction) b
  | unread (action : NodeAction) (b : Option Bool) (answer : Except ClusterError NodeState)
      (e : ClusterError) : Acted x action b [x.asked answer] (.error e) b
  | refused (action : NodeAction) (b : Option Bool) (answer : Except ClusterError NodeState)
      (c : NodeChange) (e : ClusterError) :
      Acted x action b [x.asked answer, x.told c (.error e)] (.error e) b
  | seen (answer : Except ClusterError NodeState) :
      Acted x .cordon (some true) [x.asked answer] (.ok .alreadyCordoned) (some true)
  | cordoned (answer : Except ClusterError NodeState) :
      Acted x .cordon (some false) [x.asked answer, x.told .cordon (.ok ())]
        (.ok .cordoned) (some true)
  | deferredSeen (answer : Except ClusterError NodeState) :
      Acted x .delete (some true) [x.asked answer] (.ok .deleteDeferred) (some true)
  | deferred (answer : Except ClusterError NodeState) :
      Acted x .delete (some false) [x.asked answer, x.told .cordon (.ok ())] (.ok .deleteDeferred)
        (some true)
  | deleted (answer : Except ClusterError NodeState) :
      Acted x .delete (some true) [x.asked answer, x.told .delete (.ok ())] (.ok .deleted) none

/-- A cordon that stands in for a deletion is reported as one that waits. -/
theorem Acted.defer (h : x.Acted .cordon b xs result b') :
    x.Acted .delete b xs (result.map fun _ => .deleteDeferred) b' := by
  cases h with
  | unread => exact .unread _ _ _ _
  | refused => exact .refused _ _ _ _ _
  | seen => exact .deferredSeen _
  | cordoned => exact .deferred _

/-- What a read shows of the node is how it stands. -/
theorem standing_of_read {read : NodeState} (h : (x.asked (.ok read)).Effect n n') :
    n' = n ∧ NodeState.standing n = some read.unschedulable := by
  cases h with
  | @shown _ _ m shown =>
    refine ⟨rfl, ?_⟩
    rw [shown]
    rfl

theorem CordonCourse.acted {answer : Except ClusterError NodeState} {read : NodeState}
    (h : x.CordonCourse read s xs result s') (accepted : x.scope.accept answer = .ok read)
    (wet : x.config.dryRun = false) (effects : Exchange.Effects (x.asked answer :: xs) n n') :
    x.Acted .cordon (NodeState.standing n) (x.asked answer :: xs) result
      (NodeState.standing n') := by
  obtain ⟨rfl, -⟩ := x.scope.accept_eq_ok.1 accepted
  cases effects with
  | cons first rest =>
    obtain ⟨rfl, before⟩ := standing_of_read first
    cases h with
    | already seen =>
      cases rest with
      | nil =>
        rw [before, seen]
        exact .seen _
    | rehearsed _ dry => exact absurd (dry.symm.trans wet) (by decide)
    | cordoned fresh =>
      cases Exchange.Effects.singleton_iff.1 rest
      rw [before, fresh]
      exact .cordoned _
    | failed e =>
      cases Exchange.Effects.singleton_iff.1 rest
      exact .refused _ _ _ _ _

theorem DeleteCourse.acted {read : NodeState} (h : x.DeleteCourse s xs result s')
    (seen : read.unschedulable = true) (wet : x.config.dryRun = false)
    (effects : Exchange.Effects (x.asked (.ok read) :: xs) n n') :
    x.Acted .delete (NodeState.standing n) (x.asked (.ok read) :: xs) result
      (NodeState.standing n') := by
  cases effects with
  | cons first rest =>
    obtain ⟨rfl, before⟩ := standing_of_read first
    cases h with
    | rehearsed dry => exact absurd (dry.symm.trans wet) (by decide)
    | deleted =>
      cases Exchange.Effects.singleton_iff.1 rest
      rw [before, seen]
      exact .deleted _
    | failed e =>
      cases Exchange.Effects.singleton_iff.1 rest
      exact .refused _ _ _ _ _

/-- Every action has its effect on the node, or fails. -/
theorem ActCourse.acted (h : x.ActCourse s action xs result s') (wet : x.config.dryRun = false)
    (effects : Exchange.Effects xs n n') :
    x.Acted action (NodeState.standing n) xs result (NodeState.standing n') := by
  cases h with
  | none =>
    cases effects with
    | nil => exact .idle _
  | unread e =>
    rw [effects.of_reads (by simp)]
    exact .unread _ _ _ _
  | cordon accepted went => exact went.acted accepted wet effects
  | defer accepted _ went => exact (went.acted accepted wet effects).defer
  | delete accepted may went =>
    obtain ⟨rfl, -⟩ := x.scope.accept_eq_ok.1 accepted
    exact went.acted (mayDelete_eq_true may wet).1 wet effects

/-! ## Results -/

/-- A result tells what has become of a node: of the action, the calls that were made, and
how the node stood before and stands after. -/
structure Truthful (x : Executor) (action : NodeAction) (xs : List Exchange)
    (result : Except ClusterError ExecutionOutcome) (before after : Option Bool) : Prop where
  cordoned : result = .ok .cordoned ↔ (∃ outcome, result = .ok outcome) ∧ before = some false ∧
    after = some true ∧ Exchange.count .cordon xs = 1 ∧ action = .cordon
  alreadyCordoned : result = .ok .alreadyCordoned →
    before = some true ∧ after = some true ∧ Exchange.count .cordon xs = 0
  deleteDeferred : result = .ok .deleteDeferred →
    after = some true ∧ Exchange.count .delete xs = 0
  deleted : result = .ok .deleted → before = some true ∧ after = none ∧
    Exchange.count .delete xs = 1 ∧ Exchange.count .updateLabels xs = 0
  unchanged : ∀ outcome, result = .ok outcome → outcome.idles = true → after = before
  /-- An error leaves the node there, -/
  kept : ∀ e, result = .error e → after.isSome = before.isSome
  /-- and if it has changed, then by a cordon whose labels failed. -/
  changed : ∀ e, result = .error e → after ≠ before → ∃ ys labels,
    xs = ys ++ [x.told .cordon (.ok ()), x.told (.label labels) (.error e)]

namespace Truthful

/-- Of a tick without effect it is true to say so. -/
theorem of_idle {outcome : ExecutionOutcome} (h : outcome.idles = true) (b : Option Bool) :
    x.Truthful action xs (.ok outcome) b b where
  cordoned := by
    constructor
    · rintro ⟨⟩
      cases h
    · rintro ⟨-, before, after, -⟩
      cases before.symm.trans after
  alreadyCordoned := by
    rintro ⟨⟩
    cases h
  deleteDeferred := by
    rintro ⟨⟩
    cases h
  deleted := by
    rintro ⟨⟩
    cases h
  unchanged := fun _ _ _ => rfl
  kept := nofun
  changed := nofun

/-- An error is true if the node is still there, and is as it was unless its labels failed. -/
theorem of_error {e : ClusterError} (kept : b'.isSome = b.isSome)
    (changed : b' ≠ b → ∃ ys labels,
      xs = ys ++ [x.told .cordon (.ok ()), x.told (.label labels) (.error e)]) :
    x.Truthful action xs (.error e) b b' where
  cordoned := ⟨nofun, fun ⟨⟨_, done⟩, _⟩ => nomatch done⟩
  alreadyCordoned := nofun
  deleteDeferred := nofun
  deleted := nofun
  unchanged := nofun
  kept := fun _ _ => kept
  changed := by
    rintro _ ⟨⟩ differ
    exact changed differ

theorem of_failure (e : ClusterError) (b : Option Bool) : x.Truthful action xs (.error e) b b :=
  of_error rfl fun differ => absurd rfl differ

end Truthful

/-- The result of an action is true of it together with what precedes and follows it. -/
theorem Acted.truthful {look patch : List Exchange} {outcome : ExecutionOutcome}
    (h : x.Acted action b xs (.ok outcome) b') (reads : ∀ e ∈ look, e.kind = .get)
    (labels : ∀ e ∈ patch, e.kind = .updateLabels) (gone : outcome = .deleted → patch = []) :
    x.Truthful action (look ++ (xs ++ patch)) (.ok outcome) b b' := by
  -- what is around the action is of other kinds than the calls that are counted
  have read (kind : CallKind) (acts : CallKind.get ≠ kind) : Exchange.count kind look = 0 :=
    Exchange.count_eq_zero reads acts
  have label (kind : CallKind) (acts : CallKind.updateLabels ≠ kind) :
      Exchange.count kind patch = 0 :=
    Exchange.count_eq_zero labels acts
  cases h with
  | idle => exact .of_idle rfl b
  | seen =>
    constructor
    case unchanged => rintro _ ⟨⟩ ⟨⟩
    all_goals simp [read, label]
  | cordoned =>
    constructor
    case unchanged => rintro _ ⟨⟩ ⟨⟩
    all_goals simp [read, label, NodeChange.kind]
  | deferredSeen =>
    constructor
    case unchanged => rintro _ ⟨⟩ ⟨⟩
    all_goals simp [read, label]
  | deferred =>
    constructor
    case unchanged => rintro _ ⟨⟩ ⟨⟩
    all_goals simp [read, label, NodeChange.kind]
  | deleted =>
    rw [gone rfl]
    constructor
    case unchanged => rintro _ ⟨⟩ ⟨⟩
    all_goals simp [read, NodeChange.kind]

/-- An action that succeeded and whose labels fail makes for an error that is true. -/
theorem Acted.unlabelled {outcome : ExecutionOutcome} (h : x.Acted action b xs (.ok outcome) b')
    (there : outcome ≠ .deleted) (look : List Exchange) (labels : Labels) (e : ClusterError) :
    x.Truthful action (look ++ (xs ++ [x.told (.label labels) (.error e)])) (.error e) b b' := by
  cases h with
  | idle => exact .of_failure e b
  | seen => exact .of_failure e _
  | deferredSeen => exact .of_failure e _
  | cordoned answer => exact .of_error rfl fun _ => ⟨look ++ [x.asked answer], labels, by simp⟩
  | deferred answer => exact .of_error rfl fun _ => ⟨look ++ [x.asked answer], labels, by simp⟩
  | deleted => exact absurd rfl there

theorem Acted.eq_of_error {e : ClusterError} (h : x.Acted action b xs (.error e) b') : b' = b := by
  cases h with
  | unread => rfl
  | refused => rfl

theorem Staged.truthful (h : Staged x v action xs result) (wet : x.config.dryRun = false)
    (effects : Exchange.Effects xs n n') :
    x.Truthful action xs result (NodeState.standing n) (NodeState.standing n') := by
  cases h with
  | observing =>
    rw [effects.of_reads (by simp)]
    exact .of_idle rfl _
  | backingOff =>
    rw [effects.of_reads (by simp)]
    exact .of_idle rfl _
  | absent =>
    rw [effects.of_reads (by simp)]
    exact .of_idle rfl _
  | unseen =>
    rw [effects.of_reads (by simp)]
    exact .of_failure _ _
  | failed e looked went =>
    obtain ⟨m, before, acted⟩ := Exchange.Effects.append_iff.1 effects
    rw [before.of_reads looked.kind] at acted
    rw [(went.acted wet acted).eq_of_error]
    exact .of_failure e _
  | unlabelled looked went =>
    obtain ⟨m, before, acted⟩ := Exchange.Effects.append_iff.1 effects
    rw [before.of_reads looked.kind] at acted
    simpa using (went.acted wet acted).truthful looked.kind (by simp) (fun _ => rfl)
  | @labelled look xs ys _ _ _ outcome _ looked went there _ published =>
    obtain ⟨m, before, rest⟩ := Exchange.Effects.append_iff.1 effects
    obtain ⟨m', acted, labelled⟩ := Exchange.Effects.append_iff.1 rest
    rw [before.of_reads looked.kind] at acted
    have acted := went.acted wet acted
    -- the node stands after its labels as it stood before them
    rw [← labelled.standing fun e he => .inr (published.kind e he)] at acted
    have labels := published.kind
    cases published with
    | unchanged => exact acted.truthful looked.kind labels fun gone => absurd gone there
    | rehearsed => exact acted.truthful looked.kind labels fun gone => absurd gone there
    | published => exact acted.truthful looked.kind labels fun gone => absurd gone there
    | failed e => exact acted.unlabelled there look _ e

/-- Out of a dry run, the result of a verdict is true of the calls that the cluster logs and
of the node before and after. A deletion comes out as a cordon only where deletions are not
allowed. -/
theorem apply_truthful (x : Executor) (v : Verdict) (s : ExecutorState) (c : MemoryCluster)
    (wet : x.config.dryRun = false) :
    ∃ c' rs, x.apply v s c = ((x.application v s c).result, (x.application v s c).after, c') ∧
      c'.calls = c.calls ++ rs ∧
      rs.map (fun r => (r.kind, r.node)) =
        (x.application v s c).exchanges.map (fun e => (e.kind, e.node)) ∧
      x.Truthful (x.effectiveAction v.action s) (x.application v s c).exchanges
        (x.application v s c).result (NodeState.standing c.nodes[x.scope.node.name]?)
        (NodeState.standing c'.nodes[x.scope.node.name]?) ∧
      ((x.application v s c).result = .ok .cordoned → v.action = .delete →
        x.config.allowDelete = false) := by
  obtain ⟨c', applied, answered⟩ := apply_eq (x := x) (v := v) (s := s) (c := c)
  obtain ⟨rs, calls, logged⟩ := answered.logged
  have truthful := application_course.staged.truthful wet answered.effects
  refine ⟨c', rs, applied, calls, logged, truthful, fun done delete => ?_⟩
  obtain ⟨-, -, -, -, cordon⟩ := truthful.cordoned.1 done
  rw [delete, effectiveAction] at cordon
  cases allowed : x.config.allowDelete with
  | false => rfl
  | true => simp [allowed] at cordon

/-- A cordon whose labels fail. -/
theorem apply_truthful_trial :
    (trial true).config.dryRun = false ∧ ∃ ys labels,
      ((trial true).application (.trial .cordon) .initial
        ((MemoryCluster.withNodes ["node-a"]).happen
          (.failNext .updateLabels (.api "busy")))).exchanges =
        ys ++ [(trial true).told .cordon (.ok ()),
          (trial true).told (.label labels) (.error (.api "busy"))] := by
  obtain ⟨c', _, applied, -, -, truthful, -⟩ :=
    apply_truthful (trial true) (.trial .cordon) .initial
    ((MemoryCluster.withNodes ["node-a"]).happen (.failNext .updateLabels (.api "busy"))) rfl
  have after := congrArg (fun r => NodeState.standing r.2.2.nodes["node-a"]?) applied
  refine ⟨rfl, truthful.changed _ rfl fun same => ?_⟩
  -- the node was schedulable, and is not any more
  have cordoned : some true = some false := after.trans same
  cases cordoned

end Executor

end NodeWarden
