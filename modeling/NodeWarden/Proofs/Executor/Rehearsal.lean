import Mathlib.Data.List.Forall2
import NodeWarden.Proofs.Executor.LabelCache
import NodeWarden.Proofs.Executor.Undisturbed

/-!
# Rehearsals

An executor in a dry run only reads, so its node stays what it was (`nodes_of_dryRun`). Yet
it foretells what the same executor would do in earnest (`rehearsal_foretells`): what a
verdict comes to depends on the node only in whether a cordon is new, as long as the
executor remembers a cordon only of a node that has one (`Abreast`). So from one verdict to
the next both remember the same, until both report the deletion of the node.
-/

namespace NodeWarden

/-- The outcome, but for whether a cordon was new. -/
def ExecutionOutcome.gist : ExecutionOutcome → ExecutionOutcome
  | .alreadyCordoned => .cordoned
  | outcome => outcome

/-- How the node stands matters only to whether a cordon is new. -/
theorem NodeAction.gist_dueOutcome (action : NodeAction) (ripe cordoned cordoned' : Bool) :
    (action.dueOutcome ripe (some cordoned)).gist =
      (action.dueOutcome ripe (some cordoned')).gist := by
  cases action with
  | none => rfl
  | cordon => cases cordoned <;> cases cordoned' <;> rfl
  | delete => rfl

theorem NodeAction.removes_of_dueOutcome {action : NodeAction} {ripe cordoned : Bool}
    (kept : action.dueOutcome ripe (some cordoned) ≠ .deleted) : action.removes ripe = false := by
  cases action with
  | none | cordon => rfl
  | delete =>
    cases ripe with
    | false => rfl
    | true => exact absurd rfl kept

theorem ExecutionOutcome.deleted_iff_of_gist {o o' : ExecutionOutcome} (h : o'.gist = o.gist) :
    o' = .deleted ↔ o = .deleted := by
  cases o <;> cases o' <;> simp [gist] at h ⊢

namespace Executor

variable {x : Executor} {v : Verdict} {s s' : ExecutorState} {xs : List Exchange}
  {action : NodeAction} {result : Except ClusterError ExecutionOutcome} {outcome : ExecutionOutcome}
  {n : NodeState} {n' : Option NodeState}

/-- The executor, in a dry run or in earnest. -/
def inDryRun (x : Executor) (dry : Bool) : Executor :=
  { x with config := { x.config with dryRun := dry } }

/-! ## Verdicts in a dry run -/

theorem CordonCourse.of_dryRun (h : x.CordonCourse n s xs result s')
    (dry : x.config.dryRun = true) :
    result = .ok (if n.unschedulable then .alreadyCordoned else .cordoned) ∧
      s' = s.confirmCordon := by
  cases h with
  | already seen => exact ⟨by rw [seen]; rfl, rfl⟩
  | rehearsed fresh => exact ⟨by rw [fresh]; rfl, rfl⟩
  | cordoned _ wet => exact absurd (dry.symm.trans wet) (by decide)
  | failed _ _ wet => exact absurd (dry.symm.trans wet) (by decide)

/-- An action that is only rehearsed comes to what is due, and is remembered as if it were
carried out, unless it deletes the node. -/
theorem ActCourse.of_dryRun (h : x.ActCourse s action xs result s') (dry : x.config.dryRun = true)
    (own : n.name = x.scope.node.name) (served : Exchange.Served xs (some n) n') :
    result = .ok (action.dueOutcome (x.mayDelete n s) (some n.unschedulable)) ∧
      (result ≠ .ok .deleted → s' = s.heed action (x.mayDelete n s)) := by
  have accepts : x.scope.accept (.ok n) = .ok n := x.scope.accept_eq_ok.2 ⟨rfl, own⟩
  cases h with
  | none => exact ⟨rfl, fun _ => rfl⟩
  | unread e _ refused =>
    cases served with
    | found => cases accepts.symm.trans refused
  | cordon accepted went =>
    cases served with
    | found =>
      cases accepts.symm.trans accepted
      obtain ⟨done, rfl⟩ := went.of_dryRun dry
      exact ⟨done, fun _ => rfl⟩
  | delete accepted may went =>
    cases served with
    | found =>
      cases accepts.symm.trans accepted
      rw [may]
      cases went with
      | rehearsed => exact ⟨rfl, fun kept => absurd rfl kept⟩
      | deleted wet => exact absurd (dry.symm.trans wet) (by decide)
      | failed _ wet => exact absurd (dry.symm.trans wet) (by decide)
  | defer accepted mayNot went =>
    cases served with
    | found =>
      cases accepts.symm.trans accepted
      obtain ⟨rfl, rfl⟩ := went.of_dryRun dry
      rw [mayNot]
      exact ⟨rfl, fun _ => rfl⟩

theorem VerdictCourse.of_dryRun (h : x.VerdictCourse v s xs result s')
    (dry : x.config.dryRun = true) (own : n.name = x.scope.node.name)
    (served : Exchange.Served xs (some n) n') :
    let action := x.effectiveAction v.action s
    result = .ok (action.dueOutcome (x.mayDelete n s) (some n.unschedulable)) ∧
      (result ≠ .ok .deleted →
        s' = { s.heed action (x.mayDelete n s) with published := s'.published }) := by
  cases h with
  | failed e went => cases (went.of_dryRun dry own served).1
  | unlabelled went =>
    obtain ⟨done, state⟩ := went.of_dryRun dry own served
    exact ⟨done, fun kept => by rw [state kept]⟩
  | labelled went _ _ published =>
    obtain ⟨m, acted, -⟩ := served.append
    obtain ⟨done, state⟩ := went.of_dryRun dry own acted
    have labels := published.state
    cases published with
    | unchanged => exact ⟨done, fun kept => by rw [state kept]⟩
    | rehearsed => exact ⟨done, fun kept => by rw [labels, state kept]⟩
    | published _ wet => exact absurd (dry.symm.trans wet) (by decide)
    | failed _ _ wet => exact absurd (dry.symm.trans wet) (by decide)

/-- A verdict on a node that is there, and stays there, comes to what is due, in a dry run
or in earnest. -/
theorem VerdictCourse.due (h : x.VerdictCourse v s xs result s') (own : n.name = x.scope.node.name)
    (served : Exchange.Served xs (some n) n') :
    let action := x.effectiveAction v.action s
    result = .ok (action.dueOutcome (x.mayDelete n s) (some n.unschedulable)) ∧
      (result ≠ .ok .deleted →
        s' = { s.heed action (x.mayDelete n s) with published := s'.published }) := by
  cases dry : x.config.dryRun with
  | true => exact h.of_dryRun dry own served
  | false =>
    obtain ⟨done, -, state⟩ := h.served_effective dry own served
    exact ⟨done, fun _ => state⟩

/-- What is taken for published after a verdict that succeeds and leaves the node there. -/
theorem VerdictCourse.published_eq (h : x.VerdictCourse v s xs result s')
    (done : result = .ok outcome) (kept : outcome ≠ .deleted) :
    s'.published = if x.config.publishScore then some (x.labels v) else s.published := by
  cases wanted : x.config.publishScore with
  | true => exact h.published_of_ok wanted done kept
  | false =>
    cases h with
    | failed => cases done
    | unlabelled went =>
      rcases went.published with ⟨gone, -⟩ | ⟨same, -⟩
      · exact absurd (Except.ok.inj (done.symm.trans gone)) kept
      · exact same
    | labelled _ _ wanted' => exact absurd (wanted.symm.trans wanted') (by decide)

/-- What an executor remembers of a verdict that it has carried out at once, on a node that
it then leaves. -/
def heedVerdict (x : Executor) (v : Verdict) (s : ExecutorState) (ripe : Bool) : ExecutorState :=
  { s.heed (x.effectiveAction v.action s) ripe with
    published := if x.config.publishScore then some (x.labels v) else s.published
    failures := 0 }

end Executor

namespace Application

open Executor

variable {x : Executor} {a : Application} {n : NodeState} {n' : Option NodeState}

/-- An application to a node that is there comes to what is due, in a dry run or in earnest. -/
theorem Took.due (h : a.Took x) (calm : a.before.Calm) (there : a.before.deleted = false)
    (own : n.name = x.scope.node.name) (served : Exchange.Served a.exchanges (some n) n') :
    let s := a.before.next
    a.result = .ok ((x.effectiveAction a.verdict.action s).dueOutcome (x.mayDelete n s)
      (some n.unschedulable)) ∧
      (a.result ≠ .ok .deleted → a.after = x.heedVerdict a.verdict s (x.mayDelete n s)) := by
  obtain ⟨s', went, after⟩ := h.carried_out calm.active calm.ready
  have went := went.of_present there
  obtain ⟨done, state⟩ := went.due own served
  refine ⟨done, fun kept => ?_⟩
  have labels := went.published_eq done fun gone => kept (done.trans (congrArg _ gone))
  rw [after, done, state kept, labels]
  rfl

/-- The applications up to the first one that reports a deletion, that one included. -/
def upToDeletion : List Application → List Application
  | [] => []
  | a :: rest => if a.result = .ok .deleted then [a] else a :: upToDeletion rest

/-- The second application is the first one, rehearsed. -/
structure Foretold (a b : Application) : Prop where
  verdict : b.verdict = a.verdict
  /-- Both executors remember the same before, also whether a cordon is pending, -/
  before : b.before = a.before
  /-- report the same, but for whether a cordon was new, -/
  outcomes : ∃ outcome outcome', a.result = .ok outcome ∧ b.result = .ok outcome' ∧
    outcome'.gist = outcome.gist
  /-- and remember the same after, unless both report the deletion of the node. -/
  after : a.result ≠ .ok .deleted → b.after = a.after

theorem Foretold.deleted_iff {a b : Application} (h : a.Foretold b) :
    b.result = .ok .deleted ↔ a.result = .ok .deleted := by
  obtain ⟨outcome, outcome', done, done', gist⟩ := h.outcomes
  rw [done, done', Except.ok.injEq, Except.ok.injEq, ExecutionOutcome.deleted_iff_of_gist gist]

end Application

namespace Executor

variable {x : Executor} {v : Verdict} {s : ExecutorState} {c d : MemoryCluster} {n : NodeState}

/-! ## Applications in steady clusters -/

theorem heedVerdict_calm (calm : s.Calm) (v : Verdict) (ripe : Bool) :
    (x.heedVerdict v s ripe).Calm :=
  (calm.heed _ ripe).remember _ _

theorem heedVerdict_deleted {ripe : Bool}
    (kept : (x.effectiveAction v.action s).removes ripe = false) :
    (x.heedVerdict v s ripe).deleted = s.deleted := by
  show (s.heed _ ripe).deleted = _
  rw [ExecutorState.heed_deleted, kept, Bool.or_false]

/-- A cordon is remembered after a verdict only if its action asks for it. -/
theorem aware_of_heedVerdict {ripe : Bool} (seen : (x.heedVerdict v s ripe).cordonObservedAt ≠ none)
    (cordoned : Bool) : (cordoned || (x.effectiveAction v.action s).isCordonOrMore) = true := by
  cases action : x.effectiveAction v.action s with
  | none =>
    simp only [heedVerdict, action, ExecutorState.heed] at seen
    exact absurd rfl seen
  | cordon => simp [NodeAction.isCordonOrMore]
  | delete => simp [NodeAction.isCordonOrMore]

/-- What is due is done, in a dry run or in earnest. -/
theorem application_due (calm : s.Calm) (present : s.deleted = false) (steady : c.Steady x.scope)
    (there : c.nodes[x.scope.node.name]? = some n) :
    (x.application v s c).result =
        .ok ((x.effectiveAction v.action s.next).dueOutcome (x.mayDelete n s.next)
          (some n.unschedulable)) ∧
      ((x.application v s c).result ≠ .ok .deleted →
        (x.application v s c).after = x.heedVerdict v s.next (x.mayDelete n s.next)) := by
  have served := (steady.served (application_answered (x := x) (v := v) (s := s))).2
  rw [there] at served
  exact (Application.took x v s c).due calm present (steady.name n there) served

/-- In earnest, a node that is left there has the cordon afterwards if it had it before, or
if the action asks for it. -/
theorem application_left (wet : x.config.dryRun = false) (calm : s.Calm)
    (present : s.deleted = false) (steady : c.Steady x.scope)
    (there : c.nodes[x.scope.node.name]? = some n)
    (kept : (x.application v s c).result ≠ .ok .deleted) :
    ∃ m, (x.apply v s c).2.2.nodes[x.scope.node.name]? = some m ∧
      m.unschedulable =
      (n.unschedulable || (x.effectiveAction v.action s.next).isCordonOrMore) := by
  obtain ⟨s', went, -⟩ := (Application.took x v s c).carried_out calm.active calm.ready
  have served := (steady.served (application_answered (x := x) (v := v) (s := s))).2
  rw [there] at served
  obtain ⟨done, stands, -⟩ :=
    (went.of_present present).served_effective wet (steady.name n there) served
  have keeps := NodeAction.removes_of_dueOutcome fun gone => kept (done.trans (congrArg _ gone))
  rw [NodeAction.dueStanding_of_not_removes keeps] at stands
  exact Option.map_eq_some_iff.1 stands

/-- In a dry run no node changes. -/
theorem nodes_of_dryRun (dry : x.config.dryRun = true) : (x.apply v s c).2.2.nodes = c.nodes := by
  refine (application_answered.of_unmutating fun e he => Bool.eq_false_iff.2 fun mutation => ?_).1
  exact absurd (dry.symm.trans ((application_script.permits e he).wet mutation)) (by decide)

/-! ## In earnest and in a dry run -/

/-- An executor in earnest, in one cluster, has come as far as the same one in a dry run, in
another: nothing has disturbed them, and both clusters have the node. If a cordon is
remembered, the node of the first has it. -/
structure Abreast (x : Executor) (s : ExecutorState) (c d : MemoryCluster) : Prop where
  calm : s.Calm
  present : s.deleted = false
  steady : c.Steady x.scope
  steady' : d.Steady x.scope
  there : ∃ n, c.nodes[x.scope.node.name]? = some n ∧
    (s.cordonObservedAt ≠ none → n.unschedulable = true)
  there' : ∃ n, d.nodes[x.scope.node.name]? = some n

/-- The one may delete its node when the other may. -/
theorem mayDelete_inDryRun {m : NodeState}
    (aware : s.cordonObservedAt ≠ none → n.unschedulable = true) :
    (x.inDryRun true).mayDelete m s.next = (x.inDryRun false).mayDelete n s.next := by
  cases seen : s.cordonObservedAt with
  | none => simp [mayDelete, ExecutorState.observedEarlier, ExecutorState.next, seen]
  | some t => simp [mayDelete, inDryRun, aware (by simp [seen])]

/-- What the one does, the other foretells. -/
theorem Abreast.foretold (h : x.Abreast s c d) (v : Verdict) :
    ((x.inDryRun false).application v s c).Foretold ((x.inDryRun true).application v s d) := by
  obtain ⟨n, there, aware⟩ := h.there
  obtain ⟨m, there'⟩ := h.there'
  obtain ⟨done, after⟩ :=
    application_due (x := x.inDryRun false) (v := v) h.calm h.present h.steady there
  obtain ⟨done', after'⟩ :=
    application_due (x := x.inDryRun true) (v := v) h.calm h.present h.steady' there'
  rw [mayDelete_inDryRun aware] at done' after'
  have gist := (x.effectiveAction v.action s.next).gist_dueOutcome
    ((x.inDryRun false).mayDelete n s.next) m.unschedulable n.unschedulable
  refine ⟨rfl, rfl, ⟨_, _, done, done', gist⟩, fun kept => ?_⟩
  have kept' : ((x.inDryRun true).application v s d).result ≠ .ok .deleted := by
    intro gone
    have gone := (ExecutionOutcome.deleted_iff_of_gist gist).1
      (Except.ok.inj (done'.symm.trans gone))
    exact kept (done.trans (congrArg _ gone))
  exact (after' kept').trans (after kept).symm

/-- If the node is left there, they go on abreast. -/
theorem Abreast.next (h : x.Abreast s c d) (v : Verdict)
    (kept : ((x.inDryRun false).application v s c).result ≠ .ok .deleted) :
    x.Abreast ((x.inDryRun false).application v s c).after ((x.inDryRun false).apply v s c).2.2
      ((x.inDryRun true).apply v s d).2.2 := by
  obtain ⟨n, there, -⟩ := h.there
  obtain ⟨m, there'⟩ := h.there'
  obtain ⟨done, after⟩ :=
    application_due (x := x.inDryRun false) (v := v) h.calm h.present h.steady there
  obtain ⟨n', left, cordoned⟩ :=
    application_left (x := x.inDryRun false) rfl h.calm h.present h.steady there kept
  have keeps := NodeAction.removes_of_dueOutcome fun gone => kept (done.trans (congrArg _ gone))
  rw [after kept]
  constructor
  case calm => exact heedVerdict_calm h.calm.next v _
  case present => exact (heedVerdict_deleted keeps).trans h.present
  case steady => exact (h.steady.served (application_answered (x := x.inDryRun false))).1
  case steady' => exact (h.steady'.served (application_answered (x := x.inDryRun true))).1
  case there => exact ⟨n', left, fun seen => cordoned.trans (aware_of_heedVerdict seen _)⟩
  case there' => exact ⟨m, by rw [nodes_of_dryRun rfl, there']⟩

/-! ## Runs -/

theorem nodes_of_dryRuns (dry : x.config.dryRun = true) (st : ExecutorState × MemoryCluster)
    (vs : List Verdict) :
    (History.final x.advance st (vs.map .apply)).2.nodes = st.2.nodes := by
  induction vs generalizing st with
  | nil => rfl
  | cons v rest ih => exact (ih _).trans (nodes_of_dryRun dry)

/-- The results of a run in earnest are those of the same run in a dry run, up to the first
deletion. -/
theorem foretold_of_abreast (h : x.Abreast s c d) (vs : List Verdict) :
    List.Forall₂ Application.Foretold
      (Application.upToDeletion (History.records (x.inDryRun false).advance (s, c) (vs.map .apply)))
      (Application.upToDeletion
        (History.records (x.inDryRun true).advance (s, d) (vs.map .apply))) := by
  induction vs generalizing s c d with
  | nil => exact .nil
  | cons v rest ih =>
    have foretold := h.foretold v
    rw [List.map_cons, History.records_cons_of_some rfl, History.records_cons_of_some rfl,
      Application.upToDeletion, Application.upToDeletion]
    by_cases deleted : ((x.inDryRun false).application v s c).result = .ok .deleted
    · rw [if_pos deleted, if_pos (foretold.deleted_iff.2 deleted)]
      exact .cons foretold .nil
    · rw [if_neg deleted, if_neg fun gone => deleted (foretold.deleted_iff.1 gone)]
      refine .cons foretold ?_
      rw [advance_apply, advance_apply, foretold.after deleted]
      exact ih (h.next v deleted)

/-- A new executor in a dry run foretells what the same executor would do in earnest in such
a cluster: up to the first deletion that either reports they report the same, but for
whether a cordon was new, and remember the same throughout. The nodes of the cluster in
which the dry run takes place stay what they were. -/
theorem rehearsal_foretells (steady : c.Steady x.scope) (there : c.nodes[x.scope.node.name]? ≠ none)
    (vs : List Verdict) :
    List.Forall₂ Application.Foretold
        (Application.upToDeletion ((x.inDryRun false).applications c (vs.map .apply)))
        (Application.upToDeletion ((x.inDryRun true).applications c (vs.map .apply))) ∧
      (History.final (x.inDryRun true).advance (.initial, c) (vs.map .apply)).2.nodes =
      c.nodes := by
  obtain ⟨n, found⟩ := Option.ne_none_iff_exists'.1 there
  have start : x.Abreast .initial c c :=
    ⟨⟨rfl, rfl, rfl, nofun⟩, rfl, steady, steady,
      ⟨n, found, fun seen => absurd rfl seen⟩, ⟨n, found⟩⟩
  exact ⟨foretold_of_abreast start vs, nodes_of_dryRuns rfl (.initial, c) vs⟩

/-- Three verdicts to delete: the first is deferred, and the second comes to the deletion. -/
theorem rehearsal_foretells_trial :
    ∃ first last first' last',
      Application.upToDeletion (((trial true).inDryRun false).applications (.withNodes ["node-a"])
        ([.trial .delete, .trial .delete, .trial .delete].map .apply)) = [first, last] ∧
      Application.upToDeletion (((trial true).inDryRun true).applications (.withNodes ["node-a"])
        ([.trial .delete, .trial .delete, .trial .delete].map .apply)) = [first', last'] ∧
      first.result = .ok .deleteDeferred ∧ last.result = .ok .deleted ∧
      first.Foretold first' ∧ last.Foretold last' := by
  obtain ⟨foretold, -⟩ := rehearsal_foretells (x := trial true) (.new _) (by decide)
    [.trial .delete, .trial .delete, .trial .delete]
  cases foretold with
  | cons first rest =>
    cases rest with
    | cons last rest =>
      cases rest
      exact ⟨_, _, _, _, rfl, rfl, rfl, rfl, first, last⟩

end Executor

end NodeWarden
