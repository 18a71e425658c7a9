import NodeWarden.Proofs.Executor.LabelCache
import NodeWarden.Proofs.Executor.Outcome
import NodeWarden.Proofs.Executor.Pace
import NodeWarden.Proofs.Executor.UnconfirmedCordon

/-!
# Verdicts that are applied twice

A verdict that asks for no deletion, and that was carried out, has nothing left to be done
(`Fulfilled`): its cordon is there, none is pending, and its labels are published. So if it
is applied once more right away, then no more than a read comes of it
(`repeated_apply_idle`), also if that read fails. The same holds where the first application
left the executor without authority, or without its node (`AtRest`).
-/

namespace NodeWarden

namespace Executor

variable {x : Executor} {v : Verdict} {s s' : ExecutorState} {xs : List Exchange}
  {action : NodeAction} {result : Except ClusterError ExecutionOutcome} {outcome : ExecutionOutcome}
  {n n' : Option NodeState}

/-- Nothing is left to be done for a verdict that asks for no deletion. -/
structure Fulfilled (x : Executor) (v : Verdict) (s : ExecutorState) (n : Option NodeState) :
    Prop where
  present : s.deleted = false
  unpending : s.pendingCordon = false
  cordoned : v.action = .cordon → NodeState.standing n = some true
  published : x.config.publishScore = true → s.published = some (x.labels v)

/-! ## The first application -/

/-- A cordon that succeeds leaves the node with one. -/
theorem Acted.cordoned_of_ok {b b' : Option Bool} (h : x.Acted .cordon b xs (.ok outcome) b') :
    b' = some true := by
  cases h with
  | seen => rfl
  | cordoned => rfl

theorem ActCourse.not_deleted (h : x.ActCourse s action xs result s') (asks : action ≠ .delete)
    (done : result = .ok outcome) : outcome ≠ .deleted := by
  cases h with
  | none =>
    cases done
    decide
  | unread => cases done
  | cordon _ went => exact (went.unpending_of_ok done).2
  | delete | defer => exact absurd rfl asks

/-- A verdict that asks for no deletion never comes to one. -/
theorem effectiveAction_ne_delete (asks : v.action ≠ .delete) (s : ExecutorState) :
    x.effectiveAction v.action s ≠ .delete :=
  fun delete => asks (effectiveAction_eq_delete delete).1

theorem VerdictCourse.not_deleted (h : x.VerdictCourse v s xs result s') (asks : v.action ≠ .delete)
    (done : result = .ok outcome) : outcome ≠ .deleted := by
  cases h with
  | failed => cases done
  | unlabelled went => exact went.not_deleted (effectiveAction_ne_delete asks s) done
  | @labelled _ _ _ _ _ published _ kept =>
    cases published with
    | error => cases done
    | ok =>
      cases done
      exact kept

theorem VerdictCourse.cordoned_of_ok (h : x.VerdictCourse v s xs result s')
    (wet : x.config.dryRun = false) (asks : v.action = .cordon) (done : result = .ok outcome)
    (effects : Exchange.Effects xs n n') :
    NodeState.standing n' = some true := by
  have cordon : x.effectiveAction v.action s = .cordon := by
    rw [asks]
    rfl
  cases h with
  | failed => cases done
  | unlabelled went =>
    rw [cordon] at went
    exact (went.acted wet effects).cordoned_of_ok
  | labelled went _ _ published =>
    rw [cordon] at went
    obtain ⟨m, acted, labelled⟩ := Exchange.Effects.append_iff.1 effects
    rw [labelled.standing fun e he => .inr (published.kind e he)]
    exact (went.acted wet acted).cordoned_of_ok

theorem VerdictCourse.fulfilled (h : x.VerdictCourse v s xs result s')
    (wet : x.config.dryRun = false) (asks : v.action ≠ .delete) (there : s.deleted = false)
    (done : result = .ok outcome) (effects : Exchange.Effects xs n n') : x.Fulfilled v s' n' := by
  have kept := h.not_deleted asks done
  constructor
  case present =>
    rcases h.deleted with same | ⟨gone, -⟩
    · exact same.trans there
    · exact absurd (Except.ok.inj (done.symm.trans gone)) kept
  case unpending =>
    exact Bool.eq_false_iff.2 fun pending => kept ((h.pending_of_ok done).1 pending).1
  case cordoned => exact fun cordon => h.cordoned_of_ok wet cordon done effects
  case published => exact fun wanted => h.published_of_ok wanted done kept

/-- A verdict that was carried out is fulfilled, unless the executor has deleted its node
and still finds none. -/
theorem ExecuteCourse.fulfilled (h : x.ExecuteCourse v s xs result s')
    (wet : x.config.dryRun = false) (asks : v.action ≠ .delete) (done : result = .ok outcome)
    (effects : Exchange.Effects xs n n') (truly : (∃ e ∈ xs, e.misses = true) → n = none) :
    x.Fulfilled v s' n' ∨ s'.deleted = true ∧ n' = none := by
  cases h with
  | present there went => exact .inl (went.fulfilled wet asks there done effects)
  | absent gone missed =>
    have absent := truly ⟨_, List.mem_singleton_self _, NodeScope.misses_of_accept missed _⟩
    exact .inr ⟨gone, (effects.of_reads (by simp)).trans absent⟩
  | unseen => cases done
  | returned _ _ went =>
    cases effects with
    | cons _ rest => exact .inl (went.fulfilled wet asks rfl done rest)

/-! ## The second application -/

/-- No calls are made but reads; and if a cordon is asked for, any success is that it is
there already. -/
structure Idles (action : NodeAction) (xs : List Exchange)
    (result : Except ClusterError ExecutionOutcome) : Prop where
  reads : ∀ e ∈ xs, e.kind = .get
  already : action = .cordon → ∀ outcome, result = .ok outcome → outcome = .alreadyCordoned

/-- A cordon that is there is not made again. -/
theorem ActCourse.idle_of_cordoned (h : x.ActCourse s action xs result s') (asks : action ≠ .delete)
    (cordoned : action = .cordon → NodeState.standing n = some true)
    (effects : Exchange.Effects xs n n') :
    Idles action xs result ∧ s'.published = s.published := by
  cases h with
  | none => exact ⟨⟨by simp, nofun⟩, rfl⟩
  | unread => exact ⟨⟨by simp, fun _ _ => nofun⟩, rfl⟩
  | cordon accepted went =>
    obtain ⟨rfl, -⟩ := x.scope.accept_eq_ok.1 accepted
    cases effects with
    | cons first =>
      have seen := (standing_of_read first).2.symm.trans (cordoned rfl)
      cases went with
      | already =>
        refine ⟨⟨by simp, fun _ _ done => ?_⟩, rfl⟩
        cases done
        rfl
      | rehearsed fresh | cordoned fresh | failed _ fresh =>
        exact absurd (fresh.symm.trans (Option.some.inj seen)) (by decide)
  | delete | defer => exact absurd rfl asks

/-- Labels that are published are not published again. -/
theorem PublishCourse.idle_of_published {answer : Except ClusterError Unit}
    (h : x.PublishCourse v s xs answer s') (known : s.published = some (x.labels v)) : xs = [] := by
  cases h with
  | unchanged => rfl
  | rehearsed unknown | published unknown | failed _ unknown => exact absurd known unknown

/-- Where no cordon is pending, a verdict that asks for no deletion amounts to what it asks for. -/
theorem effectiveAction_of_unpending (unpending : s.pendingCordon = false)
    (asks : action ≠ .delete) :
    x.effectiveAction action s = action := by
  cases action with
  | none => simp [effectiveAction, unpending]
  | cordon => rfl
  | delete => exact absurd rfl asks

theorem VerdictCourse.idle_of_fulfilled (h : x.VerdictCourse v s xs result s')
    (asks : v.action ≠ .delete) (fulfilled : x.Fulfilled v s n)
    (effects : Exchange.Effects xs n n') : Idles v.action xs result := by
  have action := effectiveAction_of_unpending (x := x) fulfilled.unpending asks
  cases h with
  | failed _ went =>
    rw [action] at went
    exact (went.idle_of_cordoned asks fulfilled.cordoned effects).1
  | unlabelled went =>
    rw [action] at went
    exact (went.idle_of_cordoned asks fulfilled.cordoned effects).1
  | @labelled _ _ _ _ _ answer went _ wanted published =>
    rw [action] at went
    obtain ⟨m, acted, -⟩ := Exchange.Effects.append_iff.1 effects
    obtain ⟨idles, labels⟩ := went.idle_of_cordoned asks fulfilled.cordoned acted
    cases published.idle_of_published (labels.trans (fulfilled.published wanted))
    refine ⟨by simpa using idles.reads, fun cordon _ done => ?_⟩
    cases answer with
    | error => cases done
    | ok =>
      cases done
      exact idles.already cordon _ rfl

/-- An executor that has deleted its node, where there is none, only looks for it. -/
theorem ExecuteCourse.idle_of_gone (h : x.ExecuteCourse v s xs result s') (gone : s.deleted = true)
    (effects : Exchange.Effects xs none n') : ∀ e ∈ xs, e.kind = .get := by
  cases h with
  | present there => exact absurd (gone.symm.trans there) (by decide)
  | absent => simp
  | unseen => simp
  | returned _ accepted =>
    obtain ⟨rfl, -⟩ := x.scope.accept_eq_ok.1 accepted
    cases effects with
    | cons first => cases first

/-! ## Both -/

/-- The executor will not act on a verdict that asks for no deletion: it has lost its
authority, or its node is gone, or nothing is left to be done. -/
inductive AtRest (x : Executor) (v : Verdict) (s : ExecutorState) (n : Option NodeState) :
    Prop where
  | latched : s.observeOnly = true → AtRest x v s n
  | gone : s.deleted = true → n = none → AtRest x v s n
  | fulfilled : s.skipTicks = 0 → x.Fulfilled v s n → AtRest x v s n

end Executor

namespace Application

open Executor

variable {x : Executor} {a : Application} {outcome : ExecutionOutcome} {n n' : Option NodeState}

theorem Took.atRest (h : a.Took x) (wet : x.config.dryRun = false)
    (asks : a.verdict.action ≠ .delete) (done : a.result = .ok outcome)
    (tried : ∀ k, outcome ≠ .backingOff k) (effects : Exchange.Effects a.exchanges n n')
    (truly : (∃ e ∈ a.exchanges, e.misses = true) → n = none) :
    x.AtRest a.verdict a.after n' := by
  rcases h.cases with ⟨latched, -, -, after⟩ | ⟨-, -, -, skipped, -⟩ | ⟨-, ready, s', went, after⟩
  · rw [after]
    exact .latched latched
  · exact absurd (Except.ok.inj (done.symm.trans skipped)) (tried _)
  · have paced : s'.skipTicks = 0 := (congrArg Pace.skipTicks went.pace).trans ready
    rw [after, done]
    rcases went.fulfilled wet asks done effects truly with fulfilled | ⟨gone, absent⟩
    · exact .fulfilled paced ⟨fulfilled.present, fulfilled.unpending, fulfilled.cordoned,
        fulfilled.published⟩
    · exact .gone gone absent

theorem Took.idle_of_atRest (h : a.Took x) (asks : a.verdict.action ≠ .delete)
    (rest : x.AtRest a.verdict a.before n) (effects : Exchange.Effects a.exchanges n n') :
    (∀ e ∈ a.exchanges, e.kind = .get) ∧
      (a.verdict.action = .cordon → n ≠ none → a.after.observeOnly = false →
        ∀ outcome, a.result = .ok outcome → outcome = .alreadyCordoned) := by
  rcases h.cases with ⟨latched, silent, -, after⟩ | ⟨active, waits, silent, -, -⟩ |
    ⟨active, -, s', went, -⟩
  · refine ⟨by simp [silent], fun _ _ active => ?_⟩
    rw [after] at active
    exact absurd (latched.symm.trans active) (by decide)
  · refine ⟨by simp [silent], fun _ there => ?_⟩
    cases rest with
    | latched latched => exact absurd (latched.symm.trans active) (by decide)
    | gone _ absent => exact absurd absent there
    | fulfilled ready =>
      rw [ready] at waits
      exact absurd waits (by decide)
  · cases rest with
    | latched latched => exact absurd (latched.symm.trans active) (by decide)
    | gone gone absent =>
      subst absent
      exact ⟨went.idle_of_gone gone effects, fun _ there => absurd rfl there⟩
    | fulfilled _ fulfilled =>
      have fulfilled : x.Fulfilled a.verdict { a.before with tick := a.before.tick + 1 } n :=
        ⟨fulfilled.present, fulfilled.unpending, fulfilled.cordoned, fulfilled.published⟩
      have idles := (went.of_present fulfilled.present).idle_of_fulfilled asks fulfilled effects
      exact ⟨idles.reads, fun cordon _ _ => idles.already cordon⟩

end Application

namespace Executor

variable {x : Executor} {v : Verdict} {s s₁ : ExecutorState} {c c₁ : MemoryCluster}
  {outcome : ExecutionOutcome}

/-- Out of a dry run, a verdict that asks for no deletion and has just been applied with
success changes nothing when it is applied again: no call is made but reads. If it asks for
a cordon, the node is there, and the executor is still in authority, then any success is
that the node is cordoned already. Of the reads that the first application makes, one that
finds no node must be right. -/
theorem repeated_apply_idle (wet : x.config.dryRun = false) (asks : v.action ≠ .delete)
    (first : x.apply v s c = (.ok outcome, s₁, c₁)) (tried : ∀ k, outcome ≠ .backingOff k)
    (genuine : x.Genuine (s, c) (.apply v)) :
    ∃ result s₂ c₂, x.apply v s₁ c₁ = (result, s₂, c₂) ∧ c₂.mutations = c₁.mutations ∧
      c₂.nodes = c₁.nodes ∧
      (v.action = .cordon → c₁.nodes[x.scope.node.name]? ≠ none → s₂.observeOnly = false →
        ∀ outcome', result = .ok outcome' → outcome' = .alreadyCordoned) := by
  obtain ⟨done, after, answered⟩ := application_of_apply first
  have rest := (Application.took x v s c).atRest wet asks done tried answered.effects genuine
  rw [after] at rest
  obtain ⟨c₂, again, answered'⟩ := apply_eq (x := x) (v := v) (s := s₁) (c := c₁)
  obtain ⟨reads, already⟩ := (Application.took x v s₁ c₁).idle_of_atRest asks rest answered'.effects
  obtain ⟨nodes, mutations⟩ := answered'.of_unmutating fun e he => by
    rw [reads e he]
    rfl
  exact ⟨_, _, c₂, again, mutations, nodes, already⟩

/-- A cordon with its labels, twice. -/
theorem repeated_apply_idle_trial :
    ∃ s c result s' c',
      (trial true).apply (.trial .cordon) .initial
      (MemoryCluster.withNodes ["node-a"]) = (.ok .cordoned, s, c) ∧
      (trial true).apply (.trial .cordon) s c = (result, s', c') ∧
      result.toOption = some .alreadyCordoned ∧
      c.mutations.length = 2 ∧ c'.mutations = c.mutations ∧ c'.nodes = c.nodes := by
  let st := ((trial true).apply (.trial .cordon) .initial (MemoryCluster.withNodes ["node-a"])).2
  have first : (trial true).apply (.trial .cordon) .initial (MemoryCluster.withNodes ["node-a"]) =
      (.ok .cordoned, st.1, st.2) := rfl
  obtain ⟨result, s', c', again, mutations, nodes, -⟩ :=
    repeated_apply_idle rfl (by decide) first nofun (by decide)
  have already :
      ((trial true).apply (.trial .cordon) st.1 st.2).1.toOption = some .alreadyCordoned := by
    decide +kernel
  rw [again] at already
  exact ⟨st.1, st.2, result, s', c', first, again, already, rfl, mutations, nodes⟩

end Executor

end NodeWarden
