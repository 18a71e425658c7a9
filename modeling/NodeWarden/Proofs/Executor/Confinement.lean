import NodeWarden.Proofs.Executor.Effect

/-!
# Confinement

However a verdict is applied, and whatever the cluster answers, an executor stays within narrow
bounds (`apply_confined`). It calls the cluster about its own node only, four times at most; every
other node stays what it was. Of its own node it changes nothing but the cordon, which it never
lifts, and its three labels, or it removes the node; and it changes nothing that its settings forbid
or that it has not just read.
-/

namespace NodeWarden

/-! ## Labels -/

/-- Of two tables of labels, the second is the first with the labels of a verdict set in it. -/
structure ScoreLabels.SetIn (l : ScoreLabels) (c : ExecutorConfig) (before after : Labels) :
    Prop where
  score : after[c.scoreKey]? = some l.score
  mode : after[c.modeKey]? = some l.mode
  condition : after[c.conditionKey]? = some l.condition
  others : ∀ k, k ≠ c.scoreKey → k ≠ c.modeKey → k ≠ c.conditionKey → after[k]? = before[k]?

/-- The three labels have different keys, whatever their domain. -/
theorem ExecutorConfig.keys_ne (c : ExecutorConfig) :
    c.scoreKey ≠ c.modeKey ∧ c.scoreKey ≠ c.conditionKey ∧ c.modeKey ≠ c.conditionKey := by
  simp [scoreKey, modeKey, conditionKey, String.ext_iff]

namespace ScoreLabels

theorem getElem?_entries (l : ScoreLabels) (c : ExecutorConfig) (k : String) :
    (l.entries c)[k]? =
      if c.conditionKey = k then some l.condition else if c.modeKey = k then some l.mode
      else if c.scoreKey = k then some l.score else none := by
  simp [entries, Std.ExtTreeMap.getElem?_insert]

theorem setIn_union (l : ScoreLabels) (c : ExecutorConfig) (m : Labels) :
    l.SetIn c m (m ∪ l.entries c) := by
  obtain ⟨scoreMode, scoreCondition, modeCondition⟩ := c.keys_ne
  constructor
  · simp [Std.ExtTreeMap.getElem?_union, getElem?_entries, scoreMode.symm, scoreCondition.symm]
  · simp [Std.ExtTreeMap.getElem?_union, getElem?_entries, modeCondition.symm]
  · simp [Std.ExtTreeMap.getElem?_union, getElem?_entries]
  · intro k score mode condition
    simp [Std.ExtTreeMap.getElem?_union, getElem?_entries, score.symm, mode.symm, condition.symm]

theorem SetIn.trans {l : ScoreLabels} {c : ExecutorConfig} {m m' m'' : Labels} (h : l.SetIn c m m')
    (h' : l.SetIn c m' m'') : l.SetIn c m m'' where
  score := h'.score
  mode := h'.mode
  condition := h'.condition
  others k score mode condition :=
    (h'.others k score mode condition).trans (h.others k score mode condition)

end ScoreLabels

namespace Executor

variable {x : Executor} {v : Verdict} {action : NodeAction} {xs : List Exchange}
  {result : Except ClusterError ExecutionOutcome}

/-! ## The own node -/

/-- A node as an executor may leave it: cordoned perhaps, and with the labels of the verdict set. -/
structure Keeps (x : Executor) (v : Verdict) (n n' : NodeState) : Prop where
  name : n'.name = n.name
  /-- A cordon is not lifted. -/
  unschedulable : n.unschedulable = true → n'.unschedulable = true
  labels : n'.labels = n.labels ∨ (x.labels v).SetIn x.config n.labels n'.labels

namespace Keeps

theorem refl (n : NodeState) : x.Keeps v n n := ⟨rfl, id, .inl rfl⟩

theorem cordon (n : NodeState) : x.Keeps v n n.cordon := ⟨rfl, fun _ => rfl, .inl rfl⟩

theorem label (n : NodeState) : x.Keeps v n (n.addLabels ((x.labels v).entries x.config)) :=
  ⟨rfl, id, .inr ((x.labels v).setIn_union x.config n.labels)⟩

theorem trans {n n' n'' : NodeState} (h : x.Keeps v n n') (h' : x.Keeps v n' n'') :
    x.Keeps v n n'' where
  name := h'.name.trans h.name
  unschedulable cordoned := h'.unschedulable (h.unschedulable cordoned)
  labels := by
    rcases h'.labels with same' | set'
    · rw [same']
      exact h.labels
    · rcases h.labels with same | set
      · rw [same] at set'
        exact .inr set'
      · -- what is set twice is set to the same values
        exact .inr (set.trans set')

end Keeps

/-- What an executor may make of its node, for a verdict: it keeps it, or removes it. It never makes
a node that is not there. -/
inductive MayMake (x : Executor) (v : Verdict) : Option NodeState → Option NodeState → Prop where
  | absent : MayMake x v none none
  | removed (n : NodeState) : MayMake x v (some n) none
  | kept {n n' : NodeState} : x.Keeps v n n' → MayMake x v (some n) (some n')

namespace MayMake

theorem refl (n : Option NodeState) : x.MayMake v n n := by
  cases n with
  | none => exact .absent
  | some n => exact .kept (.refl n)

theorem trans {n n' n'' : Option NodeState} (h : x.MayMake v n n') (h' : x.MayMake v n' n'') :
    x.MayMake v n n'' := by
  cases h with
  | absent => exact h'
  | removed n =>
    cases h' with
    | absent => exact .removed n
  | kept keeps =>
    cases h' with
    | removed => exact .removed _
    | kept keeps' => exact .kept (keeps.trans keeps')

end MayMake

/-! ## Calls that are permitted -/

/-- A call that an executor may make for a verdict: about its own node, and of a kind that
its settings allow. -/
structure Permits (x : Executor) (v : Verdict) (e : Exchange) : Prop where
  own : e.node = x.scope.node.name
  wet : e.kind.isMutation = true → x.config.dryRun = false
  delete : e.kind = .delete → x.config.allowDelete = true
  publish : e.kind = .updateLabels → x.config.publishScore = true
  labels : ∀ labels name answer, e = .change (.label labels) name answer →
    labels = (x.labels v).entries x.config

theorem permits_asked (answer : Except ClusterError NodeState) : x.Permits v (x.asked answer) where
  own := rfl
  wet := by intro mutation; cases mutation
  delete := by intro delete; cases delete
  publish := by intro publish; cases publish
  labels := by intro _ _ _ label; cases label

/-- What is permitted makes of the node what it may become. -/
theorem Permits.mayMake {e : Exchange} (h : x.Permits v e) {n n' : Option NodeState}
    (effect : e.Effect n n') : x.MayMake v n n' := by
  cases effect with
  | shown => exact .refl _
  | unread => exact .refl _
  | refused => exact .refl _
  | cordoned n => exact .kept (.cordon n)
  | deleted n => exact .removed n
  | labelled n =>
    rw [h.labels _ _ _ rfl]
    exact .kept (.label n)

theorem mayMake_of_effects {n n' : Option NodeState} (effects : Exchange.Effects xs n n')
    (permitted : ∀ e ∈ xs, x.Permits v e) : x.MayMake v n n' := by
  induction effects with
  | nil n => exact .refl n
  | cons first _ ih =>
    have made := (permitted _ List.mem_cons_self).mayMake first
    exact made.trans (ih fun e he => permitted e (List.mem_cons_of_mem _ he))

/-! ## The calls of each stage -/

/-- The calls for an action: none, a read, or a read and the change for which it is the reason. -/
inductive Deed (x : Executor) : List Exchange → Prop where
  | none : Deed x []
  | read (answer : Except ClusterError NodeState) : Deed x [x.asked answer]
  | cordon {read : NodeState} (answer : Except ClusterError Unit) :
      read.name = x.scope.node.name → read.unschedulable = false → x.config.dryRun = false →
      Deed x [x.asked (.ok read), x.told .cordon answer]
  | delete {read : NodeState} (answer : Except ClusterError Unit) :
      read.name = x.scope.node.name → read.unschedulable = true → x.config.dryRun = false →
      x.config.allowDelete = true → Deed x [x.asked (.ok read), x.told .delete answer]

/-- The calls for the labels of a verdict: none or one. -/
inductive Patch (x : Executor) (v : Verdict) : List Exchange → Prop where
  | none : Patch x v []
  | label (answer : Except ClusterError Unit) : x.config.dryRun = false →
      x.config.publishScore = true →
      Patch x v [x.told (.label ((x.labels v).entries x.config)) answer]

theorem Patch.kind (h : x.Patch v xs) : ∀ e ∈ xs, e.kind = .updateLabels := by
  cases h with
  | none => simp
  | label => simp [NodeChange.kind]

theorem CordonCourse.deed {answer : Except ClusterError NodeState} {read : NodeState}
    {s s' : ExecutorState} (h : x.CordonCourse read s xs result s')
    (accepted : x.scope.accept answer = .ok read) : x.Deed (x.asked answer :: xs) := by
  obtain ⟨rfl, own⟩ := x.scope.accept_eq_ok.1 accepted
  cases h with
  | already => exact .read _
  | rehearsed => exact .read _
  | cordoned fresh wet => exact .cordon _ own fresh wet
  | failed e fresh wet => exact .cordon _ own fresh wet

theorem ActCourse.deed {s s' : ExecutorState} (h : x.ActCourse s action xs result s')
    (allowed : action = .delete → x.config.allowDelete = true) : x.Deed xs := by
  cases h with
  | none => exact .none
  | unread => exact .read _
  | cordon accepted went => exact went.deed accepted
  | defer accepted _ went => exact went.deed accepted
  | @delete answer read _ _ _ accepted may went =>
    obtain ⟨rfl, own⟩ := x.scope.accept_eq_ok.1 accepted
    cases went with
    | rehearsed => exact .read _
    | deleted wet => exact .delete _ own (mayDelete_eq_true may wet).1 wet (allowed rfl)
    | failed e wet => exact .delete _ own (mayDelete_eq_true may wet).1 wet (allowed rfl)

theorem PublishCourse.patch {s s' : ExecutorState} {published : Except ClusterError Unit}
    (h : x.PublishCourse v s xs published s') (wanted : x.config.publishScore = true) :
    x.Patch v xs := by
  cases h with
  | unchanged => exact .none
  | rehearsed => exact .none
  | published _ wet => exact .label _ wet wanted
  | failed e _ wet => exact .label _ wet wanted

/-- The calls of an application: a look for the node, a deed, and a patch of labels. -/
inductive Script (x : Executor) (v : Verdict) : List Exchange → Prop where
  | mk {look deed patch : List Exchange} : x.Looked look → x.Deed deed → x.Patch v patch →
      Script x v (look ++ (deed ++ patch))

theorem Staged.script (h : Staged x v action xs result)
    (allowed : action = .delete → x.config.allowDelete = true) : x.Script v xs := by
  cases h with
  | observing => exact .mk .not .none .none
  | backingOff => exact .mk .not .none .none
  | absent answer => exact .mk (.once answer) .none .none
  | unseen answer => exact .mk (.once answer) .none .none
  | @failed look xs _ _ _ looked went =>
    have script : x.Script v (look ++ (xs ++ [])) := .mk looked (went.deed allowed) .none
    rwa [List.append_nil] at script
  | @unlabelled look xs _ _ _ looked went =>
    have script : x.Script v (look ++ (xs ++ [])) := .mk looked (went.deed allowed) .none
    rwa [List.append_nil] at script
  | labelled looked went _ wanted published =>
    exact .mk looked (went.deed allowed) (published.patch wanted)

/-- On a tick that is skipped no call is made. -/
theorem ApplyCourse.silent_of_skips {s s' : ExecutorState} {outcome : ExecutionOutcome}
    (h : x.ApplyCourse v s xs result s') (done : result = .ok outcome)
    (skips : outcome.skips = true) : xs = [] := by
  cases h with
  | observing => rfl
  | backingOff => rfl
  | executed _ _ went =>
    rw [went.not_skips done] at skips
    cases skips

/-! ## What the calls have in common -/

theorem Looked.permits (h : x.Looked xs) : ∀ e ∈ xs, x.Permits v e := by
  cases h with
  | not => simp
  | once answer => simpa using permits_asked answer

theorem Deed.permits (h : x.Deed xs) : ∀ e ∈ xs, x.Permits v e := by
  intro e he
  cases h with
  | none => cases he
  | read answer =>
    cases List.mem_singleton.1 he
    exact permits_asked answer
  | cordon answer _ _ wet =>
    rcases List.mem_cons.1 he with rfl | he
    · exact permits_asked _
    · cases List.mem_singleton.1 he
      exact ⟨rfl, fun _ => wet, nofun, nofun, nofun⟩
  | delete answer _ _ wet allowed =>
    rcases List.mem_cons.1 he with rfl | he
    · exact permits_asked _
    · cases List.mem_singleton.1 he
      exact ⟨rfl, fun _ => wet, fun _ => allowed, nofun, nofun⟩

theorem Patch.permits (h : x.Patch v xs) : ∀ e ∈ xs, x.Permits v e := by
  intro e he
  cases h with
  | none => cases he
  | label answer wet wanted =>
    cases List.mem_singleton.1 he
    refine ⟨rfl, fun _ => wet, nofun, fun _ => wanted, ?_⟩
    rintro _ _ _ ⟨⟩
    rfl

/-- A change of the node other than its labels is made right after the read that is its reason. -/
theorem Deed.guarded (h : x.Deed xs) {e : Exchange} (he : e ∈ xs) :
    e.kind = .get ∨ ∃ read, xs = [x.asked (.ok read), e] ∧ read.name = x.scope.node.name ∧
      (e.kind = .cordon ∧ read.unschedulable = false ∨
        e.kind = .delete ∧ read.unschedulable = true) := by
  cases h with
  | none => cases he
  | read answer =>
    cases List.mem_singleton.1 he
    exact .inl rfl
  | @cordon read answer own fresh =>
    rcases List.mem_cons.1 he with rfl | he
    · exact .inl rfl
    · cases List.mem_singleton.1 he
      exact .inr ⟨read, rfl, own, .inl ⟨rfl, fresh⟩⟩
  | @delete read answer own seen =>
    rcases List.mem_cons.1 he with rfl | he
    · exact .inl rfl
    · cases List.mem_singleton.1 he
      exact .inr ⟨read, rfl, own, .inr ⟨rfl, seen⟩⟩

namespace Script

theorem permits (h : x.Script v xs) : ∀ e ∈ xs, x.Permits v e := by
  intro e he
  cases h with
  | mk looked deed patch =>
    simp only [List.mem_append] at he
    rcases he with he | he | he
    · exact looked.permits e he
    · exact deed.permits e he
    · exact patch.permits e he

theorem length_le (h : x.Script v xs) : xs.length ≤ 4 := by
  cases h with
  | @mk look deed patch looked done patched =>
    have once : look.length ≤ 1 := by cases looked <;> simp
    have twice : deed.length ≤ 2 := by cases done <;> simp
    have last : patch.length ≤ 1 := by cases patched <;> simp
    simp only [List.length_append]
    omega

/-- Only a deed is to cordon or to delete, and only once. -/
theorem count_le (h : x.Script v xs) :
    Exchange.count .cordon xs + Exchange.count .delete xs ≤ 1 := by
  cases h with
  | @mk look deed patch looked done patched =>
    have lookCordon : Exchange.count .cordon look = 0 :=
      Exchange.count_eq_zero looked.kind (by decide)
    have lookDelete : Exchange.count .delete look = 0 :=
      Exchange.count_eq_zero looked.kind (by decide)
    have patchCordon : Exchange.count .cordon patch = 0 :=
      Exchange.count_eq_zero patched.kind (by decide)
    have patchDelete : Exchange.count .delete patch = 0 :=
      Exchange.count_eq_zero patched.kind (by decide)
    have once : Exchange.count .cordon deed + Exchange.count .delete deed ≤ 1 := by
      cases done with
      | none => simp
      | read => simp
      | cordon => simp [NodeChange.kind]
      | delete => simp [NodeChange.kind]
    simp only [Exchange.count_append]
    omega

theorem guarded (h : x.Script v xs) {e : Exchange} (he : e ∈ xs)
    (acts : e.kind = .cordon ∨ e.kind = .delete) :
    ∃ read, [x.asked (.ok read), e] <:+: xs ∧ read.name = x.scope.node.name ∧
      (e.kind = .cordon ∧ read.unschedulable = false ∨
        e.kind = .delete ∧ read.unschedulable = true) := by
  cases h with
  | @mk look deed patch looked done patched =>
    simp only [List.mem_append] at he
    -- neither a look nor a patch is to cordon or to delete, which leaves the deed
    rcases he with he | he | he
    · have read := looked.kind e he
      rcases acts with acts | acts <;> cases read.symm.trans acts
    · rcases done.guarded he with read | ⟨read, rfl, own, reason⟩
      · rcases acts with acts | acts <;> cases read.symm.trans acts
      · exact ⟨read, ⟨look, patch, by simp⟩, own, reason⟩
    · have label := patched.kind e he
      rcases acts with acts | acts <;> cases label.symm.trans acts

end Script

end Executor

/-! ## Applications -/

namespace Application

/-- The application is confined to the executor's node and to what its settings permit, as it leads
from one cluster to another. -/
structure Confined (x : Executor) (a : Application) (c c' : MemoryCluster) : Prop where
  /-- The cluster logs the calls of the application and no others. -/
  logged : ∃ rs, c'.calls = c.calls ++ rs ∧
    rs.map (fun r => (r.kind, r.node)) = a.exchanges.map fun e => (e.kind, e.node)
  own : ∀ e ∈ a.exchanges, e.node = x.scope.node.name
  few : a.exchanges.length ≤ 4
  others : ∀ name, name ≠ x.scope.node.name → c'.nodes[name]? = c.nodes[name]?
  node : x.MayMake a.verdict c.nodes[x.scope.node.name]? c'.nodes[x.scope.node.name]?
  dryRun : x.config.dryRun = true → ∀ e ∈ a.exchanges, e.kind.isMutation = false
  delete : x.config.allowDelete = false → ∀ e ∈ a.exchanges, e.kind ≠ .delete
  publish : x.config.publishScore = false → ∀ e ∈ a.exchanges, e.kind ≠ .updateLabels
  skipped : ∀ outcome, a.result = .ok outcome → outcome.skips = true → a.exchanges = []
  /-- At most one call is to cordon or to delete. -/
  acts : Exchange.count .cordon a.exchanges + Exchange.count .delete a.exchanges ≤ 1
  /-- A Cordon call comes right after a read that showed the own node schedulable, -/
  cordoned : ∀ e ∈ a.exchanges, e.kind = .cordon →
    ∃ read, [x.asked (.ok read), e] <:+: a.exchanges ∧
    read.name = x.scope.node.name ∧ read.unschedulable = false
  /-- and a Delete call right after one that showed it unschedulable. -/
  deleted : ∀ e ∈ a.exchanges, e.kind = .delete → ∃ read, [x.asked (.ok read), e] <:+: a.exchanges ∧
    read.name = x.scope.node.name ∧ read.unschedulable = true

end Application

namespace Executor

variable {x : Executor} {v : Verdict} {s : ExecutorState} {c : MemoryCluster}

theorem application_script : x.Script v (x.application v s c).exchanges :=
  application_course.staged.script fun delete => (effectiveAction_eq_delete delete).2

/-- However a verdict is applied, the application is confined. -/
theorem apply_confined (x : Executor) (v : Verdict) (s : ExecutorState) (c : MemoryCluster) :
    ∃ c', x.apply v s c = ((x.application v s c).result, (x.application v s c).after, c') ∧
      (x.application v s c).Confined x c c' := by
  obtain ⟨c', applied, answered⟩ := apply_eq (x := x) (v := v) (s := s) (c := c)
  have script := application_script (x := x) (v := v) (s := s) (c := c)
  have permits := script.permits
  refine ⟨c', applied, ?_⟩
  constructor
  case logged => exact answered.logged
  case own => exact fun e he => (permits e he).own
  case few => exact script.length_le
  case others => exact fun name foreign => answered.others foreign
  case node => exact mayMake_of_effects answered.effects permits
  case dryRun =>
    intro dry e he
    cases mutation : e.kind.isMutation with
    | false => rfl
    | true => exact absurd (dry.symm.trans ((permits e he).wet mutation)) (by decide)
  case delete =>
    intro forbidden e he delete
    exact absurd (forbidden.symm.trans ((permits e he).delete delete)) (by decide)
  case publish =>
    intro unwanted e he label
    exact absurd (unwanted.symm.trans ((permits e he).publish label)) (by decide)
  case skipped => exact fun _ done skips => application_course.silent_of_skips done skips
  case acts => exact script.count_le
  case cordoned =>
    intro e he cordon
    obtain ⟨read, before, own, ⟨-, fresh⟩ | ⟨delete, -⟩⟩ :=
      script.guarded he (.inl cordon)
    · exact ⟨read, before, own, fresh⟩
    · cases cordon.symm.trans delete
  case deleted =>
    intro e he delete
    obtain ⟨read, before, own, ⟨cordon, -⟩ | ⟨-, seen⟩⟩ :=
      script.guarded he (.inr delete)
    · cases delete.symm.trans cordon
    · exact ⟨read, before, own, seen⟩

end Executor

end NodeWarden
