import NodeWarden.Proofs.Executor.Confinement
import NodeWarden.Proofs.Executor.DeletionMemory
import NodeWarden.Proofs.Executor.PendingCordon
import NodeWarden.Proofs.Executor.Run

/-!
# The cache of labels

An executor remembers the labels that it published last, and publishes others only. That is
right as long as the memory is: what it takes for published is on its node
(`Executor.Coherent`). Applications keep it right (`Took.coherent`), and so does everything
that happens to the cluster, if the node registers only while it is absent
(`Coherent.happen`). So a verdict that succeeds leaves its labels on the node, and they tell
its score, mode and condition (`Took.carries`).
-/

namespace NodeWarden

/-! ## Labels of a node -/

/-- The labels of a node, if it is there. -/
def NodeState.labelling (n : Option NodeState) : Option Labels := n.map (·.labels)

/-- Among a node's labels are those of a verdict. -/
structure ScoreLabels.In (l : ScoreLabels) (c : ExecutorConfig) (m : Labels) : Prop where
  score : m[c.scoreKey]? = some l.score
  mode : m[c.modeKey]? = some l.mode
  condition : m[c.conditionKey]? = some l.condition

namespace ScoreLabels

theorem in_union (l : ScoreLabels) (c : ExecutorConfig) (m : Labels) : l.In c (m ∪ l.entries c) :=
  have set := l.setIn_union c m
  ⟨set.score, set.mode, set.condition⟩

/-- A patch has no other labels than the ones it is made of. -/
theorem in_entries_iff {c : ExecutorConfig} {l l' : ScoreLabels} :
    l.In c (l'.entries c) ↔ l = l' := by
  obtain ⟨scoreMode, scoreCondition, modeCondition⟩ := c.keys_ne
  constructor
  · rintro ⟨score, mode, condition⟩
    simp [getElem?_entries, scoreMode.symm, scoreCondition.symm] at score
    simp [getElem?_entries, modeCondition.symm] at mode
    simp [getElem?_entries] at condition
    cases l
    cases l'
    simp_all
  · rintro rfl
    refine ⟨?_, ?_, ?_⟩
    · simp [getElem?_entries, scoreMode.symm, scoreCondition.symm]
    · simp [getElem?_entries, modeCondition.symm]
    · simp [getElem?_entries]

end ScoreLabels

namespace Exchange

/-- The labels that the call has set on the node. -/
def patched : Exchange → Option Labels
  | change (.label labels) _ (.ok ()) => some labels
  | _ => none

/-- Whether the call is a read that found no node. -/
def misses : Exchange → Bool
  | read _ (.error (.notFound _)) => true
  | _ => false

theorem kind_of_patched {e : Exchange} {labels : Labels} (h : e.patched = some labels) :
    e.kind = .updateLabels := by
  unfold patched at h
  split at h
  · rfl
  · cases h

/-- Calls that neither set labels nor delete the node leave its labels alone. -/
theorem Effects.labelling {xs : List Exchange} {n n' : Option NodeState} (h : Effects xs n n')
    (aside : ∀ e ∈ xs, e.kind ≠ .updateLabels) (kept : ∀ e ∈ xs, e.deleted = false) :
    NodeState.labelling n' = NodeState.labelling n := by
  induction h with
  | nil => rfl
  | cons first _ ih =>
    rw [ih (fun e he => aside e (List.mem_cons_of_mem _ he))
      fun e he => kept e (List.mem_cons_of_mem _ he)]
    have unpatched := aside _ List.mem_cons_self
    have undeleted := kept _ List.mem_cons_self
    cases first with
    | shown => rfl
    | unread => rfl
    | refused => rfl
    | cordoned => rfl
    | labelled => exact absurd rfl unpatched
    | deleted => cases undeleted

end Exchange

theorem NodeScope.misses_of_accept {scope : NodeScope} {answer : Except ClusterError NodeState}
    {detail : String} (h : scope.accept answer = .error (.notFound detail)) (name : String) :
    (Exchange.read name answer).misses = true := by
  cases answer with
  | ok n =>
    simp only [accept] at h
    split at h <;> cases h
  | error e =>
    cases h
    rfl

namespace Executor

variable {x : Executor} {v : Verdict} {s s' : ExecutorState} {xs : List Exchange}
  {action : NodeAction} {result : Except ClusterError ExecutionOutcome} {outcome : ExecutionOutcome}
  {answer : Except ClusterError Unit} {n n' : Option NodeState} {known : Option Labels}

/-! ## What labels tell -/

/-- Labels tell a verdict: its score in six decimal places, the mode, and its condition. -/
structure Tells (x : Executor) (v : Verdict) (m : Labels) : Prop where
  score : m[x.config.scoreKey]? = some (Number.fixed 6 v.score)
  mode : m[x.config.modeKey]? = some x.mode.name
  condition : m[x.config.conditionKey]? = some v.condition.label

theorem tells_iff {m : Labels} : x.Tells v m ↔ (x.labels v).In x.config m :=
  ⟨fun h => ⟨h.score, h.mode, h.condition⟩, fun h => ⟨h.score, h.mode, h.condition⟩⟩

/-! ## What is taken for published -/

/-- The labels that an executor takes for published are on its node. -/
def Coherent (x : Executor) (s : ExecutorState) (n : Option NodeState) : Prop :=
  ∀ l, s.published = some l → ∃ m, NodeState.labelling n = some m ∧ l.In x.config m

theorem Coherent.of_unpublished (h : s.published = none) : x.Coherent s n := by
  intro l some
  cases h.symm.trans some

theorem Coherent.congr (h : x.Coherent s n) (published : s'.published = s.published)
    (labelling : NodeState.labelling n' = NodeState.labelling n) : x.Coherent s' n' := by
  intro l some
  rw [labelling]
  exact h l (published.symm.trans some)

/-- Nothing is taken for published on a node that is not there. -/
theorem Coherent.unpublished (h : x.Coherent s none) : s.published = none := by
  cases published : s.published with
  | none => rfl
  | some l =>
    obtain ⟨m, there, -⟩ := h l published
    cases there

theorem CordonCourse.published {read : NodeState} (h : x.CordonCourse read s xs result s') :
    s'.published = s.published := by
  cases h <;> rfl

theorem ActCourse.kind_ne (h : x.ActCourse s action xs result s') :
    ∀ e ∈ xs, e.kind ≠ .updateLabels := by
  intro e he
  cases h with
  | none => cases he
  | unread =>
    cases List.mem_singleton.1 he
    exact nofun
  | cordon _ went =>
    rcases List.mem_cons.1 he with rfl | he
    · exact nofun
    · rw [went.kind e he]
      exact nofun
  | defer _ _ went =>
    rcases List.mem_cons.1 he with rfl | he
    · exact nofun
    · rw [went.kind e he]
      exact nofun
  | delete _ _ went =>
    rcases List.mem_cons.1 he with rfl | he
    · exact nofun
    · cases went with
      | rehearsed => cases he
      | deleted =>
        cases List.mem_singleton.1 he
        exact nofun
      | failed =>
        cases List.mem_singleton.1 he
        exact nofun

/-- An action deletes the node, and then nothing is published any more; or it keeps both the
node and what is published. -/
theorem ActCourse.published (h : x.ActCourse s action xs result s') :
    (result = .ok .deleted ∧ s' = ExecutorState.recordDeletion { s with pendingCordon := true } ∧
        ∃ read, xs = [read, x.told .delete (.ok ())]) ∨
      s'.published = s.published ∧ s'.deleted = s.deleted ∧ ∀ e ∈ xs, e.deleted = false := by
  have unlike {e : Exchange} {xs : List Exchange} (first : e.kind = .get)
      (rest : ∀ e ∈ xs, e.kind = .cordon) : ∀ e' ∈ e :: xs, e'.deleted = false := by
    intro e' he
    cases deleted : e'.deleted with
    | false => rfl
    | true =>
      have kind := Exchange.kind_of_deleted deleted
      rcases List.mem_cons.1 he with rfl | he
      · cases first.symm.trans kind
      · cases (rest e' he).symm.trans kind
  cases h with
  | none => exact .inr ⟨rfl, rfl, by simp⟩
  | unread => exact .inr ⟨rfl, rfl, unlike rfl (by simp)⟩
  | cordon _ went => exact .inr ⟨went.published, went.deleted, unlike rfl went.kind⟩
  | defer _ _ went => exact .inr ⟨went.published, went.deleted, unlike rfl went.kind⟩
  | delete _ _ went =>
    cases went with
    | rehearsed => exact .inr ⟨rfl, rfl, unlike rfl (by simp)⟩
    | deleted => exact .inl ⟨rfl, rfl, _, rfl⟩
    | failed => exact .inr ⟨rfl, rfl, by simp [asked, told, Exchange.deleted]⟩

theorem ActCourse.coherent (h : x.ActCourse s action xs result s')
    (effects : Exchange.Effects xs n n') (coherent : x.Coherent s n) : x.Coherent s' n' := by
  rcases h.published with ⟨-, rfl, -⟩ | ⟨published, -, kept⟩
  · exact .of_unpublished rfl
  · exact coherent.congr published (effects.labelling h.kind_ne kept)

theorem PublishCourse.coherent (h : x.PublishCourse v s xs answer s')
    (wet : x.config.dryRun = false) (effects : Exchange.Effects xs n n')
    (coherent : x.Coherent s n) : x.Coherent s' n' := by
  cases h with
  | unchanged =>
    cases effects with
    | nil => exact coherent
  | rehearsed _ dry => exact absurd (dry.symm.trans wet) (by decide)
  | failed =>
    cases Exchange.Effects.singleton_iff.1 effects
    exact coherent
  | published =>
    cases Exchange.Effects.singleton_iff.1 effects with
    | labelled m =>
      rintro l ⟨⟩
      exact ⟨_, rfl, (x.labels v).in_union x.config m.labels⟩

theorem VerdictCourse.coherent (h : x.VerdictCourse v s xs result s')
    (wet : x.config.dryRun = false) (effects : Exchange.Effects xs n n')
    (coherent : x.Coherent s n) : x.Coherent s' n' := by
  cases h with
  | failed _ went => exact went.coherent effects coherent
  | unlabelled went => exact went.coherent effects coherent
  | labelled went _ _ published =>
    obtain ⟨m, acted, labelled⟩ := Exchange.Effects.append_iff.1 effects
    exact published.coherent wet labelled (went.coherent acted coherent)

/-- Whatever comes of a verdict, what is taken for published stays right. -/
theorem ExecuteCourse.coherent (h : x.ExecuteCourse v s xs result s')
    (wet : x.config.dryRun = false) (effects : Exchange.Effects xs n n')
    (coherent : x.Coherent s n) : x.Coherent s' n' := by
  cases h with
  | present _ went => exact went.coherent wet effects coherent
  | absent => exact coherent.congr rfl (by rw [effects.of_reads (by simp)])
  | unseen => exact coherent.congr rfl (by rw [effects.of_reads (by simp)])
  | returned _ _ went =>
    cases effects with
    | cons _ rest => exact went.coherent wet rest (.of_unpublished rfl)

/-- A verdict that succeeds on a node, and leaves it there, has its labels published. -/
theorem VerdictCourse.published_of_ok (h : x.VerdictCourse v s xs result s')
    (wanted : x.config.publishScore = true) (done : result = .ok outcome)
    (kept : outcome ≠ .deleted) :
    s'.published = some (x.labels v) := by
  cases h with
  | failed => cases done
  | unlabelled _ unwanted =>
    cases done
    rcases unwanted with gone | unwanted
    · exact absurd gone kept
    · exact absurd (wanted.symm.trans unwanted) (by decide)
  | labelled _ _ _ published =>
    cases published with
    | unchanged same => exact same
    | rehearsed => rfl
    | published => rfl
    | failed => cases done

theorem ExecuteCourse.published_of_ok (h : x.ExecuteCourse v s xs result s')
    (wanted : x.config.publishScore = true) (done : result = .ok outcome)
    (kept : outcome ≠ .deleted) :
    s'.published = some (x.labels v) ∨
      outcome = .noAction ∧ (∃ e ∈ xs, e.misses = true) ∧ ∀ e ∈ xs, e.kind = .get := by
  cases h with
  | present _ went => exact .inl (went.published_of_ok wanted done kept)
  | absent _ missed =>
    cases done
    exact .inr ⟨rfl, ⟨_, List.mem_singleton_self _, NodeScope.misses_of_accept missed _⟩, by simp⟩
  | unseen => cases done
  | returned _ _ went => exact .inl (went.published_of_ok wanted done kept)

end Executor

namespace Application

open Executor

variable {x : Executor} {a : Application} {c c' : MemoryCluster} {outcome : ExecutionOutcome}

theorem Took.coherent (h : a.Took x) (wet : x.config.dryRun = false)
    (answered : c.Answered x.scope a.exchanges c')
    (coherent : x.Coherent a.before c.nodes[x.scope.node.name]?) :
    x.Coherent a.after c'.nodes[x.scope.node.name]? := by
  have effects := answered.effects
  rcases h.cases with ⟨-, silent, -, after⟩ | ⟨-, -, silent, -, after⟩ | ⟨-, -, s', went, after⟩
  · rw [after]
    exact coherent.congr rfl (by rw [effects.of_reads (by simp [silent])])
  · rw [after]
    exact coherent.congr rfl (by rw [effects.of_reads (by simp [silent])])
  · rw [after]
    exact (went.coherent wet effects (coherent.congr rfl rfl)).congr remember_published rfl

/-- If what is taken for published is on the node, then a verdict that succeeds and does not
delete the node leaves it with the labels of that verdict, or there is no node. -/
theorem Took.carries (h : a.Took x) (wanted : x.config.publishScore = true)
    (answered : c.Answered x.scope a.exchanges c')
    (truly : (∃ e ∈ a.exchanges, e.misses = true) → c.nodes[x.scope.node.name]? = none)
    (coherent : x.Coherent a.after c'.nodes[x.scope.node.name]?) (done : a.result = .ok outcome)
    (carried : outcome.skips = false) (kept : outcome ≠ .deleted) :
    (outcome = .noAction ∧ c'.nodes[x.scope.node.name]? = none) ∨
      ∃ n, c'.nodes[x.scope.node.name]? = some n ∧ x.Tells a.verdict n.labels := by
  obtain ⟨s', went, after⟩ := h.executed_of_ok done carried
  rcases went.published_of_ok wanted done kept with published | ⟨idle, missed, reads⟩
  · right
    rw [after] at coherent
    obtain ⟨m, there, labelled⟩ := coherent _ (remember_published.trans published)
    obtain ⟨n, found, rfl⟩ := Option.map_eq_some_iff.1 there
    exact ⟨n, found, tells_iff.2 labelled⟩
  · left
    exact ⟨idle, (answered.effects.of_reads reads).trans (truly missed)⟩

end Application

/-! ## What happens to the cluster -/

/-- What happens to the cluster leaves the labels of a node alone, unless the node registers. -/
theorem MemoryCluster.labelling_happen (c : MemoryCluster) (name : String) (e : ClusterEvent) :
    e = .register name ∨
      NodeState.labelling (c.happen e).nodes[name]? = NodeState.labelling c.nodes[name]? := by
  cases e with
  | failNext | denyAll | setDelay | renameReads => exact .inr rfl
  | register other =>
    by_cases own : other = name
    · exact .inl (by rw [own])
    · exact .inr (by simp [MemoryCluster.happen, Std.ExtTreeMap.getElem?_insert, own])
  | uncordon other =>
    refine .inr ?_
    simp only [MemoryCluster.happen]
    split
    · rename_i n found
      by_cases own : other = name
      · subst own
        simp [NodeState.labelling, found, NodeState.uncordon]
      · simp [Std.ExtTreeMap.getElem?_insert, own]
    · rfl

namespace Executor

variable {x : Executor} {s : ExecutorState} {c : MemoryCluster}

/-- Nobody interferes with the labels of the own node: it registers only while it is absent,
and it is found missing only then. -/
def Genuine (x : Executor) (st : ExecutorState × MemoryCluster) : ExecutorStep → Prop
  | .apply v => (∃ e ∈ (x.application v st.1 st.2).exchanges, e.misses = true) →
      st.2.nodes[x.scope.node.name]? = none
  | .event (.register name) => name = x.scope.node.name → st.2.nodes[x.scope.node.name]? = none
  | .event _ => True
  | .wait _ => True

instance (st : ExecutorState × MemoryCluster) :
    (step : ExecutorStep) → Decidable (x.Genuine st step)
  | .apply v => inferInstanceAs (Decidable
      ((∃ e ∈ (x.application v st.1 st.2).exchanges, e.misses = true) →
        st.2.nodes[x.scope.node.name]? = none))
  | .event (.register name) => inferInstanceAs (Decidable
      (name = x.scope.node.name → st.2.nodes[x.scope.node.name]? = none))
  | .event (.failNext _ _) | .event .denyAll | .event (.setDelay _) | .event (.uncordon _)
  | .event (.renameReads _) | .wait _ => .isTrue trivial

theorem Coherent.happen {e : ClusterEvent} (h : x.Coherent s c.nodes[x.scope.node.name]?)
    (genuine : x.Genuine (s, c) (.event e)) :
    x.Coherent s (c.happen e).nodes[x.scope.node.name]? := by
  rcases c.labelling_happen x.scope.node.name e with rfl | same
  · -- nothing is taken for published on a node that is absent
    rw [genuine rfl] at h
    exact .of_unpublished h.unpublished
  · exact h.congr rfl same

end Executor

end NodeWarden
