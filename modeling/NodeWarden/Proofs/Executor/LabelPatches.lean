import NodeWarden.Proofs.Executor.LabelCache

/-!
# Patches of labels

Labels are never stale and never patched without need. Whether a verdict gets as far as its
labels is decided before them (`Executor.publishes`); if it does, they are patched unless
they are the ones that are taken for published (`patches_iff`), and these are the ones of
the last patch since the node registered (`Executor.Tracks`). So in every run in which calls
are answered truly, a verdict that succeeds leaves its labels on the node, and patches them
exactly if they differ from those of the last patch (`labels_coherent`).
-/

namespace NodeWarden

namespace Exchange

/-- The labels that are on the node by the last call that has set any: those that were
before, if none of these calls has. -/
def lastPatched (known : Option Labels) (xs : List Exchange) : Option Labels :=
  xs.foldl (fun known e => e.patched <|> known) known

theorem lastPatched_append (known : Option Labels) (xs ys : List Exchange) :
    lastPatched known (xs ++ ys) = lastPatched (lastPatched known xs) ys :=
  List.foldl_append

theorem lastPatched_of_unpatched {xs : List Exchange} (h : ∀ e ∈ xs, e.kind ≠ .updateLabels)
    (known : Option Labels) : lastPatched known xs = known := by
  induction xs with
  | nil => rfl
  | cons e xs ih =>
    have unpatched : e.patched = none := by
      cases patched : e.patched with
      | none => rfl
      | some => exact absurd (kind_of_patched patched) (h e List.mem_cons_self)
    have rest := ih fun e he => h e (List.mem_cons_of_mem _ he)
    simpa [lastPatched, unpatched] using rest

end Exchange

namespace Executor

variable {x : Executor} {v : Verdict} {s s' : ExecutorState} {xs : List Exchange}
  {action : NodeAction} {result : Except ClusterError ExecutionOutcome}
  {answer : Except ClusterError Unit} {n n' : Option NodeState} {known : Option Labels}

/-! ## Where labels are patched -/

variable {σ : Type} [ClusterApi σ] [Journal σ]

/-- Whether an action that ended so is followed by its labels. -/
def wantsLabels (x : Executor) : Except ClusterError ExecutionOutcome → Bool
  | .ok outcome => outcome ≠ .deleted && x.config.publishScore
  | .error _ => false

/-- Whether carrying out a verdict gets as far as its labels. -/
def reachesLabels (x : Executor) (v : Verdict) (s : ExecutorState) (w : σ) : Bool :=
  match x.awaitRegistration s w with
  | (.ok true, s, w) =>
    x.wantsLabels (x.act (x.effectiveAction v.action s) v.reason s (x.tellOverride v.action s w)).1
  | _ => false

/-- Whether applying a verdict gets as far as its labels. -/
def publishes (x : Executor) (v : Verdict) (s : ExecutorState) (w : σ) : Bool :=
  !s.observeOnly && s.skipTicks = 0 && x.reachesLabels v { s with tick := s.tick + 1 } w

/-- A world gets as far as one that the scope cannot tell from it. -/
theorem reachesLabels_congr {τ : Type} [ClusterApi τ] [Journal τ] {R : σ → τ → Prop} {w : σ} {u : τ}
    (h : x.scope.Respects R) (hw : R w u) (v : Verdict) (s : ExecutorState) :
    x.reachesLabels v s w = x.reachesLabels v s u := by
  unfold reachesLabels
  obtain ⟨s', w', u', hw', ⟨there, hl, hr⟩ | ⟨e, hl, hr⟩⟩ := (awaitRegistration_agrees h hw s).cases
  · rw [hl, hr]
    cases there with
    | false => rfl
    | true =>
      have same := (act_agrees h (tellOverride_related h hw' v.action s')
        (x.effectiveAction v.action s') v.reason s').1
      show x.wantsLabels _ = x.wantsLabels _
      rw [same]
  · rw [hl, hr]

/-- Labels are patched by a verdict that gets as far as its labels, if they are not the ones
that are taken for published. -/
theorem carryOut_patches (wet : x.config.dryRun = false) (v : Verdict) (s : ExecutorState)
    (o : Observed σ) :
    ∃ xs, (x.carryOut v s o).2.2.exchanges = o.exchanges ++ xs ∧
      ((∃ e ∈ xs, e.kind = .updateLabels) ↔
        x.wantsLabels (x.act (x.effectiveAction v.action s) v.reason s
          (x.tellOverride v.action s o)).1 = true ∧ s.published ≠ some (x.labels v)) := by
  obtain ⟨xs, acted, s', o', eq, asked, went, ⟨ended, unwanted⟩ |
    ⟨outcome, ys, published, s'', o'', rfl, there, wanted, labelled, ended, told⟩⟩ :=
      carryOut_stages (x := x) v s o
  · -- the action makes no such call, and it is all there is
    rw [ended, eq]
    refine ⟨xs, asked, fun ⟨e, he, label⟩ => absurd label (went.kind_ne e he),
      fun ⟨reached, _⟩ => ?_⟩
    cases acted with
    | error e => cases reached
    | ok outcome =>
      have wanted : outcome ≠ .deleted ∧ x.config.publishScore = true := by
        simpa [wantsLabels] using reached
      rcases unwanted outcome rfl with gone | unpublished
      · exact absurd gone wanted.1
      · exact absurd (wanted.2.symm.trans unpublished) (by decide)
  · rw [ended, eq]
    have reached : x.wantsLabels (.ok outcome) = true := by simp [wantsLabels, there, wanted]
    have same : s'.published = s.published := by
      rcases went.published with ⟨gone, -⟩ | ⟨same, -⟩
      · exact absurd (Except.ok.inj gone) there
      · exact same
    refine ⟨xs ++ ys, told, ?_⟩
    rw [reached, ← same]
    cases labelled with
    | unchanged known =>
      rw [List.append_nil]
      exact ⟨fun ⟨e, he, label⟩ => absurd label (went.kind_ne e he),
        fun differ => absurd known differ.2⟩
    | rehearsed _ dry => exact absurd (dry.symm.trans wet) (by decide)
    | published unknown => simp [unknown, NodeChange.kind]
    | failed _ unknown => simp [unknown, NodeChange.kind]

theorem execute_patches (wet : x.config.dryRun = false) (v : Verdict) (s : ExecutorState)
    (settled : s.Settled) (o : Observed σ) :
    ∃ xs, (x.execute v s o).2.2.exchanges = o.exchanges ++ xs ∧
      ((∃ e ∈ xs, e.kind = .updateLabels) ↔
        x.reachesLabels v s o = true ∧ s.published ≠ some (x.labels v)) := by
  rw [execute_eq, reachesLabels]
  unfold awaitRegistration
  by_cases gone : s.deleted = true
  · rw [if_pos gone]
    obtain ⟨answer, w, got⟩ := x.scope.get_observed o
    rw [got]
    rcases x.scope.accept answer with e | read
    · cases e with
      | notFound detail => exact ⟨[x.asked answer], rfl, by simp⟩
      | api | timeout | permission | foreignNode => exact ⟨[x.asked answer], rfl, by simp⟩
    · -- what was published before the deletion does not count any more
      obtain ⟨xs, calls, patches⟩ := carryOut_patches wet v s.resume
        (x.tell .registeredAgain ⟨w, o.exchanges ++ [.read x.scope.node.name answer]⟩)
      have same : s.resume.published = s.published := (settled.published gone).symm
      rw [same] at patches
      refine ⟨x.asked answer :: xs, ?_, by simpa using patches⟩
      simpa [tell, asked] using calls
  · rw [if_neg gone]
    exact carryOut_patches wet v s o

/-- Labels are patched by a verdict that gets as far as its labels, if they are not the ones
that are taken for published. -/
theorem patches_iff {c : MemoryCluster} (wet : x.config.dryRun = false) (settled : s.Settled) :
    (∃ e ∈ (x.application v s c).exchanges, e.kind = .updateLabels) ↔
      x.publishes v s c = true ∧ s.published ≠ some (x.labels v) := by
  have fresh : (Observed.fresh c).world = c ∧ c.Answered x.scope (Observed.fresh c).exchanges c :=
    ⟨rfl, .nil c⟩
  have seen : (x.application v s c).exchanges = (x.apply v s (Observed.fresh c)).2.2.exchanges :=
    rfl
  rw [seen, publishes]
  unfold apply
  dsimp only
  by_cases latched : s.observeOnly = true
  · simp [latched, tell]
  by_cases waits : 0 < s.skipTicks
  · have busy : s.skipTicks ≠ 0 := fun idle => absurd (idle ▸ waits) (by decide)
    simp [latched, waits, busy, tell]
  · have ready : s.skipTicks = 0 := by simpa using waits
    obtain ⟨xs, calls, patches⟩ := execute_patches wet v { s with tick := s.tick + 1 }
      (settled.congr rfl rfl rfl) (Observed.fresh c)
    rw [reachesLabels_congr (MemoryCluster.Answered.respected x.scope c) fresh] at patches
    rw [if_neg latched, if_neg waits]
    dsimp only
    rw [(settle_eq _ _ _).2, calls]
    simpa [latched, ready] using patches

/-- Only a node that is there is found registered again. -/
theorem exists_of_publishes {c : MemoryCluster} (h : x.publishes v s c = true)
    (gone : s.deleted = true) :
    c.nodes[x.scope.node.name]? ≠ none := by
  intro absent
  simp only [publishes, reachesLabels, awaitRegistration, gone, if_true, Bool.and_eq_true] at h
  have reaches := h.2
  rw [NodeScope.get_eq_accept] at reaches
  rcases got : ClusterApi.getNode x.scope.limit x.scope.node.name c with ⟨answer, c'⟩
  rw [got] at reaches
  cases answer with
  | ok n =>
    obtain ⟨m, found, -⟩ := MemoryCluster.get_ok got
    cases absent.symm.trans found
  | error e => cases e <;> simp [NodeScope.accept] at reaches

/-! ## What is known of the labels -/

/-- The labels of the last patch since the node registered are the ones that are taken for
published. -/
structure Tracks (x : Executor) (s : ExecutorState) (n : Option NodeState) (known : Option Labels) :
    Prop where
  settled : s.Settled
  coherent : x.Coherent s n
  current : s.deleted = false → known = s.published.map (·.entries x.config)
  /-- A node that is back has not been patched since. -/
  renewed : s.deleted = true → n ≠ none → known = none

/-- It does not depend on what else the executor remembers. -/
theorem Tracks.congr (h : x.Tracks s n known) (deleted : s'.deleted = s.deleted)
    (pending : s'.pendingCordon = s.pendingCordon) (published : s'.published = s.published) :
    x.Tracks s' n known where
  settled := h.settled.congr deleted pending published
  coherent := h.coherent.congr published rfl
  current there := by
    rw [published]
    exact h.current (deleted ▸ there)
  renewed gone := h.renewed (deleted ▸ gone)

theorem PublishCourse.lastPatched (h : x.PublishCourse v s xs answer s')
    (wet : x.config.dryRun = false) (current : known = s.published.map (·.entries x.config)) :
    Exchange.lastPatched known xs = s'.published.map (·.entries x.config) := by
  cases h with
  | unchanged => exact current
  | rehearsed _ dry => exact absurd (dry.symm.trans wet) (by decide)
  | published => rfl
  | failed => exact current

theorem ActCourse.lastPatched (h : x.ActCourse s action xs result s') (there : s'.deleted = false)
    (current : known = s.published.map (·.entries x.config)) :
    Exchange.lastPatched known xs = s'.published.map (·.entries x.config) := by
  rw [Exchange.lastPatched_of_unpatched h.kind_ne]
  rcases h.published with ⟨-, rfl, -⟩ | ⟨same, -⟩
  · cases there
  · rw [same]
    exact current

theorem VerdictCourse.lastPatched (h : x.VerdictCourse v s xs result s')
    (wet : x.config.dryRun = false) (there : s'.deleted = false)
    (current : known = s.published.map (·.entries x.config)) :
    Exchange.lastPatched known xs = s'.published.map (·.entries x.config) := by
  cases h with
  | failed _ went => exact went.lastPatched there current
  | unlabelled went => exact went.lastPatched there current
  | labelled went _ _ published =>
    rw [published.state] at there
    rw [Exchange.lastPatched_append]
    exact published.lastPatched wet (went.lastPatched there current)

/-- An action after which the node is taken for deleted, though it was not before, has
deleted it. -/
theorem ActCourse.absent (h : x.ActCourse s action xs result s')
    (effects : Exchange.Effects xs n n') (there : s.deleted = false) (gone : s'.deleted = true) :
    n' = Option.none := by
  rcases h.published with ⟨-, -, read, rfl⟩ | ⟨-, same, -⟩
  · cases effects with
    | cons _ rest =>
      cases Exchange.Effects.singleton_iff.1 rest
      rfl
  · exact absurd (gone.symm.trans (same.trans there)) (by decide)

theorem VerdictCourse.absent (h : x.VerdictCourse v s xs result s')
    (effects : Exchange.Effects xs n n') (there : s.deleted = false) (gone : s'.deleted = true) :
    n' = none := by
  cases h with
  | failed _ went => exact went.absent effects there gone
  | unlabelled went => exact went.absent effects there gone
  | labelled went kept _ published =>
    rw [published.state] at gone
    rcases went.published with ⟨done, -⟩ | ⟨-, same, -⟩
    · exact absurd (Except.ok.inj done) kept
    · exact absurd (gone.symm.trans (same.trans there)) (by decide)

theorem ExecuteCourse.tracks (h : x.ExecuteCourse v s xs result s') (wet : x.config.dryRun = false)
    (effects : Exchange.Effects xs n n') (tracks : x.Tracks s n known) :
    x.Tracks s' n' (Exchange.lastPatched known xs) := by
  have verdict {t : ExecutorState} {n xs known} (went : x.VerdictCourse v t xs result s')
      (effects : Exchange.Effects xs n n') (there : t.deleted = false)
      (current : known = t.published.map (·.entries x.config)) (settled : s'.Settled)
      (coherent : x.Coherent t n) : x.Tracks s' n' (Exchange.lastPatched known xs) :=
    { settled
      coherent := went.coherent wet effects coherent
      current := fun there' => went.lastPatched wet there' current
      renewed := fun gone here => absurd (went.absent effects there gone) here }
  have settled := h.settled_after tracks.settled
  cases h with
  | present there went =>
    exact verdict went effects there (tracks.current there) settled tracks.coherent
  | absent =>
    rw [effects.of_reads (by simp), Exchange.lastPatched_of_unpatched (by simp)]
    exact tracks
  | unseen =>
    rw [effects.of_reads (by simp), Exchange.lastPatched_of_unpatched (by simp)]
    exact tracks
  | @returned answer read xs _ _ gone accepted went =>
    obtain ⟨rfl, -⟩ := x.scope.accept_eq_ok.1 accepted
    cases effects with
    | cons first rest =>
      cases first with
      | shown =>
        have fresh : known = none := tracks.renewed gone (by simp)
        show x.Tracks s' n' (Exchange.lastPatched known xs)
        exact verdict went rest rfl fresh settled (.of_unpublished rfl)

end Executor

namespace Application

open Executor

variable {x : Executor} {a : Application} {c c' : MemoryCluster} {known : Option Labels}

theorem Took.tracks (h : a.Took x) (wet : x.config.dryRun = false)
    (answered : c.Answered x.scope a.exchanges c')
    (tracks : x.Tracks a.before c.nodes[x.scope.node.name]? known) :
    x.Tracks a.after c'.nodes[x.scope.node.name]? (Exchange.lastPatched known a.exchanges) := by
  have effects := answered.effects
  rcases h.cases with ⟨-, silent, -, after⟩ | ⟨-, -, silent, -, after⟩ | ⟨-, -, s', went, after⟩
  · rw [after, silent, effects.of_reads (by simp [silent])]
    exact tracks.congr rfl rfl rfl
  · rw [after, silent, effects.of_reads (by simp [silent])]
    exact tracks.congr rfl rfl rfl
  · rw [after]
    exact (went.tracks wet effects (tracks.congr rfl rfl rfl)).congr remember_deleted
      remember_pendingCordon remember_published

end Application

/-! ## Runs -/

namespace Executor

variable {x : Executor} {c w w' : MemoryCluster} {s s' : ExecutorState} {v : Verdict}
  {steps : List ExecutorStep} {result : Except ClusterError ExecutionOutcome}
  {known : Option Labels}

/-- One step of a run that is watched: beside the step itself, what is known of the labels. -/
def watch (x : Executor) (r : (ExecutorState × MemoryCluster) × Option Labels)
    (step : ExecutorStep) :
    ((ExecutorState × MemoryCluster) × Option Labels) × Option Application :=
  let known :=
    match step with
    | .apply v => Exchange.lastPatched r.2 (x.application v r.1.1 r.1.2).exchanges
    | .event (.register name) => if name = x.scope.node.name then none else r.2
    | .event _ => r.2
    | .wait _ => r.2
  (((x.advance r.1 step).1, known), (x.advance r.1 step).2)

theorem watch_event_of_ne {e : ClusterEvent} (h : e ≠ .register x.scope.node.name) :
    (x.watch ((s, c), known) (.event e)).1.2 = known := by
  cases e with
  | register name =>
    have apart : name ≠ x.scope.node.name := fun own => h (by rw [own])
    simp [watch, apart]
  | _ => rfl

theorem Tracks.happen {e : ClusterEvent} (h : x.Tracks s c.nodes[x.scope.node.name]? known)
    (genuine : x.Genuine (s, c) (.event e)) :
    x.Tracks s (c.happen e).nodes[x.scope.node.name]? (x.watch ((s, c), known) (.event e)).1.2 := by
  have coherent := h.coherent.happen genuine
  by_cases registers : e = .register x.scope.node.name
  · subst registers
    have forgets : (x.watch ((s, c), known) (.event (.register x.scope.node.name))).1.2 = none := by
      simp [watch]
    rw [forgets]
    -- the node was absent, so nothing was taken for published
    have absent := h.coherent
    rw [genuine rfl] at absent
    refine ⟨h.settled, coherent, fun _ => ?_, fun _ _ => rfl⟩
    rw [absent.unpublished]
    rfl
  · rw [watch_event_of_ne registers]
    have same := (c.labelling_happen x.scope.node.name e).resolve_left registers
    refine ⟨h.settled, coherent, h.current, fun gone there => h.renewed gone fun absent => there ?_⟩
    rw [absent] at same
    exact Option.map_eq_none_iff.1 same

/-- In every watched run in which calls are answered truly, what is known of the labels is
what is taken for published. -/
theorem tracks_of_genuine (wet : x.config.dryRun = false)
    (genuine : History.Throughout x.watch (fun r => x.Genuine r.1) ((.initial, c), none) steps)
    (reached : History.final x.watch ((.initial, c), none) steps = ((s, w), known)) :
    x.Tracks s w.nodes[x.scope.node.name]? known := by
  have tracks :=
    genuine.invariant (R := fun r => x.Tracks r.1.1 r.1.2.nodes[x.scope.node.name]? r.2)
    ⟨.of_present rfl, .of_unpublished rfl, fun _ => rfl, fun _ _ => rfl⟩
      (fun r step tracks genuine => ?_)
  · rwa [reached] at tracks
  · obtain ⟨⟨s, c⟩, known⟩ := r
    cases step with
    | apply v =>
      have made : (x.advance (s, c) (.apply v)).2 = some (x.application v s c) := rfl
      obtain ⟨took, -, after, answered⟩ := advance_spec made
      have tracked := took.tracks wet answered tracks
      rwa [after] at tracked
    | event e => exact tracks.happen genuine
    | wait ms => exact tracks

/-- Where a verdict gets as far as its labels, the ones that are known tell it if its labels
are taken for published. -/
theorem Tracks.known_iff (h : x.Tracks s w.nodes[x.scope.node.name]? known)
    (publishes : x.publishes v s w = true) :
    (∃ m, known = some m ∧ x.Tells v m) ↔ s.published = some (x.labels v) := by
  by_cases gone : s.deleted = true
  · rw [h.renewed gone (exists_of_publishes publishes gone), h.settled.published gone]
    simp
  · rw [h.current (by simpa using gone)]
    cases s.published with
    | none => simp
    | some l =>
      constructor
      · rintro ⟨_, ⟨⟩, tells⟩
        rw [ScoreLabels.in_entries_iff.1 (tells_iff.1 tells)]
      · rintro ⟨⟩
        exact ⟨_, rfl, tells_iff.2 (ScoreLabels.in_entries_iff.2 rfl)⟩

/-- In every run in which nobody interferes with the labels of the own node: a verdict that
succeeds and does not delete the node leaves it with labels that tell that verdict, unless
there is no node; and labels are patched exactly if the verdict gets as far as that and
those of the last patch since the node registered do not tell it, or there was none. -/
theorem labels_coherent (wet : x.config.dryRun = false) (wanted : x.config.publishScore = true)
    (genuine : History.Throughout x.watch (fun r => x.Genuine r.1) ((.initial, c), none)
      (steps ++ [.apply v]))
    (reached : History.final x.watch ((.initial, c), none) steps = ((s, w), known))
    (applied : x.apply v s w = (result, s', w')) :
    (∀ outcome, result = .ok outcome → outcome.skips = false → outcome ≠ .deleted →
      (outcome = .noAction ∧ w'.nodes[x.scope.node.name]? = none) ∨
        ∃ n, w'.nodes[x.scope.node.name]? = some n ∧ x.Tells v n.labels) ∧
    ((∃ e ∈ (x.application v s w).exchanges, e.kind = .updateLabels) ↔
      x.publishes v s w = true ∧ ¬ ∃ m, known = some m ∧ x.Tells v m) := by
  obtain ⟨earlier, last⟩ := History.throughout_append.1 genuine
  rw [reached] at last
  have tracks := tracks_of_genuine wet earlier reached
  constructor
  · intro outcome done carried kept
    obtain ⟨result_eq, rfl, answered⟩ := application_of_apply applied
    have took := Application.took x v s w
    exact took.carries wanted answered last.1 (took.coherent wet answered tracks.coherent)
      (result_eq.trans done) carried kept
  · rw [patches_iff wet tracks.settled]
    exact and_congr_right fun publishes => not_congr (tracks.known_iff publishes).symm

/-- A node is deleted and registers again. Its labels are those that were published before
the deletion, but the node does not carry them any more: they are patched again. -/
theorem labels_coherent_trial :
    ∃ s c s' c', History.final (trial true).watch ((.initial, .withNodes ["node-a"]), none)
        [.apply (.trial .cordon), .apply (.trial .delete), .event (.register "node-a")] =
        ((s, c), none) ∧
      (trial true).apply (.trial .none) s c = (.ok .noAction, s', c') ∧
      (∃ n, c'.nodes["node-a"]? = some n ∧ (trial true).Tells (.trial .none) n.labels) ∧
      ∃ e ∈ ((trial true).application (.trial .none) s c).exchanges, e.kind = .updateLabels := by
  refine ⟨_, _, _, _, rfl, rfl, ?_⟩
  obtain ⟨carries, patches⟩ :=
    @labels_coherent (trial true) (.withNodes ["node-a"]) _ _ _ _ (.trial .none)
    [.apply (.trial .cordon), .apply (.trial .delete), .event (.register "node-a")] _ none rfl rfl
    (by decide) rfl rfl
  refine ⟨(carries .noAction rfl rfl (by decide)).resolve_left fun absent => ?_,
    patches.2 ⟨rfl, by simp⟩⟩
  exact absurd absent.2 (by decide)

end Executor

end NodeWarden
