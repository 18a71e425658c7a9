import NodeWarden.Proofs.Cluster.Calls
import NodeWarden.Proofs.History

/-!
# Calls among events

A run against a cluster in memory mixes the calls of scopes with events and with time that
passes. Faults of all kinds wait in one queue, out of which a call takes the oldest of its
kind. To the calls it is as if every kind had a queue of its own: what waits at first and
what is injected later comes out in that order, each fault once and to a call of its kind
(`RunLaws.fifo`), and how faults of several kinds are mingled in the one queue makes no
difference (`RunLaws.mingled`).
-/

namespace NodeWarden

/-- What can happen in a run against a cluster. -/
inductive ClusterStep where
  | call (scope : NodeScope) (call : ScopeCall)
  | event (e : ClusterEvent)
  | wait (ms : Nat)

/-- A call in a run: who makes it of what, the answer, and the cluster before and after. -/
structure Performance where
  scope : NodeScope
  call : ScopeCall
  answer : Answer
  before : MemoryCluster
  after : MemoryCluster

namespace MemoryCluster

/-- The faults that wait for calls of a kind, the oldest first. -/
def waiting (kind : CallKind) (c : MemoryCluster) : List ClusterError := waitingFor kind c.faults

/-- The fault that a call of a kind uses up: the oldest that waits for one, unless all calls
are denied. -/
def takes (kind : CallKind) (c : MemoryCluster) : Option ClusterError :=
  if c.denied then none else (c.waiting kind).head?

def perform (scope : NodeScope) (call : ScopeCall) (c : MemoryCluster) : Performance :=
  ⟨scope, call, (scope.call call c).1, c, (scope.call call c).2⟩

def advance (c : MemoryCluster) : ClusterStep → MemoryCluster × Option Performance
  | .call scope call => ((c.perform scope call).after, some (c.perform scope call))
  | .event e => (c.happen e, none)
  | .wait ms => (c.pass ms, none)

/-- The cluster at the end of a run. -/
def atEnd (c : MemoryCluster) (steps : List ClusterStep) : MemoryCluster :=
  History.final advance c steps

/-- The calls of a run, the first one first. -/
def performances (c : MemoryCluster) (steps : List ClusterStep) : List Performance :=
  History.records advance c steps

/-- Reads show every node under the name by which it is asked for. -/
structure Forthright (c : MemoryCluster) : Prop where
  undisguised : c.pseudonym = none
  named : ∀ (name : String) (n : NodeState), c.nodes[name]? = some n → n.name = name

end MemoryCluster

/-- What is logged of a call. -/
def Performance.record (p : Performance) : CallRecord :=
  ⟨p.before.clock, p.call.kind, p.scope.node.name⟩

/-- The fault that a call uses up if it is of the given kind. -/
def Performance.uses (kind : CallKind) (p : Performance) : Option ClusterError :=
  if p.call.kind = kind then p.before.takes kind else none

/-- The fault that a step injects for calls of a kind. -/
def ClusterStep.injects (kind : CallKind) : ClusterStep → Option ClusterError
  | event (.failNext k e) => if k = kind then some e else none
  | _ => none

/-- Reads answer under another name from a step on. -/
def ClusterStep.Disguises (step : ClusterStep) : Prop :=
  ∃ name, step = event (.renameReads (some name))

/-- What holds of the calls of a run. -/
structure RunLaws (c : MemoryCluster) (steps : List ClusterStep) : Prop where
  /-- What a call is answered, and what it does, depends on the cluster in which it is made. -/
  called : ∀ p ∈ c.performances steps, p.before.Called p.scope p.call p.answer p.after
  /-- Every call is logged once, in the order of the calls. -/
  logged : (c.atEnd steps).calls = c.calls ++ (c.performances steps).map Performance.record
  /-- A call that uses up a fault is answered with it. -/
  answered : ∀ p ∈ c.performances steps, ∀ e, p.before.takes p.call.kind = some e →
    p.answer = .error e
  /-- The faults of a kind are used up in the order in which they were injected. -/
  fifo : ∀ kind, c.waiting kind ++ steps.filterMap (·.injects kind) =
    (c.performances steps).filterMap (·.uses kind) ++ (c.atEnd steps).waiting kind
  /-- A call leaves the faults for calls of another kind where they are. -/
  apart : ∀ p ∈ c.performances steps, ∀ kind ≠ p.call.kind, p.after.waiting kind =
    p.before.waiting kind
  /-- All that matters of the faults at the start is which wait for each kind, in which order. -/
  mingled : ∀ faults : List (CallKind × ClusterError),
    (∀ kind, waitingFor kind faults = c.waiting kind) →
    (({ c with faults := faults } : MemoryCluster).performances steps).map Performance.answer =
      (c.performances steps).map Performance.answer
  /-- A call that fails leaves the nodes as they are. -/
  atomic : ∀ p ∈ c.performances steps, ∀ e, p.answer = .error e → p.after.nodes = p.before.nodes
  /-- With nodes that are shown under their own names, a call that nothing is in the way of
  succeeds. -/
  served : c.Forthright → (∀ step ∈ steps, ¬ step.Disguises) → ∀ p ∈ c.performances steps,
    p.before.Unhindered p.scope p.call.kind → (∃ n, p.before.nodes[p.scope.node.name]? = some n) →
      ∃ shown, p.answer = .ok shown

namespace MemoryCluster

variable {c : MemoryCluster} {steps : List ClusterStep} {p : Performance}

/-- Every call of a run is made in the cluster that the steps before it lead to. -/
theorem exists_perform (h : p ∈ c.performances steps) :
    ∃ earlier scope call later, steps = earlier ++ .call scope call :: later ∧
      p = (c.atEnd earlier).perform scope call := by
  obtain ⟨k, found⟩ := List.mem_iff_getElem?.1 h
  obtain ⟨earlier, step, later, split, -, left⟩ := History.exists_input found
  cases step with
  | call scope call =>
    cases left
    exact ⟨earlier, scope, call, later, split, rfl⟩
  | event | wait => cases left

theorem called_of_mem (h : p ∈ c.performances steps) :
    p.before.Called p.scope p.call p.answer p.after := by
  obtain ⟨earlier, scope, call, -, -, rfl⟩ := exists_perform h
  exact called scope call _

/-- A table of nodes, with the cordon of one lifted if it is there. -/
def uncordoned (name : String) (nodes : Std.ExtTreeMap String NodeState) :
    Std.ExtTreeMap String NodeState :=
  match nodes[name]? with
  | some n => nodes.insert name n.uncordon
  | none => nodes

theorem happen_uncordon (name : String) (c : MemoryCluster) :
    c.happen (.uncordon name) = { c with nodes := uncordoned name c.nodes } := by
  cases found : c.nodes[name]? <;> simp [happen, uncordoned, found]

theorem happen_calls (e : ClusterEvent) (c : MemoryCluster) : (c.happen e).calls = c.calls := by
  cases e with
  | uncordon name => rw [happen_uncordon]
  | failNext | denyAll | setDelay | register | renameReads => rfl

theorem atEnd_calls (c : MemoryCluster) (steps : List ClusterStep) :
    (c.atEnd steps).calls = c.calls ++ (c.performances steps).map Performance.record := by
  refine History.records_invariant
    (R := fun (s : MemoryCluster) past => s.calls = c.calls ++ past.map Performance.record)
    (by simp) ?_ ?_
  · intro s step past logged silent
    cases step with
    | call => cases silent
    | event e => exact (happen_calls e s).trans logged
    | wait => exact logged
  · intro s step past p logged made
    cases step with
    | call scope call =>
      cases made
      have once : (s.perform scope call).after.calls = s.calls ++ [(s.perform scope call).record] :=
        (called scope call s).logged
      simp [advance, once, logged]
    | event | wait => cases made

/-! ### One queue for each kind -/

section
variable {scope : NodeScope} {call : ScopeCall} {answer : Answer}
  {left : List (CallKind × ClusterError)} {nodes : Std.ExtTreeMap String NodeState}

theorem Unhindered.takes (h : c.Unhindered scope call.kind) : c.takes call.kind = none := by
  have empty : c.waiting call.kind = [] := waitingFor_eq_nil_iff.2 h.unfailing
  simp [MemoryCluster.takes, empty]

/-- A call leaves all faults in wait, or it takes the oldest of its kind and fails with it. -/
theorem Course.taken (h : c.Course scope call answer left nodes) :
    (c.takes call.kind = none ∧ left = c.faults) ∨
      ∃ e, c.takes call.kind = some e ∧ answer = .error e ∧
        c.waiting call.kind = e :: waitingFor call.kind left ∧
        ∀ kind ≠ call.kind, waitingFor kind left = c.waiting kind := by
  cases h with
  | hindered cause =>
    cases cause with
    | denied denied => exact .inl ⟨by simp [takes, denied], rfl⟩
    | failed allowed split clear =>
      have found := waitingFor_of_takeFault (takeFault_eq_some_iff.2 ⟨_, _, split, clear, rfl⟩)
      have oldest : c.waiting call.kind = _ := found.1
      exact .inr ⟨_, by simp [takes, allowed, oldest], rfl, oldest, found.2⟩
    | late _ unfailing _ =>
      have empty : c.waiting call.kind = [] := waitingFor_eq_nil_iff.2 unfailing
      exact .inl ⟨by simp [takes, empty], rfl⟩
  | absent free | shown free | foreign free | changed free => exact .inl ⟨free.takes, rfl⟩

theorem Course.waitingFor_of_ne (h : c.Course scope call answer left nodes) {kind : CallKind}
    (ne : kind ≠ call.kind) : waitingFor kind left = c.waiting kind := by
  rcases h.taken with ⟨-, rfl⟩ | ⟨_, -, -, -, others⟩
  · rfl
  · exact others kind ne

/-- Only a call that succeeds changes the nodes. -/
theorem Course.nodes_of_error {e : ClusterError} (h : c.Course scope call (.error e) left nodes) :
    nodes = c.nodes := by
  cases h with
  | hindered | absent | foreign => rfl

/-- A call that nothing is in the way of, about a node that is there, succeeds. -/
theorem Course.ok (h : c.Course scope call answer left nodes) (forthright : c.Forthright)
    (free : c.Unhindered scope call.kind) {n : NodeState}
    (there : c.nodes[scope.node.name]? = some n) :
    ∃ shown, answer = .ok shown := by
  cases h with
  | hindered cause =>
    cases cause with
    | denied denied => simp [free.allowed] at denied
    | failed _ split _ =>
      have clear := free.unfailing
      rw [split] at clear
      exact absurd rfl (clear _ (List.mem_append_right _ List.mem_cons_self))
    | late _ _ late => exact absurd late (Nat.not_lt.2 free.inTime)
  | absent _ gone => simp [gone] at there
  | foreign _ _ found other =>
    have named := forthright.named _ _ found
    simp [forthright.undisguised, named] at other
  | shown => exact ⟨_, rfl⟩
  | changed => exact ⟨_, rfl⟩

theorem Course.named (h : c.Course scope call answer left nodes) (forthright : c.Forthright)
    {name : String} {n : NodeState} (found : nodes[name]? = some n) : n.name = name := by
  cases h with
  | hindered | absent | shown | foreign => exact forthright.named name n found
  | changed _ _ there makes others =>
    by_cases own : name = scope.node.name
    · rw [← own, found] at makes
      rw [own]
      exact makes.name_eq.trans (forthright.named _ _ there)
    · rw [others name own] at found
      exact forthright.named name n found

end

/-- What is injected for calls of a kind joins their queue at its end, and what such a call
takes leaves it at its head; nothing else moves it. -/
theorem advance_waiting (kind : CallKind) (c : MemoryCluster) (step : ClusterStep) :
    c.waiting kind ++ (step.injects kind).toList =
      (advance c step).2.toList.filterMap (·.uses kind) ++ (advance c step).1.waiting kind := by
  cases step with
  | call scope call =>
    have course := (called scope call c).course
    have silent : (ClusterStep.call scope call).injects kind = none := rfl
    by_cases same : call.kind = kind
    · subst same
      rcases course.taken with ⟨untaken, faults⟩ | ⟨e, taken, -, oldest, -⟩
      · simp [advance, perform, Performance.uses, silent, waiting, untaken, faults]
      · have next : c.waiting call.kind = e :: (c.perform scope call).after.waiting call.kind :=
          oldest
        simp [advance, perform, Performance.uses, silent, taken, next]
    · have others : (c.perform scope call).after.waiting kind = c.waiting kind :=
        course.waitingFor_of_ne (Ne.symm same)
      simp only [advance, silent, Option.toList_none, Option.toList_some, List.append_nil, others]
      simp [perform, Performance.uses, same]
  | event e =>
    cases e with
    | failNext k e =>
      by_cases same : k = kind <;>
        simp [advance, happen, ClusterStep.injects, waiting, waitingFor, same]
    | uncordon name => simp [advance, ClusterStep.injects, waiting, happen_uncordon]
    | denyAll | setDelay | register | renameReads =>
      simp [advance, happen, ClusterStep.injects, waiting]
  | wait ms => simp [advance, pass, ClusterStep.injects, waiting]

/-- So the queue of a kind is handed out from its head on, over a whole run. -/
theorem atEnd_waiting (kind : CallKind) (c : MemoryCluster) (steps : List ClusterStep) :
    c.waiting kind ++ steps.filterMap (·.injects kind) =
      (c.performances steps).filterMap (·.uses kind) ++ (c.atEnd steps).waiting kind := by
  induction steps generalizing c with
  | nil => simp [performances, atEnd, History.records, History.final]
  | cons step rest ih =>
    have first := advance_waiting kind c step
    have injected : (step :: rest).filterMap (·.injects kind) =
        (step.injects kind).toList ++ rest.filterMap (·.injects kind) := by
      cases h : step.injects kind <;> simp [h]
    calc c.waiting kind ++ (step :: rest).filterMap (·.injects kind)
      _ = (c.waiting kind ++ (step.injects kind).toList) ++ rest.filterMap (·.injects kind) := by
        rw [injected, List.append_assoc]
      _ = (advance c step).2.toList.filterMap (·.uses kind) ++
            ((advance c step).1.waiting kind ++ rest.filterMap (·.injects kind)) := by
        rw [first, List.append_assoc]
      _ = (advance c step).2.toList.filterMap (·.uses kind) ++
            ((performances (advance c step).1 rest).filterMap (·.uses kind) ++
              (atEnd (advance c step).1 rest).waiting kind) := by rw [ih]
      _ = _ := by
        rw [← List.append_assoc, ← List.filterMap_append]
        rfl

/-! ### Faults of several kinds, mingled -/

/-- A cluster with the same faults in wait for each kind, in the same order, but mingled in
another way. -/
def Remingled (d c : MemoryCluster) : Prop :=
  ∃ faults : List (CallKind × ClusterError), (∀ kind, waitingFor kind faults = c.waiting kind) ∧
    d = { c with faults := faults }

/-- What is done with two clusters comes to the same result, and to clusters that differ no
more than before. -/
def Matches {α : Type} (p q : α × MemoryCluster) : Prop := p.1 = q.1 ∧ p.2.Remingled q.2

section
variable {d : MemoryCluster}

theorem Remingled.start (h : d.Remingled c) (limit : Option Duration) (kind : CallKind)
    (name : String) :
    Matches (d.start limit kind name) (c.start limit kind name) := by
  obtain ⟨faults, same, rfl⟩ := h
  cases denied : c.denied with
  | true =>
    simp only [MemoryCluster.start, record, denied, if_true]
    exact ⟨rfl, faults, same, rfl⟩
  | false =>
    simp only [MemoryCluster.start, record, denied, if_false, Bool.false_eq_true]
    cases taken : takeFault kind c.faults with
    | none =>
      have untaken : takeFault kind faults = none := by
        have empty : c.waiting kind = [] := waitingFor_eq_nil_iff.2 (takeFault_eq_none_iff.1 taken)
        rw [takeFault_eq_none_iff, ← waitingFor_eq_nil_iff, same, empty]
      rw [untaken]
      exact ⟨rfl, faults, same, rfl⟩
    | some fault =>
      obtain ⟨e, others⟩ := fault
      obtain ⟨oldest, rest⟩ := waitingFor_of_takeFault taken
      cases taken' : takeFault kind faults with
      | none =>
        have empty : waitingFor kind faults = [] :=
          waitingFor_eq_nil_iff.2 (takeFault_eq_none_iff.1 taken')
        rw [same, waiting, oldest] at empty
        cases empty
      | some fault' =>
        obtain ⟨e', others'⟩ := fault'
        obtain ⟨oldest', rest'⟩ := waitingFor_of_takeFault taken'
        rw [same, waiting, oldest] at oldest'
        obtain ⟨rfl, next⟩ := List.cons.inj oldest'
        refine ⟨rfl, others', fun k => ?_, rfl⟩
        by_cases own : k = kind
        · rw [own]
          exact next.symm
        · exact (rest' k own).trans ((same k).trans (rest k own).symm)

theorem Remingled.pass (h : d.Remingled c) (ms : Nat) : (d.pass ms).Remingled (c.pass ms) := by
  obtain ⟨faults, same, rfl⟩ := h
  exact ⟨faults, same, rfl⟩

theorem Remingled.lookup (h : d.Remingled c) (name : String) : d.lookup name = c.lookup name := by
  obtain ⟨faults, same, rfl⟩ := h
  rfl

theorem Remingled.effect (h : d.Remingled c) (ch : NodeChange) (name : String) :
    Matches (d.effect ch name) (c.effect ch name) := by
  obtain ⟨faults, same, rfl⟩ := h
  unfold MemoryCluster.effect
  dsimp only
  split <;> exact ⟨rfl, faults, same, rfl⟩

theorem Remingled.happen (h : d.Remingled c) (e : ClusterEvent) :
    (d.happen e).Remingled (c.happen e) := by
  obtain ⟨faults, same, rfl⟩ := h
  cases e with
  | failNext kind e =>
    refine ⟨faults ++ [(kind, e)], fun k => ?_, rfl⟩
    rw [waitingFor_append, same, waiting, waiting, MemoryCluster.happen, waitingFor_append]
  | uncordon name =>
    rw [happen_uncordon, happen_uncordon]
    exact ⟨faults, same, rfl⟩
  | denyAll | setDelay | register | renameReads => exact ⟨faults, same, rfl⟩

theorem Remingled.get (h : d.Remingled c) (limit : Option Duration) (name : String) :
    Matches (d.get limit name) (c.get limit name) := by
  obtain ⟨begun, after⟩ := h.start limit .get name
  unfold MemoryCluster.get
  rcases started : c.start limit .get name with ⟨⟨ms, e | _⟩, c'⟩ <;>
    rcases started' : d.start limit .get name with ⟨⟨ms', result⟩, d'⟩ <;>
    rw [started, started'] at begun after <;> cases begun
  · exact ⟨rfl, after.pass ms⟩
  · exact ⟨(after.pass ms).lookup name, after.pass ms⟩

theorem Remingled.change (h : d.Remingled c) (limit : Option Duration) (ch : NodeChange)
    (name : String) :
    Matches (d.change limit ch name) (c.change limit ch name) := by
  obtain ⟨begun, after⟩ := h.start limit ch.kind name
  unfold MemoryCluster.change
  rcases started : c.start limit ch.kind name with ⟨⟨ms, e | _⟩, c'⟩ <;>
    rcases started' : d.start limit ch.kind name with ⟨⟨ms', result⟩, d'⟩ <;>
    rw [started, started'] at begun after <;> cases begun
  · exact ⟨rfl, after.pass ms⟩
  · exact (after.pass ms).effect ch name

theorem Remingled.call (h : d.Remingled c) (scope : NodeScope) (call : ScopeCall) :
    Matches (scope.call call d) (scope.call call c) := by
  cases call with
  | read =>
    obtain ⟨answer, after⟩ : Matches (scope.get d) (scope.get c) := by
      obtain ⟨answer, after⟩ := h.get (some scope.limit) scope.node.name
      simp only [NodeScope.get, ClusterApi.getNode]
      rcases got : c.get (some scope.limit) scope.node.name with ⟨_ | n, c'⟩ <;>
        rcases got' : d.get (some scope.limit) scope.node.name with ⟨answer', d'⟩ <;>
        rw [got, got'] at answer after <;> cases answer
      · exact ⟨rfl, after⟩
      · dsimp only
        split <;> exact ⟨rfl, after⟩
    exact ⟨congrArg (Except.map some) answer, after⟩
  | change ch =>
    obtain ⟨answer, after⟩ := h.change (some scope.limit) ch scope.node.name
    exact ⟨congrArg (Except.map fun _ => none) answer, after⟩

theorem Remingled.advance (h : d.Remingled c) (step : ClusterStep) :
    (advance d step).2.map Performance.answer = (advance c step).2.map Performance.answer ∧
      (advance d step).1.Remingled (advance c step).1 := by
  cases step with
  | call scope call => exact (h.call scope call).imp_left (congrArg some)
  | event e => exact ⟨rfl, h.happen e⟩
  | wait ms => exact ⟨rfl, h.pass ms⟩

/-- How faults of several kinds are mingled makes no difference to the answers of a run. -/
theorem Remingled.answers (h : d.Remingled c) (steps : List ClusterStep) :
    (d.performances steps).map Performance.answer =
      (c.performances steps).map Performance.answer := by
  induction steps generalizing c d with
  | nil => rfl
  | cons step rest ih =>
    obtain ⟨answer, after⟩ := h.advance step
    have later := ih after
    simp only [performances, History.records, List.map_append] at later ⊢
    rw [later, ← Option.toList_map, ← Option.toList_map, answer]

end

/-! ### Names -/

theorem named_insert {nodes : Std.ExtTreeMap String NodeState} {m : NodeState}
    (h : ∀ (name : String) (n : NodeState), nodes[name]? = some n → n.name = name) :
    ∀ (name : String) (n : NodeState), (nodes.insert m.name m)[name]? = some n → n.name = name := by
  intro name n found
  rw [Std.ExtTreeMap.getElem?_insert] at found
  split at found
  · rename_i same
    cases found
    exact Std.LawfulEqCmp.eq_of_compare same
  · exact h name n found

theorem Forthright.happen (h : c.Forthright) {e : ClusterEvent}
    (plain : ¬ (ClusterStep.event e).Disguises) :
    (c.happen e).Forthright := by
  cases e with
  | failNext | denyAll | setDelay => exact ⟨h.undisguised, h.named⟩
  | renameReads pseudonym =>
    cases pseudonym with
    | none => exact ⟨rfl, h.named⟩
    | some name => exact absurd ⟨name, rfl⟩ plain
  | register other => exact ⟨h.undisguised, named_insert (m := .registered other) h.named⟩
  | uncordon other =>
    rw [happen_uncordon]
    refine ⟨h.undisguised, ?_⟩
    unfold uncordoned
    split
    · rename_i n there
      obtain rfl := h.named other n there
      exact named_insert (m := n.uncordon) h.named
    · exact h.named

theorem Forthright.advance (h : c.Forthright) {step : ClusterStep} (plain : ¬ step.Disguises) :
    (advance c step).1.Forthright := by
  cases step with
  | call scope call =>
    have made := called scope call c
    exact ⟨made.pseudonym.trans h.undisguised, fun _ _ found => made.course.named h found⟩
  | event e => exact h.happen plain
  | wait ms => exact ⟨h.undisguised, h.named⟩

theorem Forthright.atEnd (h : c.Forthright) (plain : ∀ step ∈ steps, ¬ step.Disguises) :
    (c.atEnd steps).Forthright := by
  induction steps generalizing c with
  | nil => exact h
  | cons step rest ih =>
    obtain ⟨first, later⟩ := List.forall_mem_cons.1 plain
    exact ih (h.advance first) later

/-! ### Runs -/

theorem run_laws (c : MemoryCluster) (steps : List ClusterStep) : RunLaws c steps where
  called _ made := called_of_mem made
  logged := atEnd_calls c steps
  answered p made e taken := by
    rcases (called_of_mem made).course.taken with ⟨untaken, -⟩ | ⟨e', taken', answer, -, -⟩
    · rw [untaken] at taken
      cases taken
    · rw [taken'] at taken
      cases taken
      exact answer
  fifo kind := atEnd_waiting kind c steps
  apart p made kind ne := (called_of_mem made).course.waitingFor_of_ne ne
  mingled faults same := Remingled.answers ⟨faults, same, rfl⟩ steps
  atomic p made e failed := by
    have course := (called_of_mem made).course
    rw [failed] at course
    exact course.nodes_of_error
  served forthright plain p made free there := by
    have course := (called_of_mem made).course
    obtain ⟨earlier, scope, call, later, rfl, rfl⟩ := exists_perform made
    obtain ⟨n, there⟩ := there
    exact course.ok (forthright.atEnd fun step before => plain step (List.mem_append_left _ before))
      free there

end MemoryCluster

end NodeWarden
