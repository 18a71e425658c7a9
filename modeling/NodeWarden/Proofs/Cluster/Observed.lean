import NodeWarden.Cluster.Memory

/-!
# Observed worlds

A world in which calls are made can be observed: an observed world behaves as the world in it does,
and remembers every call together with its answer. So a theorem can speak of what was asked and of
what was answered, where the log of a cluster knows only that something was asked.
-/

namespace NodeWarden

/-- A call and its answer. -/
inductive Exchange where
  | read (node : String) (answer : Except ClusterError NodeState)
  | change (change : NodeChange) (node : String) (answer : Except ClusterError Unit)

namespace Exchange

def kind : Exchange → CallKind
  | read _ _ => .get
  | change c _ _ => c.kind

/-- The node that the call names. -/
def node : Exchange → String
  | read n _ => n
  | change _ n _ => n

/-- Whether the call is a cordon that succeeded. -/
def cordoned : Exchange → Bool
  | change .cordon _ (.ok ()) => true
  | _ => false

/-- Whether the call is a read that answered with the given node, and showed it unschedulable. -/
def showsCordon (name : String) : Exchange → Bool
  | read _ (.ok n) => n.name = name && n.unschedulable
  | _ => false

/-- Whether the call is a read that answered with the given node. -/
def finds (name : String) : Exchange → Bool
  | read _ (.ok n) => n.name = name
  | _ => false

theorem kind_of_cordoned {e : Exchange} (h : e.cordoned = true) : e.kind = .cordon := by
  unfold cordoned at h
  split at h
  · rfl
  · cases h

theorem finds_of_showsCordon {name : String} {e : Exchange} (h : e.showsCordon name = true) :
    e.finds name = true := by
  unfold showsCordon at h
  split at h
  · simp only [Bool.and_eq_true] at h
    exact h.1
  · cases h

end Exchange

/-- A world that remembers the calls made in it with their answers, the first one first. -/
structure Observed (σ : Type) where
  world : σ
  exchanges : List Exchange

namespace Observed

variable {σ : Type}

/-- A world in which no call has been observed. -/
def fresh (w : σ) : Observed σ := ⟨w, []⟩

instance [ClusterApi σ] : ClusterApi (Observed σ) where
  getNode limit name o :=
    let (answer, w) := ClusterApi.getNode limit name o.world
    (answer, ⟨w, o.exchanges ++ [.read name answer]⟩)
  changeNode limit change name o :=
    let (answer, w) := ClusterApi.changeNode limit change name o.world
    (answer, ⟨w, o.exchanges ++ [.change change name answer]⟩)

instance [Journal σ] : Journal (Observed σ) where
  note e o := { o with world := note e o.world }

instance [Clock σ] : Clock (Observed σ) where
  now o := Clock.now o.world
  stopwatch o := Clock.stopwatch o.world

@[simp] theorem fresh_exchanges (w : σ) : (fresh w).exchanges = [] := rfl

@[simp] theorem note_exchanges [Journal σ] (e : Log.Entry) (o : Observed σ) :
    (note e o).exchanges = o.exchanges := rfl

end Observed

namespace NodeScope

variable {σ : Type} [ClusterApi σ] (scope : NodeScope)

/-- What a scope makes of the answer to a read: one about another node is an error. -/
def accept : Except ClusterError NodeState → Except ClusterError NodeState
  | .ok n => if n.name = scope.node.name then .ok n
      else .error (.foreignNode n.name scope.node.name)
  | .error e => .error e

theorem accept_eq_ok {answer : Except ClusterError NodeState} {n : NodeState} :
    scope.accept answer = .ok n ↔ answer = .ok n ∧ n.name = scope.node.name := by
  cases answer with
  | error => simp [accept]
  | ok m =>
    simp only [accept, Except.ok.injEq]
    split
    · rename_i own
      constructor
      · intro same
        cases same
        exact ⟨rfl, own⟩
      · rintro ⟨rfl, -⟩
        rfl
    · rename_i foreign
      constructor
      · intro same
        cases same
      · rintro ⟨rfl, own⟩
        exact absurd own foreign

/-- A read that is not accepted has not found the node. -/
theorem finds_of_accept_eq_error {answer : Except ClusterError NodeState} {e : ClusterError}
    (h : scope.accept answer = .error e) (asked : String) :
    (Exchange.read asked answer).finds scope.node.name = false := by
  cases answer with
  | error => rfl
  | ok n =>
    simp only [accept] at h
    split at h
    · cases h
    · simpa [Exchange.finds]

theorem get_eq_accept (w : σ) :
    scope.get w = (scope.accept (ClusterApi.getNode scope.limit scope.node.name w).1,
      (ClusterApi.getNode scope.limit scope.node.name w).2) := by
  unfold get accept
  rcases ClusterApi.getNode scope.limit scope.node.name w with ⟨_ | n, w'⟩
  · rfl
  · by_cases own : n.name = scope.node.name <;> simp [own]

/-- A scope's read of an observed world is remembered with the answer that the world gave. -/
theorem get_observed (o : Observed σ) :
    ∃ answer w, scope.get o =
      (scope.accept answer, ⟨w, o.exchanges ++ [.read scope.node.name answer]⟩) :=
  ⟨_, _, scope.get_eq_accept o⟩

/-- So is a change. -/
theorem change_observed (c : NodeChange) (o : Observed σ) :
    ∃ answer w, scope.change c o =
      (answer, ⟨w, o.exchanges ++ [.change c scope.node.name answer]⟩) :=
  ⟨_, _, rfl⟩

end NodeScope

end NodeWarden
