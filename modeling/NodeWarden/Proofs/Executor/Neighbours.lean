import Mathlib.Logic.Function.Basic
import NodeWarden.Proofs.Cluster.Alike
import NodeWarden.Proofs.Executor.Effect
import NodeWarden.Proofs.Executor.Run

/-!
# Neighbours

Executors of different nodes can share a cluster, and apply their verdicts in any order.
None of them notices the others (`neighbours_apart`): an application by one leaves the
cluster alike for the nodes of the others (`Answered.alikeFor`), and what is alike for its
node has an executor do alike (`AlikeFor.unnoticed`). So each goes on as if it were alone in
the cluster (`inStep_of_alike`).
-/

namespace NodeWarden

/-- The entries of one party, the first one first. -/
def ownEntries {ι α : Type} [DecidableEq ι] (i : ι) (entries : List (ι × α)) : List α :=
  entries.filterMap fun entry => if entry.1 = i then some entry.2 else none

section Entries

variable {ι α : Type} [DecidableEq ι] {i j : ι} {entries : List (ι × α)}

@[simp] theorem ownEntries_nil : ownEntries i ([] : List (ι × α)) = [] := rfl

@[simp] theorem ownEntries_cons_self (a : α) :
    ownEntries i ((i, a) :: entries) = a :: ownEntries i entries := by
  simp [ownEntries]

theorem ownEntries_cons_of_ne (other : j ≠ i) (a : α) :
    ownEntries i ((j, a) :: entries) = ownEntries i entries := by
  simp [ownEntries, other]

end Entries

namespace MemoryCluster

variable {scope : NodeScope} {c c' : MemoryCluster} {xs : List Exchange} {name : String}

/-- A scope is blind to all that does not concern its node. -/
theorem AlikeFor.unnoticed (scope : NodeScope) : scope.BlindTo (AlikeFor scope.node.name) where
  getNode h := h.get (some scope.limit)
  change ch h := h.change (some scope.limit) ch
  note _ h := h

/-- The calls of a scope leave the cluster alike for every other node. -/
theorem Answered.alikeFor (h : c.Answered scope xs c') (foreign : scope.node.name ≠ name)
    (unfailing : c.faults = []) : c'.AlikeFor name c := by
  induction h with
  | nil => exact .refl unfailing
  | read got _ ih =>
    have read : (MemoryCluster.get (some scope.limit) scope.node.name _).2.AlikeFor name _ :=
      alikeFor_of_get foreign unfailing
    rw [got] at read
    exact (ih read.faults).trans read
  | @change _ _ _ ch _ _ made _ ih =>
    have changed :
        (MemoryCluster.change (some scope.limit) ch scope.node.name _).2.AlikeFor name _ :=
      alikeFor_of_change foreign unfailing ch
    rw [made] at changed
    exact (ih changed.faults).trans changed

end MemoryCluster

namespace Executor

variable {ι : Type} [DecidableEq ι] {xs : ι → Executor} {i j : ι} {start : ι → ExecutorState}
  {s : ExecutorState} {c d : MemoryCluster}

/-- One step of executors that share a cluster: one of them applies a verdict. -/
def advanceAmong (xs : ι → Executor) (st : (ι → ExecutorState) × MemoryCluster)
    (step : ι × Verdict) :
    ((ι → ExecutorState) × MemoryCluster) × Option (ι × Application) :=
  let (i, v) := step
  let (_, s, c) := (xs i).apply v (st.1 i) st.2
  ((Function.update st.1 i s, c), some (i, (xs i).application v (st.1 i) st.2))

/-- What a run comes to for one executor. -/
structure Account where
  applications : List Application
  /-- What the executor remembers in the end. -/
  memory : ExecutorState
  /-- The calls about its node that the cluster has logged, whoever made them. -/
  calls : List CallKind
  node : Option NodeState

def account (x : Executor) (past : List Application) (st : ExecutorState × MemoryCluster) :
    Account :=
  ⟨past, st.1, st.2.callsAbout x.scope.node.name, st.2.nodes[x.scope.node.name]?⟩

/-- What it comes to for an executor to apply verdicts alone. -/
def accountAlone (x : Executor) (s : ExecutorState) (c : MemoryCluster) (vs : List Verdict) :
    Account :=
  let steps := vs.map .apply
  x.account (History.records x.advance (s, c) steps) (History.final x.advance (s, c) steps)

/-- What it comes to for one of the executors that share a cluster. -/
def accountAmong (xs : ι → Executor) (i : ι) (start : ι → ExecutorState) (c : MemoryCluster)
    (steps : List (ι × Verdict)) : Account :=
  let st := History.final (advanceAmong xs) (start, c) steps
  (xs i).account (ownEntries i (History.records (advanceAmong xs) (start, c) steps)) (st.1 i, st.2)

/-- What another executor does leaves the cluster alike. -/
theorem advanceAmong_of_ne (start : ι → ExecutorState)
    (apart : (xs j).scope.node.name ≠ (xs i).scope.node.name)
    (h : c.AlikeFor (xs i).scope.node.name d) (v : Verdict) :
    (advanceAmong xs (start, c) (j, v)).1.2.AlikeFor (xs i).scope.node.name d :=
  (application_answered.alikeFor apart h.faults).trans h

/-- What the executor itself does is what it would do alone. -/
theorem advanceAmong_self (start : ι → ExecutorState) (h : c.AlikeFor (xs i).scope.node.name d)
    (v : Verdict) :
    (advanceAmong xs (start, c) (i, v)).2 = some (i, (xs i).application v (start i) d) ∧
      (advanceAmong xs (start, c) (i, v)).1.1 i = ((xs i).advance (start i, d) (.apply v)).1.1 ∧
      (advanceAmong xs (start, c) (i, v)).1.2.AlikeFor (xs i).scope.node.name
        ((xs i).advance (start i, d) (.apply v)).1.2 := by
  have blind := MemoryCluster.AlikeFor.unnoticed (xs i).scope
  obtain ⟨same, alike⟩ := application_agrees (v := v) (s := start i) blind h
  obtain ⟨-, state, -⟩ := apply_agrees blind.respects h v (start i)
  refine ⟨congrArg (fun a => some (i, a)) same, ?_, alike⟩
  show Function.update start i ((xs i).apply v (start i) c).2.1 i = _
  rw [Function.update_self]
  exact state

/-- The executor goes on among the others as it would alone, from clusters that are alike
for its node. -/
theorem inStep_of_alike (apart : ∀ j, j ≠ i → (xs j).scope.node.name ≠ (xs i).scope.node.name)
    (h : c.AlikeFor (xs i).scope.node.name d) (same : start i = s) (steps : List (ι × Verdict)) :
    ownEntries i (History.records (advanceAmong xs) (start, c) steps) =
        History.records (xs i).advance (s, d) ((ownEntries i steps).map .apply) ∧
      (History.final (advanceAmong xs) (start, c) steps).1 i =
        (History.final (xs i).advance (s, d) ((ownEntries i steps).map .apply)).1 ∧
      (History.final (advanceAmong xs) (start, c) steps).2.AlikeFor (xs i).scope.node.name
        (History.final (xs i).advance (s, d) ((ownEntries i steps).map .apply)).2 := by
  induction steps generalizing start s c d with
  | nil => exact ⟨rfl, same, h⟩
  | cons step rest ih =>
    obtain ⟨j, v⟩ := step
    by_cases own : j = i
    · subst own same
      obtain ⟨record, state, alike⟩ := advanceAmong_self start h v
      obtain ⟨later, ends⟩ := ih alike state
      rw [History.records_cons_of_some record, ownEntries_cons_self,
        ownEntries_cons_self, List.map_cons, History.records_cons_of_some rfl, later]
      exact ⟨rfl, ends⟩
    · have kept : (advanceAmong xs (start, c) (j, v)).1.1 i = s :=
        (Function.update_of_ne (Ne.symm own) _ start).trans same
      obtain ⟨later, ends⟩ := ih (advanceAmong_of_ne start (apart j own) h v) kept
      rw [History.records_cons_of_some rfl, ownEntries_cons_of_ne own, ownEntries_cons_of_ne own]
      exact ⟨later, ends⟩

/-- Executors of different nodes that share a cluster do not interfere: what it comes to for
each of them, from whatever states they start, is what it comes to alone, so it does not
depend on how their applications alternate. -/
theorem neighbours_apart (apart : Function.Injective fun i => (xs i).scope.node)
    (unfailing : c.faults = []) (start : ι → ExecutorState) (steps : List (ι × Verdict)) (i : ι) :
    accountAmong xs i start c steps = (xs i).accountAlone (start i) c (ownEntries i steps) ∧
      ∀ steps', ownEntries i steps' = ownEntries i steps →
        accountAmong xs i start c steps' = accountAmong xs i start c steps := by
  have others : ∀ j, j ≠ i → (xs j).scope.node.name ≠ (xs i).scope.node.name :=
    fun j other same => other (apart (congrArg NodeIdentity.mk same))
  have alone (steps : List (ι × Verdict)) :
      accountAmong xs i start c steps = (xs i).accountAlone (start i) c (ownEntries i steps) := by
    obtain ⟨records, state, alike⟩ :=
      inStep_of_alike others (.refl unfailing) (Eq.refl (start i)) steps
    simp only [accountAmong, accountAlone, account, records, state, alike.calls, alike.node]
  exact ⟨alone steps, fun steps' same => by rw [alone, alone, same]⟩

/-- An executor of node-a that publishes scores, and one of node-b that does not. -/
def neighbours (first : Bool) : Executor :=
  { trial first with scope := ⟨⟨if first then "node-a" else "node-b"⟩, .ofMillis 1000⟩ }

/-- The first cordons its node and deletes it, whatever the second does with its own in between. -/
theorem neighbours_apart_trial :
    let c := MemoryCluster.withNodes ["node-a", "node-b"]
    let account := accountAmong neighbours true (fun _ => .initial) c
      [(true, .trial .cordon), (false, .trial .none), (true, .trial .delete),
        (false, .trial .cordon)]
    account = (neighbours true).accountAlone .initial c [.trial .cordon, .trial .delete] ∧
      (account.applications.map fun a => a.result.toOption) = [some .cordoned, some .deleted] ∧
      account.calls = [.get, .cordon, .updateLabels, .get, .delete] := by
  intro c account
  have apart : ∀ i j, (neighbours i).scope.node = (neighbours j).scope.node → i = j := by decide
  obtain ⟨alone, -⟩ := neighbours_apart apart (rfl : c.faults = []) (fun _ => .initial)
    [(true, .trial .cordon), (false, .trial .none), (true, .trial .delete), (false, .trial .cordon)]
      true
  exact ⟨alone, by decide +kernel, by decide +kernel⟩

end Executor

end NodeWarden
