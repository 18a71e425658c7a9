import NodeWarden.Proofs.Cluster.Memory

/-!
# Clusters with one call more

A call that changes nothing still takes its time and is logged. A cluster in which one was
made, and then the same happened as in another cluster, differs from that one in nothing but
the log and the time: the log has the call, and whatever comes after it comes so much later
(`Delayed`). All further calls have the same answers in both, and the clusters go on to
differ in nothing else (`Delayed.get`, `Delayed.change`, `Delayed.happen`).
-/

namespace NodeWarden

/-- The call, so much later. -/
def CallRecord.later (ms : Nat) (r : CallRecord) : CallRecord := { r with time := r.time + ms }

namespace MemoryCluster

/-- The first cluster is the second, but for a call that was made when the log was such, and
took its time. -/
def Delayed (past : List CallRecord) (extra : CallRecord) (ms : Nat) (d c : MemoryCluster) : Prop :=
  ∃ since, c.calls = past ++ since ∧
    d = { c with calls := past ++ extra :: since.map (.later ms), clock := c.clock + ms }

variable {past : List CallRecord} {extra : CallRecord} {ms : Nat} {c d c' : MemoryCluster}
  {name : String} {limit : Option Duration}

/-- What a read that finds the node does to the cluster. -/
theorem delayed_of_get_ok {n : NodeState} (got : c.get limit name = (.ok n, c')) :
    c'.Delayed c.calls ⟨c.clock, .get, name⟩ c.delay c := by
  unfold get at got
  rcases begun : c.start limit .get name with ⟨⟨t, e | _⟩, d⟩
  · rw [begun] at got
    cases got
  · obtain ⟨rfl, rfl⟩ := start_ok begun
    rw [begun] at got
    exact ⟨[], by simp, (congrArg Prod.snd got).symm⟩

namespace Delayed

theorem record (h : d.Delayed past extra ms c) (kind : CallKind) (name : String) :
    (d.record kind name).Delayed past extra ms (c.record kind name) := by
  obtain ⟨since, logged, rfl⟩ := h
  exact ⟨since ++ [⟨c.clock, kind, name⟩], by simp [MemoryCluster.record, logged],
    by simp [MemoryCluster.record, CallRecord.later]⟩

theorem pass (h : d.Delayed past extra ms c) (t : Nat) :
    (d.pass t).Delayed past extra ms (c.pass t) := by
  obtain ⟨since, logged, rfl⟩ := h
  exact ⟨since, logged, by simp [MemoryCluster.pass, Nat.add_right_comm]⟩

/-- A call begins in the same way. -/
theorem start (h : d.Delayed past extra ms c) (limit : Option Duration) (kind : CallKind)
    (name : String) :
    ∃ begun d' c', d.start limit kind name = (begun, d') ∧ c.start limit kind name = (begun, c') ∧
      d'.Delayed past extra ms c' := by
  have recorded := h.record kind name
  unfold MemoryCluster.start
  dsimp only
  generalize d.record kind name = d' at recorded
  generalize c.record kind name = c' at recorded
  obtain ⟨since, logged, rfl⟩ := recorded
  dsimp only
  split
  · exact ⟨_, _, _, rfl, rfl, since, logged, rfl⟩
  · split
    · exact ⟨_, _, _, rfl, rfl, since, logged, rfl⟩
    · exact ⟨_, _, _, rfl, rfl, since, logged, rfl⟩

theorem lookup (h : d.Delayed past extra ms c) (name : String) : d.lookup name = c.lookup name := by
  obtain ⟨since, -, rfl⟩ := h
  rfl

theorem effect (h : d.Delayed past extra ms c) (ch : NodeChange) (name : String) :
    (d.effect ch name).1 = (c.effect ch name).1 ∧
      (d.effect ch name).2.Delayed past extra ms (c.effect ch name).2 := by
  obtain ⟨since, logged, rfl⟩ := h
  unfold MemoryCluster.effect
  dsimp only
  split
  · exact ⟨rfl, since, logged, rfl⟩
  · exact ⟨rfl, since, logged, rfl⟩

/-- A read has the same answer. -/
theorem get (h : d.Delayed past extra ms c) (limit : Option Duration) (name : String) :
    (d.get limit name).1 = (c.get limit name).1 ∧
      (d.get limit name).2.Delayed past extra ms (c.get limit name).2 := by
  obtain ⟨⟨t, begun⟩, d', c', begins, begins', started⟩ := h.start limit .get name
  unfold MemoryCluster.get
  rw [begins, begins']
  cases begun with
  | error e => exact ⟨rfl, started.pass t⟩
  | ok =>
    exact ⟨(started.pass t).lookup name, started.pass t⟩

/-- So has a change. -/
theorem change (h : d.Delayed past extra ms c) (limit : Option Duration) (ch : NodeChange)
    (name : String) :
    (d.change limit ch name).1 = (c.change limit ch name).1 ∧
      (d.change limit ch name).2.Delayed past extra ms (c.change limit ch name).2 := by
  obtain ⟨⟨t, begun⟩, d', c', begins, begins', started⟩ := h.start limit ch.kind name
  unfold MemoryCluster.change
  rw [begins, begins']
  cases begun with
  | error e => exact ⟨rfl, started.pass t⟩
  | ok =>
    exact (started.pass t).effect ch name

/-- Whatever happens to both clusters, the second goes on to be the first but for that call. -/
theorem happen (h : d.Delayed past extra ms c) (e : ClusterEvent) :
    (d.happen e).Delayed past extra ms (c.happen e) := by
  obtain ⟨since, logged, rfl⟩ := h
  cases e with
  | uncordon name =>
    simp only [MemoryCluster.happen]
    split
    · exact ⟨since, logged, rfl⟩
    · exact ⟨since, logged, rfl⟩
  | failNext | denyAll | setDelay | register | renameReads => exact ⟨since, logged, rfl⟩

end Delayed

end MemoryCluster

end NodeWarden
