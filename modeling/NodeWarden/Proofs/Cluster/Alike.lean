import NodeWarden.Proofs.Cluster.Memory

/-!
# Clusters that are alike for a node

All that the answer to a call about a node depends on is that node, and what the cluster
does to calls whomever they are about. So two clusters that have the same node, do the same
to calls and have no fault in wait answer all further calls about it alike (`AlikeFor.get`,
`AlikeFor.change`), whatever else they have; and a call about another node leaves a cluster
alike to what it was (`alikeFor_of_get`, `alikeFor_of_change`).
-/

namespace NodeWarden.MemoryCluster

/-- The kinds of the calls about a node so far, the first one first. -/
def callsAbout (name : String) (c : MemoryCluster) : List CallKind :=
  (c.calls.filter (·.node = name)).map (·.kind)

/-- The clusters have the same node under the name, have logged the same calls about it, and
do the same to calls. Neither has a fault in wait, which a call about another node could use
up. -/
structure AlikeFor (name : String) (c d : MemoryCluster) : Prop where
  node : c.nodes[name]? = d.nodes[name]?
  calls : c.callsAbout name = d.callsAbout name
  faults : c.faults = []
  faults' : d.faults = []
  denied : c.denied = d.denied
  delay : c.delay = d.delay
  pseudonym : c.pseudonym = d.pseudonym

variable {name other : String} {c c' d e : MemoryCluster} {limit : Option Duration}
  {kind : CallKind}

/-- A call in a cluster that has no fault in wait is denied or takes its time. -/
theorem start_of_unfailing (unfailing : c.faults = []) :
    c.start limit kind name =
      (if c.denied then (0, .error (.permission s!"nodes {Text.quote name} is forbidden"))
        else c.latency limit, c.record kind name) := by
  cases denied : c.denied with
  | true => simp [start, record, denied]
  | false => simp [start, record, denied, unfailing, takeFault, latency]

theorem exists_start (unfailing : c.faults = []) (limit : Option Duration) (kind : CallKind)
    (name : String) :
    ∃ begun, c.start limit kind name = (begun, c.record kind name) :=
  ⟨_, start_of_unfailing unfailing⟩

namespace AlikeFor

theorem refl (unfailing : c.faults = []) : c.AlikeFor name c :=
  ⟨rfl, rfl, unfailing, unfailing, rfl, rfl, rfl⟩

theorem trans (h : c.AlikeFor name d) (h' : d.AlikeFor name e) : c.AlikeFor name e where
  node := h.node.trans h'.node
  calls := h.calls.trans h'.calls
  faults := h.faults
  faults' := h'.faults'
  denied := h.denied.trans h'.denied
  delay := h.delay.trans h'.delay
  pseudonym := h.pseudonym.trans h'.pseudonym

/-- The time does not matter. -/
theorem pass (h : c.AlikeFor name d) (ms ms' : Nat) : (c.pass ms).AlikeFor name (d.pass ms') :=
  ⟨h.node, h.calls, h.faults, h.faults', h.denied, h.delay, h.pseudonym⟩

theorem record (h : c.AlikeFor name d) (kind : CallKind) (asked : String) :
    (c.record kind asked).AlikeFor name (d.record kind asked) := by
  refine ⟨h.node, ?_, h.faults, h.faults', h.denied, h.delay, h.pseudonym⟩
  have same := h.calls
  unfold callsAbout at same
  by_cases own : asked = name <;>
    simp [callsAbout, MemoryCluster.record, List.filter_append, same, own]

/-- A call about the node begins in the same way. -/
theorem start (h : c.AlikeFor name d) (limit : Option Duration) (kind : CallKind) :
    ∃ begun, c.start limit kind name = (begun, c.record kind name) ∧
      d.start limit kind name = (begun, d.record kind name) := by
  refine ⟨_, start_of_unfailing h.faults, ?_⟩
  simp only [start_of_unfailing h.faults', h.denied, latency, h.delay]

theorem lookup (h : c.AlikeFor name d) : c.lookup name = d.lookup name := by
  rw [MemoryCluster.lookup, MemoryCluster.lookup, h.node, h.pseudonym]

theorem effect (h : c.AlikeFor name d) (ch : NodeChange) :
    (c.effect ch name).1 = (d.effect ch name).1 ∧
      (c.effect ch name).2.AlikeFor name (d.effect ch name).2 := by
  unfold MemoryCluster.effect
  rw [h.node]
  cases found : d.nodes[name]? with
  | none => exact ⟨rfl, h⟩
  | some n =>
    refine ⟨rfl, ?_, h.calls, h.faults, h.faults', h.denied, h.delay, h.pseudonym⟩
    cases ch <;> simp [changed]

/-- A read of the node has the same answer. -/
theorem get (h : c.AlikeFor name d) (limit : Option Duration) :
    (c.get limit name).1 = (d.get limit name).1 ∧
      (c.get limit name).2.AlikeFor name (d.get limit name).2 := by
  obtain ⟨⟨ms, begun⟩, begins, begins'⟩ := h.start limit .get
  have read := (h.record .get name).pass ms ms
  unfold MemoryCluster.get
  rw [begins, begins']
  cases begun with
  | error => exact ⟨rfl, read⟩
  | ok => exact ⟨read.lookup, read⟩

/-- A change of the node has the same answer, and the same effect on it. -/
theorem change (h : c.AlikeFor name d) (limit : Option Duration) (ch : NodeChange) :
    (c.change limit ch name).1 = (d.change limit ch name).1 ∧
      (c.change limit ch name).2.AlikeFor name (d.change limit ch name).2 := by
  obtain ⟨⟨ms, begun⟩, begins, begins'⟩ := h.start limit ch.kind
  have asked := (h.record ch.kind name).pass ms ms
  unfold MemoryCluster.change
  rw [begins, begins']
  cases begun with
  | error => exact ⟨rfl, asked⟩
  | ok => exact asked.effect ch

end AlikeFor

/-! ## Calls about another node -/

theorem alikeFor_of_record (kind : CallKind) (foreign : other ≠ name) (unfailing : c.faults = []) :
    (c.record kind other).AlikeFor name c := by
  refine ⟨rfl, ?_, unfailing, unfailing, rfl, rfl, rfl⟩
  simp [callsAbout, record, List.filter_append, foreign]

theorem alikeFor_of_effect (foreign : other ≠ name) (unfailing : c.faults = []) (ch : NodeChange) :
    (c.effect ch other).2.AlikeFor name c := by
  unfold effect
  split
  · exact ⟨getElem?_changed_of_ne foreign.symm ch _ _, rfl, unfailing, unfailing, rfl, rfl, rfl⟩
  · exact .refl unfailing

theorem alikeFor_of_get (foreign : other ≠ name) (unfailing : c.faults = []) :
    (c.get limit other).2.AlikeFor name c := by
  obtain ⟨⟨ms, begun⟩, begins⟩ := exists_start unfailing limit .get other
  have asked := (alikeFor_of_record .get foreign unfailing).pass ms 0
  unfold get
  rw [begins]
  cases begun with
  | error => exact asked
  | ok => exact asked

theorem alikeFor_of_change (foreign : other ≠ name) (unfailing : c.faults = []) (ch : NodeChange) :
    (c.change limit ch other).2.AlikeFor name c := by
  obtain ⟨⟨ms, begun⟩, begins⟩ := exists_start unfailing limit ch.kind other
  have asked := (alikeFor_of_record ch.kind foreign unfailing).pass ms 0
  unfold change
  rw [begins]
  cases begun with
  | error => exact asked
  | ok => exact (alikeFor_of_effect foreign asked.faults ch).trans asked

end NodeWarden.MemoryCluster
