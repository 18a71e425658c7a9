import NodeWarden.Launch.Run

/-!
# Agents at work

A launch puts its devices to use and sends its agent to work in its initial state. If it is to
evaluate once, the agent judges what the devices show (`Launch.Evaluated`). Else it runs its loop
until it is told to stop (`Launch.Watched`), provided that the machine knows how to reach a cluster.
-/

namespace NodeWarden.Launch

variable {σ : Type} [Machine σ] {l : Launch} {w w' : σ}

/-- The second machine is the first one with the devices of the launch in use and with more
notes. -/
def Equips (l : Launch) (w w' : σ) : Prop :=
  ∃ before after, w' = noteAll after (Machine.useDevices l.source (noteAll before w))

/-- What comes of an agent that evaluates once. -/
inductive Evaluated (l : Launch) (w : σ) : Except RunFault Unit × σ → Prop where
  | judged {w₁ w₂ : σ} {s : AgentState} {v : Verdict} : l.Equips w w₁ →
      l.agent.evaluateOnce (Schedule.devices w₁) l.agent.initial w₁ = (.ok v, s, w₂) →
      Evaluated l w (.ok (), note (LaunchNote.verdictReached v).entry w₂)
  | unsampled {w₁ w₂ : σ} {s : AgentState} {e : DeviceError} : l.Equips w w₁ →
      l.agent.evaluateOnce (Schedule.devices w₁) l.agent.initial w₁ = (.error e, s, w₂) →
      Evaluated l w (.error (.sampling e), w₂)

/-- What comes of an agent that is kept running, for no more than the given number of turns.
Before it is set up the cluster is asked for its health, but whatever that is the agent
runs. -/
inductive Watched (l : Launch) (limit : Nat) (w : σ) :
    Option (Except RunFault Unit × σ) → Prop where
  | unconnected : Machine.knowsCluster w = false → Watched l limit w (some (.error .noCluster, w))
  | stopped {w₁ : σ} {loop : AgentLoop σ} : Machine.knowsCluster w = true →
      l.Equips (Kubernetes.checkHealth (note LaunchNote.connected.entry w)).2 w₁ →
      l.agent.run limit l.agent.initial w₁ = some loop →
      Watched l limit w (some (.ok (), note LaunchNote.finished.entry loop.world))
  | unfinished {w₁ : σ} : Machine.knowsCluster w = true →
      l.Equips (Kubernetes.checkHealth (note LaunchNote.connected.entry w)).2 w₁ →
      l.agent.run limit l.agent.initial w₁ = none → Watched l limit w none

theorem Equips.note (h : l.Equips w w') (e : Log.Entry) : l.Equips w (note e w') := by
  obtain ⟨before, after, rfl⟩ := h
  exact ⟨before, after ++ [e], by simp [noteAll]⟩

/-- Setting the agent up puts the devices to use. -/
theorem setUp_equips (l : Launch) (notes : List Log.Entry) (w : σ) :
    l.Equips w (l.setUp (noteAll notes w)) := by
  have used : l.Equips w (Machine.useDevices l.source (noteAll notes w)) := ⟨notes, [], rfl⟩
  unfold setUp
  cases l.config.deviceKind with
  | nvidia => exact used.note _
  | mock => exact (used.note _).note _

theorem evaluate_evaluated (l : Launch) (w : σ) : l.Evaluated w (l.evaluate w) := by
  have equips := l.setUp_equips [LaunchNote.onlyOnce.entry] w
  change l.Equips w (l.setUp (tell .onlyOnce w)) at equips
  unfold evaluate
  dsimp only
  split
  · rename_i judged
    exact .judged equips judged
  · rename_i failed
    exact .unsampled equips failed

/-- Asking for the health of the cluster leaves nothing else than a note about it. -/
theorem checkHealth_eq (w : σ) :
    ∃ notes, checkHealth w = noteAll notes (Kubernetes.checkHealth w).2 := by
  unfold checkHealth
  split
  · rename_i well
    exact ⟨[], by rw [well]; rfl⟩
  · rename_i ill
    exact ⟨[(LaunchNote.unhealthy Kubernetes.healthMessage).entry], by rw [ill]; rfl⟩

theorem watch_watched (l : Launch) (limit : Nat) (w : σ) : l.Watched limit w (l.watch limit w) := by
  unfold watch
  by_cases known : Machine.knowsCluster w = true
  · obtain ⟨notes, asked⟩ := checkHealth_eq (tell .connected w)
    have equips : l.Equips (Kubernetes.checkHealth (note LaunchNote.connected.entry w)).2
        (l.setUp (checkHealth (tell .connected w))) := asked ▸ l.setUp_equips notes _
    rw [if_pos known]
    dsimp only
    generalize l.setUp (checkHealth (tell .connected w)) = w₁ at equips
    have served : l.Equips (Kubernetes.checkHealth (note LaunchNote.connected.entry w)).2
        (if l.config.metrics.enabled then tell (.servingMetrics l.config.metrics) w₁ else w₁) := by
      split
      · exact equips.note _
      · exact equips
    generalize (if l.config.metrics.enabled then tell (.servingMetrics l.config.metrics) w₁
      else w₁) = w₂ at served
    cases ran : l.agent.run limit l.agent.initial w₂ with
    | none => exact .unfinished known served ran
    | some loop => exact .stopped known served ran
  · rw [if_neg known]
    exact .unconnected (by simpa using known)

/-- Work never ends with a fault of the launch. -/
theorem Evaluated.ne_launch {r : Except RunFault Unit × σ} (h : l.Evaluated w r)
    (fault : LaunchFault) :
    r.1 ≠ .error (.launch fault) := by
  cases h <;> exact nofun

theorem Watched.ne_launch {limit : Nat} {r : Except RunFault Unit × σ}
    (h : l.Watched limit w (some r)) (fault : LaunchFault) : r.1 ≠ .error (.launch fault) := by
  cases h <;> exact nofun

end NodeWarden.Launch
