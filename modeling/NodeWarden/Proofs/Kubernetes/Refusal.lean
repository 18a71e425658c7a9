import NodeWarden.Kubernetes.Client

/-!
# Refusals of the API

The errors of a cluster are of two sorts: those that may pass, and those after which an
agent acts no more. Behind the client of an API server the second sort has one member. The
server's answer says that the agent has not the right to the call, with code 401 or 403
(`Failure.Refuses`). So it is with every call (`getNode_judged`, `changeNode_judged`): it
has that error exactly if the server refuses it, and any other error may pass.
-/

namespace NodeWarden.Kubernetes

/-- The server answers that the agent has not the right, in the given words. -/
def Failure.Refuses (f : Failure) (words : String) : Prop :=
  ∃ r, f = .response r ∧ r.message = words ∧ (r.code = 401 ∨ r.code = 403)

/-- The errors of what somebody refuses in some words: a refusal is told in these words, and
no other error is final. -/
structure Judged {α : Type} (refused : String → Prop) (result : Except ClusterError α) : Prop where
  permission : ∀ words, result = .error (.permission words) ↔ refused words
  transient : ∀ e, result = .error e → (∀ words, ¬ refused words) → e.isTransient = true

/-- A success tells of no refusal. -/
theorem Judged.ok {α : Type} {refused : String → Prop} (a : α)
    (granted : ∀ words, ¬ refused words) :
    Judged refused (.ok a) where
  permission words := ⟨nofun, fun h => absurd h (granted words)⟩
  transient := nofun

/-- Nor does an error that may pass. -/
theorem Judged.passing {α : Type} {refused : String → Prop} {e : ClusterError}
    (transient : e.isTransient = true) (granted : ∀ words, ¬ refused words) :
    Judged refused (.error e : Except ClusterError α) where
  permission words := by
    refine ⟨fun same => ?_, fun h => absurd h (granted words)⟩
    cases same
    cases transient
  transient := by
    rintro _ ⟨⟩ -
    exact transient

/-- Only the error matters. -/
theorem Judged.of_error {α β : Type} {refused : String → Prop} {p : Except ClusterError α}
    {q : Except ClusterError β} (h : Judged refused p) (same : ∀ e, q = .error e ↔ p = .error e) :
    Judged refused q where
  permission words := (same _).trans (h.permission words)
  transient e failed := h.transient e ((same e).1 failed)

/-! ## Failures -/

theorem Failure.classify_response_judged {α : Type} (r : ErrorResponse) :
    Judged (Failure.response r).Refuses
      (.error (Failure.response r).classify : Except ClusterError α) := by
  by_cases rights : r.code = 401 ∨ r.code = 403
  · refine ⟨fun words => ?_, fun _ _ granted => absurd ⟨r, rfl, rfl, rights⟩ (granted r.message)⟩
    simp [classify, Refuses, rights]
  · have granted (words : String) : ¬ (Failure.response r).Refuses words := by
      rintro ⟨_, ⟨⟩, -, refused⟩
      exact rights refused
    refine .passing ?_ granted
    by_cases absent : r.code = 404 <;> simp [classify, rights, absent, ClusterError.isTransient]

/-- A failure is taken for a refusal if it is one, and otherwise it may pass. -/
theorem Failure.classify_judged {α : Type} (f : Failure) :
    Judged f.Refuses (.error f.classify : Except ClusterError α) := by
  cases f with
  | response r => exact classify_response_judged r
  | connection | request | unreadable | lineTooLong | events | encryption =>
    exact .passing rfl (by simp [Refuses])

/-! ## Calls -/

/-- The server's answer refuses what was asked for. -/
def Response.Refuses (a : Response) (words : String) : Prop :=
  ∃ f : Failure, a.success = .error f ∧ f.Refuses words

section
variable {σ : Type} [HttpTransport σ]

/-- The request is sent, and the server refuses it. -/
def Refused (limit : Option Duration) (r : Request) (w : σ) (words : String) : Prop :=
  ∃ target answer w', sentTarget? r.target = some target ∧
    HttpTransport.exchange limit { r with target := target } w = (.ok answer, w') ∧
    answer.Refuses words

/-- A call judges its answer, if what it reads out of one cannot refuse anything. -/
theorem call_judged {α : Type} (limit : Option Duration) (r : Request)
    (read : String → Except Failure α) (reads : ∀ body f, read body = .error f → f = .unreadable)
    (w : σ) :
    Judged (Refused limit r w) (call limit r read w).1 := by
  unfold call
  cases sent : sentTarget? r.target with
  | none => exact .passing rfl (by simp [Refused, sent])
  | some target =>
    rcases travelled : HttpTransport.exchange limit { r with target := target } w
      with ⟨fault | answer, w'⟩
    · have granted (words : String) : ¬ Refused limit r w words := by
        simp [Refused, sent, travelled]
      cases fault with
      | connection => simpa [travelled] using .passing rfl granted
      | timeout => simpa [travelled] using .passing rfl granted
    · have refused : Refused limit r w = answer.Refuses := by
        funext words
        simp [Refused, sent, travelled]
      simp only [travelled, refused]
      cases told : answer.success with
      | error f =>
        have same : answer.Refuses = f.Refuses := by
          funext words
          simp [Response.Refuses, told]
        rw [same]
        exact f.classify_judged
      | ok body =>
        have granted (words : String) : ¬ answer.Refuses words := by simp [Response.Refuses, told]
        show Judged answer.Refuses ((read body).mapError Failure.classify)
        cases found : read body with
        | ok a => exact .ok a granted
        | error f =>
          cases reads body f found
          exact .passing rfl granted

theorem readNode_error {body : String} {f : Failure} (h : readNode body = .error f) :
    f = .unreadable := by
  unfold readNode at h
  split at h <;> cases h
  rfl

theorem readDeletion_error {body : String} {f : Failure} (h : readDeletion body = .error f) :
    f = .unreadable := by
  unfold readDeletion at h
  generalize Json.parse? body = parsed at h
  cases parsed with
  | none =>
    cases h
    rfl
  | some object =>
    simp only at h
    generalize Schema.accepts _ object = accepted at h
    cases accepted with
    | false =>
      cases h
      rfl
    | true => cases h

theorem readChange_error {c : NodeChange} {body : String} {f : Failure}
    (h : readChange c body = .error f) :
    f = .unreadable := by
  cases c with
  | delete => exact readDeletion_error h
  | cordon | label =>
    simp only [readChange] at h
    cases found : readNode body with
    | ok =>
      rw [found] at h
      cases h
    | error g =>
      rw [found] at h
      cases h
      exact readNode_error found

variable [Journal σ]

/-- A read is refused exactly if the server refuses it, and any other error of it may pass. -/
theorem getNode_judged (limit : Option Duration) (name : String) (w : σ) :
    Judged (Refused limit (getRequest name) w) (getNode limit name w).1 := by
  have judged := call_judged limit (getRequest name) readNode (fun _ _ => readNode_error) w
  refine judged.of_error fun e => ?_
  unfold getNode
  split <;> simp [*]

/-- So is a change. -/
theorem changeNode_judged (limit : Option Duration) (c : NodeChange) (name : String) (w : σ) :
    Judged (Refused limit (changeRequest name c) w) (changeNode limit c name w).1 := by
  have judged :=
    call_judged limit (changeRequest name c) (readChange c) (fun _ _ => readChange_error) w
  refine judged.of_error fun e => ?_
  unfold changeNode
  split <;> simp [*]

end

end NodeWarden.Kubernetes
