import NodeWarden.Proofs.Lists
import NodeWarden.Sample

/-!
# What sampling comes to

Sampling passes over the devices four times: it admits them, looks for those that the mask
names in vain, reads them and checks what was read. The first pass that finds a fault ends
it. `Sampled` says what that comes to, case by case and with the questions that the backend
is asked; a case holds only if no earlier one does, so that every backend and mask fall
under one of them (`sampled_iff`). The questions are those of the same sampler, asked in a
computation that notes them (`takeNoted`), which comes to the same (`takeNoted_comesTo`).
-/

namespace NodeWarden

/-! ## Masks -/

namespace VisibleDevices

/-- The entries of a mask, if it is a list. -/
def entries : VisibleDevices → List String
  | list es => es
  | _ => []

/-- The unique ids on a mask that none of the devices has, in the order of the mask. -/
def unknownIds (mask : VisibleDevices) (devices : List DeviceId) : List String :=
  mask.entries.filter fun e => decide ("GPU-".toList <+: e.toList ∧ ∀ d ∈ devices, d.uuid ≠ some e)

variable {mask : VisibleDevices} {d : DeviceId}

theorem isUniqueId_iff {e : String} : isUniqueId e = true ↔ "GPU-".toList <+: e.toList :=
  List.isPrefixOf_iff_prefix

theorem missing_eq_unknownIds (mask : VisibleDevices) (devices : List DeviceId) :
    mask.missing devices = mask.unknownIds devices := by
  cases mask with
  | all | none => rfl
  | list es =>
    refine List.filter_congr fun e _ => ?_
    rw [Bool.eq_iff_iff]
    simp [isUniqueId_iff, matchesDevice]

/-- A mask admits every device, or those whose unique id is on its list. An index stands for
every device. -/
theorem admits_iff : mask.admits d = true ↔
    mask = .all ∨ (∃ e ∈ mask.entries, ¬ "GPU-".toList <+: e.toList) ∨
    ∃ e ∈ mask.entries, d.uuid = some e := by
  cases mask with
  | all | none => simp [admits, entries]
  | list es =>
    simp only [← isUniqueId_iff]
    simp [admits, entries, matchesDevice]

end VisibleDevices

/-! ## Questions -/

/-- A question to a backend. -/
inductive DeviceQuery where
  | listing
  | reading (device : DeviceId)
deriving DecidableEq

/-- Computations that note what they ask a backend, the first question first. -/
abbrev Noting := ExceptT DeviceError (StateM (List DeviceQuery))

namespace Noting

variable {α β : Type} {x : Noting α} {f : α → Noting β} {past past' : List DeviceQuery}

theorem bind_of_ok {a : α} (h : x.run.run past = (.ok a, past')) :
    (x >>= f).run.run past = (f a).run.run past' := by
  rw [ExceptT.run_bind, StateT.run_bind, h]
  rfl

theorem bind_of_error {e : DeviceError} (h : x.run.run past = (.error e, past')) :
    (x >>= f).run.run past = (.error e, past') := by
  rw [ExceptT.run_bind, StateT.run_bind, h]
  rfl

/-- A computation comes to this, whatever was asked before. -/
def ComesTo (x : Noting α) (y : Except DeviceError α) : Prop := ∀ past, (x.run.run past).1 = y

theorem ComesTo.bind {y : Except DeviceError α} {g : α → Except DeviceError β} (h : x.ComesTo y)
    (next : ∀ a, (f a).ComesTo (g a)) : (x >>= f).ComesTo (y >>= g) := by
  intro past
  rcases ran : x.run.run past with ⟨e | a, past'⟩
  · rw [bind_of_error ran, ← h past, ran]
    rfl
  · rw [bind_of_ok ran, ← h past, ran]
    exact next a past'

end Noting

namespace DeviceBackend

/-- Asks a backend for its devices. -/
def listNoted (b : DeviceBackend) : Noting (List DeviceId) :=
  .mk fun past => (b.list, past ++ [.listing])

/-- Asks a backend for the memory of a device. -/
def readNoted (b : DeviceBackend) (d : DeviceId) : Noting MemoryReading :=
  .mk fun past => (b.read d, past ++ [.reading d])

theorem listNoted_run {b : DeviceBackend} {answer : Except DeviceError (List DeviceId)}
    (h : b.list = answer) (past : List DeviceQuery) :
    b.listNoted.run.run past = (answer, past ++ [.listing]) :=
  congrArg (·, _) h

theorem readNoted_run {b : DeviceBackend} {d : DeviceId} {answer : Except DeviceError MemoryReading}
    (h : b.read d = answer) (past : List DeviceQuery) :
    (b.readNoted d).run.run past = (answer, past ++ [.reading d]) :=
  congrArg (·, _) h

end DeviceBackend

namespace SampleSet

/-- Samples the devices that the mask admits, and notes what the backend is asked for that. -/
def takeNoted (backend : DeviceBackend) (nodeName : String) (mask : VisibleDevices)
    (moment : Timestamp) : Noting SampleSet :=
  takeFrom backend.listNoted backend.readNoted nodeName mask moment

/-- What the backend is asked when samples are taken. -/
def queries (backend : DeviceBackend) (nodeName : String) (mask : VisibleDevices)
    (moment : Timestamp) :
    List DeviceQuery :=
  ((takeNoted backend nodeName mask moment).run.run []).2

variable {backend : DeviceBackend} {nodeName : String} {mask : VisibleDevices} {moment : Timestamp}
  {devices : List DeviceId}

/-! ## The passes -/

/-- Reading a device fails. -/
def Unreadable (backend : DeviceBackend) (d : DeviceId) : Prop := ∃ e, backend.read d = .error e

/-- What was read of a device makes no sense. -/
def Senseless (backend : DeviceBackend) (d : DeviceId) : Prop :=
  ∃ r, backend.read d = .ok r ∧ (r.total = 0 ∨ r.total < r.free)

/-- The devices are read, one reading for each. -/
theorem readAll_of_clear (clear : ∀ d ∈ devices, ¬ Unreadable backend d) :
    ∃ rs, readAll backend.read devices = .ok rs ∧
      List.Forall₂ (fun d r => r.1 = d ∧ backend.read d = .ok r.2) devices rs := by
  induction devices with
  | nil => exact ⟨[], rfl, .nil⟩
  | cons d ds ih =>
    obtain ⟨readable, clear⟩ := List.forall_mem_cons.1 clear
    obtain ⟨rs, rest, all⟩ := ih clear
    cases read : backend.read d with
    | error e => exact absurd ⟨e, read⟩ readable
    | ok r => exact ⟨(d, r) :: rs,
        by simp [readAll, read, rest, bind, Except.bind, pure, Except.pure], .cons ⟨rfl, read⟩ all⟩

/-- A sample of a device: its key, its index, its own reading, and the moment. -/
structure SampleOf (backend : DeviceBackend) (moment : Timestamp) (d : DeviceId)
    (s : DeviceSample) : Prop where
  deviceId : s.deviceId = d.key
  index : s.index = d.index
  reading : backend.read d = .ok ⟨s.total, s.free⟩
  sampledAt : s.sampledAt = moment

theorem ofReadings_eq (readings : List (DeviceId × MemoryReading)) :
    ofReadings nodeName mask moment readings =
      (samplesOf moment readings).map fun samples => ⟨nodeName, mask, moment, samples⟩ := by
  unfold ofReadings
  cases samplesOf moment readings <;> rfl

/-- A device has one sample at a moment. -/
theorem SampleOf.unique {d : DeviceId} {s s' : DeviceSample} (h : SampleOf backend moment d s)
    (h' : SampleOf backend moment d s') : s = s' := by
  obtain ⟨id, index, total, free, at', _, _⟩ := s
  obtain ⟨id', index', total', free', at'', _, _⟩ := s'
  obtain ⟨rfl, rfl, read, rfl⟩ := h
  obtain ⟨rfl, rfl, read', rfl⟩ := h'
  cases read.symm.trans read'
  rfl

/-- So have several. -/
theorem samples_unique {samples samples' : List DeviceSample}
    (h : List.Forall₂ (SampleOf backend moment) devices samples)
    (h' : List.Forall₂ (SampleOf backend moment) devices samples') : samples = samples' := by
  induction h generalizing samples' with
  | nil =>
    cases h'
    rfl
  | cons one _ ih =>
    cases h' with
    | cons one' rest' => rw [one.unique one', ih rest']

theorem ofReading_eq_ok {d : DeviceId} {r : MemoryReading} {s : DeviceSample}
    (read : backend.read d = .ok r) (h : DeviceSample.ofReading d r moment = .ok s) :
    SampleOf backend moment d s := by
  unfold DeviceSample.ofReading at h
  split at h
  · cases h
    exact ⟨rfl, rfl, read, rfl⟩
  · cases h

theorem ofReading_of_senseless {d : DeviceId} {r : MemoryReading}
    (senseless : r.total = 0 ∨ r.total < r.free) :
    DeviceSample.ofReading d r moment = .error (.inconsistent d.key r.free r.total) := by
  unfold DeviceSample.ofReading
  rw [dif_neg]
  rintro ⟨some, within⟩
  rcases senseless with none | above
  · simp [none] at some
  · exact absurd within (UInt64.not_le.2 above)

/-- A reading that cannot be sampled makes no sense. -/
theorem senseless_of_error {d : DeviceId} {r : MemoryReading} {e : DeviceError}
    (h : DeviceSample.ofReading d r moment = .error e) : r.total = 0 ∨ r.total < r.free := by
  unfold DeviceSample.ofReading at h
  split at h
  · cases h
  · rename_i bad
    rw [not_and_or, UInt64.not_lt, UInt64.not_le] at bad
    exact bad.imp_left fun none => UInt64.le_zero_iff.1 none

variable {rs : List (DeviceId × MemoryReading)}

theorem samplesOf_of_clear
    (read : List.Forall₂ (fun d r => r.1 = d ∧ backend.read d = .ok r.2) devices rs)
    (clear : ∀ d ∈ devices, ¬ Senseless backend d) :
    ∃ samples, samplesOf moment rs = .ok samples ∧
      List.Forall₂ (SampleOf backend moment) devices samples := by
  induction read with
  | nil => exact ⟨[], rfl, .nil⟩
  | @cons d r ds rs one _ ih =>
    obtain ⟨rfl, read⟩ := one
    obtain ⟨sensible, clear⟩ := List.forall_mem_cons.1 clear
    obtain ⟨samples, rest, all⟩ := ih clear
    cases made : DeviceSample.ofReading r.1 r.2 moment with
    | error e => exact absurd ⟨r.2, read, senseless_of_error made⟩ sensible
    | ok s => exact ⟨s :: samples,
        by simp [samplesOf, made, rest, bind, Except.bind, pure, Except.pure],
        .cons (ofReading_eq_ok read made) all⟩

theorem samplesOf_of_first {before : List DeviceId} {d : DeviceId} {r : MemoryReading}
    (read : List.Forall₂ (fun d r => r.1 = d ∧ backend.read d = .ok r.2) devices rs)
    (first : FirstIn (Senseless backend) devices before d) (found : backend.read d = .ok r) :
    samplesOf moment rs = .error (.inconsistent d.key r.free r.total) := by
  obtain ⟨⟨after, rfl⟩, clear, r', found', senseless⟩ := first
  cases found.symm.trans found'
  induction before generalizing rs with
  | nil =>
    obtain ⟨r₁, rs', ⟨rfl, one⟩, -, rfl⟩ := List.forall₂_cons_left_iff.1 read
    cases one.symm.trans found
    simp [samplesOf, ofReading_of_senseless senseless, bind, Except.bind]
  | cons x before ih =>
    obtain ⟨r₁, rs', ⟨rfl, one⟩, rest, rfl⟩ := List.forall₂_cons_left_iff.1 read
    obtain ⟨sensible, clear⟩ := List.forall_mem_cons.1 clear
    cases made : DeviceSample.ofReading r₁.1 r₁.2 moment with
    | error e => exact absurd ⟨r₁.2, one, senseless_of_error made⟩ sensible
    | ok s => simp [samplesOf, made, ih clear rest, bind, Except.bind]

/-! ## What the backend is asked -/

/-- It is asked about all devices if each can be read. -/
theorem readAll_noted_of_clear (clear : ∀ d ∈ devices, ¬ Unreadable backend d)
    (past : List DeviceQuery) :
    (readAll backend.readNoted devices).run.run past =
      (readAll backend.read devices, past ++ devices.map .reading) := by
  induction devices generalizing past with
  | nil =>
    rw [List.map_nil, List.append_nil]
    rfl
  | cons d ds ih =>
    obtain ⟨readable, clear⟩ := List.forall_mem_cons.1 clear
    obtain ⟨rs, rest, -⟩ := readAll_of_clear clear
    cases read : backend.read d with
    | error e => exact absurd ⟨e, read⟩ readable
    | ok r =>
      have others := ih clear (past ++ [.reading d])
      rw [rest] at others
      rw [readAll, Noting.bind_of_ok (DeviceBackend.readNoted_run read past),
        Noting.bind_of_ok others, readAll, read, rest, List.append_assoc]
      rfl

/-- Otherwise up to the first that cannot. -/
theorem readAll_noted_of_first {before : List DeviceId} {d : DeviceId} {e : DeviceError}
    (first : FirstIn (Unreadable backend) devices before d) (failed : backend.read d = .error e)
    (past : List DeviceQuery) :
    (readAll backend.readNoted devices).run.run past =
      (.error e, past ++ (before ++ [d]).map .reading) := by
  obtain ⟨⟨after, rfl⟩, clear, -⟩ := first
  induction before generalizing past with
  | nil => exact Noting.bind_of_error (DeviceBackend.readNoted_run failed past)
  | cons x before ih =>
    obtain ⟨readable, clear⟩ := List.forall_mem_cons.1 clear
    cases read : backend.read x with
    | error e' => exact absurd ⟨e', read⟩ readable
    | ok r =>
      rw [List.cons_append, readAll, Noting.bind_of_ok (DeviceBackend.readNoted_run read past),
        Noting.bind_of_error (ih _ clear), List.append_assoc]
      rfl

theorem takeNoted_of_hidden (backend : DeviceBackend) :
    (takeNoted backend nodeName .none moment).run.run [] =
      (.ok ⟨nodeName, .none, moment, []⟩, []) :=
  rfl

section Shown

variable (shown : mask ≠ .none)
include shown

theorem not_hidesAll : mask.hidesAll = false := by
  simpa [VisibleDevices.hidesAll] using shown

theorem takeNoted_of_unlisted {e : DeviceError} (failed : backend.list = .error e) :
    (takeNoted backend nodeName mask moment).run.run [] = (.error e, [.listing]) := by
  rw [takeNoted, takeFrom, readVisible, not_hidesAll shown]
  exact Noting.bind_of_error (Noting.bind_of_error (DeviceBackend.listNoted_run failed []))

theorem takeNoted_of_missing (listed : backend.list = .ok devices)
    (missing : mask.missing devices ≠ []) :
    (takeNoted backend nodeName mask moment).run.run [] =
      (.error (.notFound (",".intercalate (mask.missing devices))), [.listing]) := by
  rw [takeNoted, takeFrom, readVisible, not_hidesAll shown]
  refine Noting.bind_of_error ((Noting.bind_of_ok (DeviceBackend.listNoted_run listed [])).trans ?_)
  simp only [List.isEmpty_iff, missing, if_false]
  rfl

theorem takeNoted_of_known (listed : backend.list = .ok devices) (known : mask.missing devices = [])
    {readings : Except DeviceError (List (DeviceId × MemoryReading))} {asked : List DeviceQuery}
    (read : (readAll backend.readNoted (devices.filter mask.admits)).run.run [.listing] =
      (readings, asked)) :
    (takeNoted backend nodeName mask moment).run.run [] =
      (readings.bind (ofReadings nodeName mask moment), asked) := by
  have visible : (readVisible backend.listNoted backend.readNoted mask).run.run [] =
      (readings, asked) := by
    rw [readVisible, not_hidesAll shown]
    refine (Noting.bind_of_ok (DeviceBackend.listNoted_run listed [])).trans ?_
    simpa only [known, List.isEmpty_nil, if_true, List.nil_append] using read
  rw [takeNoted, takeFrom]
  cases readings with
  | error e => exact Noting.bind_of_error visible
  | ok rs =>
    rw [Noting.bind_of_ok visible]
    show _ = (ofReadings nodeName mask moment rs, asked)
    cases ofReadings nodeName mask moment rs <;> rfl

end Shown

/-- A backend may be asked with notes: what it answers is the same, -/
theorem readAll_comesTo (backend : DeviceBackend) (devices : List DeviceId) :
    Noting.ComesTo (readAll backend.readNoted devices) (readAll backend.read devices) := by
  induction devices with
  | nil => exact fun _ => rfl
  | cons d ds ih => exact .bind (fun _ => rfl) fun _ => .bind ih fun _ _ => rfl

/-- and so are the samples. -/
theorem takeNoted_comesTo (backend : DeviceBackend) :
    (takeNoted backend nodeName mask moment).ComesTo (take backend nodeName mask moment) := by
  refine .bind ?_ fun readings => ?_
  · unfold readVisible
    split
    · exact fun _ => rfl
    · refine .bind (fun _ => rfl) fun devices => ?_
      dsimp only
      split
      · exact readAll_comesTo backend _
      · exact fun _ => rfl
  · cases ofReadings nodeName mask moment readings <;> exact fun _ => rfl

/-! ## The cases -/

/-- The mask shows something, the backend lists these devices, and the mask names none in vain. -/
structure Surveyed (backend : DeviceBackend) (mask : VisibleDevices) (devices : List DeviceId) :
    Prop where
  shown : mask ≠ .none
  listed : backend.list = .ok devices
  known : mask.unknownIds devices = []

/-- What sampling comes to, and what the backend is asked for it: the cases in the order in
which they go before one another. -/
inductive Sampled (backend : DeviceBackend) (nodeName : String) (mask : VisibleDevices)
    (moment : Timestamp) :
    Except DeviceError SampleSet → List DeviceQuery → Prop where
  | hidden : mask = .none →
      Sampled backend nodeName mask moment (.ok ⟨nodeName, mask, moment, []⟩) []
  | unlisted {e : DeviceError} : mask ≠ .none → backend.list = .error e →
      Sampled backend nodeName mask moment (.error e) [.listing]
  | unknown {devices : List DeviceId} :
      mask ≠ .none → backend.list = .ok devices → mask.unknownIds devices ≠ [] →
      Sampled backend nodeName mask moment
      (.error (.notFound (",".intercalate (mask.unknownIds devices)))) [.listing]
  | unreadable {devices before : List DeviceId} {d : DeviceId} {e : DeviceError} :
      Surveyed backend mask devices →
      FirstIn (Unreadable backend) (devices.filter mask.admits) before d →
      backend.read d = .error e →
      Sampled backend nodeName mask moment (.error e) (.listing :: (before ++ [d]).map .reading)
  | senseless {devices before : List DeviceId} {d : DeviceId} {r : MemoryReading} :
      Surveyed backend mask devices →
      (∀ d ∈ devices.filter mask.admits, ¬ Unreadable backend d) →
      FirstIn (Senseless backend) (devices.filter mask.admits) before d → backend.read d = .ok r →
      Sampled backend nodeName mask moment (.error (.inconsistent d.key r.free r.total))
        (.listing :: (devices.filter mask.admits).map .reading)
  | taken {devices : List DeviceId} {samples : List DeviceSample} : Surveyed backend mask devices →
      (∀ d ∈ devices.filter mask.admits, ¬ Unreadable backend d) →
      (∀ d ∈ devices.filter mask.admits, ¬ Senseless backend d) →
      List.Forall₂ (SampleOf backend moment) (devices.filter mask.admits) samples →
      Sampled backend nodeName mask moment (.ok ⟨nodeName, mask, moment, samples⟩)
        (.listing :: (devices.filter mask.admits).map .reading)

/-- What a case says is what sampling comes to. -/
theorem Sampled.takeNoted_eq {result : Except DeviceError SampleSet} {asked : List DeviceQuery}
    (h : Sampled backend nodeName mask moment result asked) :
    (takeNoted backend nodeName mask moment).run.run [] = (result, asked) := by
  have none_missing {devices : List DeviceId} (h : Surveyed backend mask devices) :
      mask.missing devices = [] :=
    (mask.missing_eq_unknownIds devices).trans h.known
  cases h with
  | hidden none =>
    subst none
    exact takeNoted_of_hidden backend
  | unlisted shown failed => exact takeNoted_of_unlisted shown failed
  | unknown shown listed unknown =>
    rw [← VisibleDevices.missing_eq_unknownIds] at unknown ⊢
    exact takeNoted_of_missing shown listed unknown
  | unreadable known first failed =>
    exact takeNoted_of_known known.shown known.listed (none_missing known)
      (readAll_noted_of_first first failed _)
  | senseless known readable first found =>
    obtain ⟨rs, read, readings⟩ := readAll_of_clear readable
    rw [takeNoted_of_known known.shown known.listed (none_missing known)
      (readAll_noted_of_clear readable _), read]
    simp [ofReadings_eq, samplesOf_of_first readings first found, Except.bind, Except.map]
  | taken known readable sensible all =>
    obtain ⟨rs, read, readings⟩ := readAll_of_clear readable
    obtain ⟨samples, made, all'⟩ : ∃ samples, samplesOf moment rs = .ok samples ∧ _ :=
      samplesOf_of_clear readings sensible
    rw [takeNoted_of_known known.shown known.listed (none_missing known)
      (readAll_noted_of_clear readable _), read]
    simp [ofReadings_eq, made, samples_unique all' all, Except.bind, Except.map]

/-- One of the cases holds. -/
theorem exists_sampled (backend : DeviceBackend) (nodeName : String) (mask : VisibleDevices)
    (moment : Timestamp) :
    ∃ result asked, Sampled backend nodeName mask moment result asked := by
  by_cases shown : mask = .none
  · exact ⟨_, _, .hidden shown⟩
  cases listed : backend.list with
  | error e => exact ⟨_, _, .unlisted shown listed⟩
  | ok devices =>
    by_cases known : mask.unknownIds devices = []
    case neg => exact ⟨_, _, .unknown shown listed known⟩
    have surveyed : Surveyed backend mask devices := ⟨shown, listed, known⟩
    rcases exists_firstIn (Unreadable backend) (devices.filter mask.admits)
      with readable | ⟨before, d, first⟩
    case inr =>
      obtain ⟨e, failed⟩ := first.found
      exact ⟨_, _, .unreadable surveyed first failed⟩
    rcases exists_firstIn (Senseless backend) (devices.filter mask.admits)
      with sensible | ⟨before, d, first⟩
    case inr =>
      obtain ⟨r, found, -⟩ := first.found
      exact ⟨_, _, .senseless surveyed readable first found⟩
    obtain ⟨rs, -, readings⟩ := readAll_of_clear readable
    obtain ⟨samples, -, all⟩ : ∃ samples, samplesOf moment rs = .ok samples ∧ _ :=
      samplesOf_of_clear readings sensible
    exact ⟨_, _, .taken surveyed readable sensible all⟩

/-- What sampling comes to is what the case says that holds. -/
theorem sampled_iff {result : Except DeviceError SampleSet} {asked : List DeviceQuery} :
    Sampled backend nodeName mask moment result asked ↔
      take backend nodeName mask moment = result ∧
      queries backend nodeName mask moment = asked := by
  rw [← takeNoted_comesTo backend []]
  refine ⟨fun h => ?_, ?_⟩
  · rw [queries, h.takeNoted_eq]
    exact ⟨rfl, rfl⟩
  · rintro ⟨rfl, rfl⟩
    obtain ⟨result, asked, h⟩ := exists_sampled backend nodeName mask moment
    rwa [queries, h.takeNoted_eq]

/-! ## Sampling -/

/-- An admitted device was sampled, and only such devices were. -/
theorem exists_sampledDevices {set : SampleSet} (h : take backend nodeName mask moment = .ok set) :
    (mask = .none ∧ set.samples = []) ∨
      ∃ devices, Surveyed backend mask devices ∧
        List.Forall₂ (SampleOf backend moment) (devices.filter mask.admits) set.samples := by
  have sampled : Sampled backend nodeName mask moment (.ok set) _ := sampled_iff.2 ⟨h, rfl⟩
  generalize queries backend nodeName mask moment = asked at sampled
  cases sampled with
  | hidden none => exact .inl ⟨none, rfl⟩
  | taken known _ _ all => exact .inr ⟨_, known, all⟩

theorem samples_byId {set : SampleSet} {entries : List String}
    (h : take backend nodeName (.list entries) moment = .ok set)
    (ids : ∀ e ∈ entries, "GPU-".toList <+: e.toList) :
    (∀ id, id ∈ set.samples.map (·.deviceId) ↔ id ∈ entries) ∧
      ∀ s ∈ set.samples, ∃ d, d.uuid = some s.deviceId ∧ SampleOf backend moment d s := by
  obtain ⟨⟨⟩, -⟩ | ⟨devices, surveyed, all⟩ := exists_sampledDevices h
  -- a device is admitted for its unique id, which is then its key
  have admitted {d : DeviceId} (hd : d ∈ devices.filter (VisibleDevices.list entries).admits) :
      ∃ e ∈ entries, d.uuid = some e ∧ d.key = e := by
    obtain ⟨⟨⟩⟩ | ⟨e, he, index⟩ | ⟨e, he, own⟩ :=
      VisibleDevices.admits_iff.1 (List.mem_filter.1 hd).2
    · exact absurd (ids e he) index
    · exact ⟨e, he, own, by simp [DeviceId.key, own]⟩
  refine ⟨fun id => ⟨fun sampled => ?_, fun listed => ?_⟩, fun s hs => ?_⟩
  · obtain ⟨s, hs, rfl⟩ := List.mem_map.1 sampled
    obtain ⟨d, hd, sample⟩ := exists_match all.flip hs
    obtain ⟨e, he, -, key⟩ := admitted hd
    rwa [sample.deviceId, key]
  · -- the id is not named in vain, so a device has it
    have known : id ∉ (VisibleDevices.list entries).unknownIds devices := by
      rw [surveyed.known]
      exact List.not_mem_nil
    obtain ⟨d, hd, own⟩ : ∃ d ∈ devices, d.uuid = some id := by
      simpa [VisibleDevices.unknownIds, VisibleDevices.entries, listed,
        -String.reduceToList, ids id listed]
        using known
    have admits : (VisibleDevices.list entries).admits d = true :=
      VisibleDevices.admits_iff.2 (.inr (.inr ⟨id, listed, own⟩))
    obtain ⟨s, hs, sample⟩ := exists_match all (List.mem_filter.2 ⟨hd, admits⟩)
    refine List.mem_map.2 ⟨s, hs, ?_⟩
    rw [sample.deviceId]
    simp [DeviceId.key, own]
  · obtain ⟨d, hd, sample⟩ := exists_match all.flip hs
    obtain ⟨e, -, own, key⟩ := admitted hd
    exact ⟨d, by rw [own, sample.deviceId, key], sample⟩

theorem Sampled.admitted {result : Except DeviceError SampleSet} {asked : List DeviceQuery}
    {d : DeviceId} (h : Sampled backend nodeName mask moment result asked)
    (hd : .reading d ∈ asked) : mask.admits d = true := by
  cases h with
  | hidden => cases hd
  | unlisted | unknown => simp at hd
  | @unreadable devices before d' _ _ first =>
    obtain ⟨⟨after, split⟩, -, -⟩ := first
    have among : d ∈ devices.filter mask.admits := by
      rw [split, List.append_cons]
      exact List.mem_append_left _ (by simpa using hd)
    exact (List.mem_filter.1 among).2
  | senseless | taken => exact (by simpa using hd : _ ∧ mask.admits d = true).2

theorem readAll_congr {other : DeviceBackend} {ds : List DeviceId}
    (h : ∀ d ∈ ds, other.read d = backend.read d) :
    readAll other.read ds = readAll backend.read ds := by
  induction ds with
  | nil => rfl
  | cons d ds ih =>
    obtain ⟨one, rest⟩ := List.forall_mem_cons.1 h
    rw [readAll, readAll, one, ih rest]

/-- Devices that the mask does not admit do not matter. -/
theorem take_congr {other : DeviceBackend} (list : other.list = backend.list)
    (read : ∀ d, mask.admits d = true → other.read d = backend.read d) :
    take other nodeName mask moment = take backend nodeName mask moment := by
  have admitted (devices : List DeviceId) :
      readAll other.read (devices.filter mask.admits) =
        readAll backend.read (devices.filter mask.admits) :=
    readAll_congr fun d hd => read d (List.mem_filter.1 hd).2
  simp only [take, takeFrom, readVisible, list, admitted]

/-- What there is to say of the samples that are taken under a mask. -/
structure SamplingLaws (backend : DeviceBackend) (nodeName : String) (mask : VisibleDevices)
    (moment : Timestamp) :
    Prop where
  /-- Of several faults the first in the order of the cases is reported. -/
  outcome (result : Except DeviceError SampleSet) (asked : List DeviceQuery) :
    Sampled backend nodeName mask moment result asked ↔
      take backend nodeName mask moment = result ∧ queries backend nodeName mask moment = asked
  /-- A device that the mask does not admit is not asked for. -/
  admitted (d : DeviceId) : .reading d ∈ queries backend nodeName mask moment → mask.admits d = true
  /-- Nor does it matter what it would answer. -/
  unaffected (other : DeviceBackend) : other.list = backend.list →
    (∀ d, mask.admits d = true → other.read d = backend.read d) →
    take other nodeName mask moment = take backend nodeName mask moment
  /-- Under a mask of unique ids alone the samples are of devices with these ids, and every
  id has one. -/
  byId (set : SampleSet) (entries : List String) : take backend nodeName mask moment = .ok set →
    mask = .list entries → (∀ e ∈ entries, "GPU-".toList <+: e.toList) →
    (∀ id, id ∈ set.samples.map (·.deviceId) ↔ id ∈ entries) ∧
      ∀ s ∈ set.samples, ∃ d, d.uuid = some s.deviceId ∧ SampleOf backend moment d s
  /-- Under one with an index all devices are sampled. -/
  byIndex (set : SampleSet) (entries : List String) (devices : List DeviceId) :
    take backend nodeName mask moment = .ok set → backend.list = .ok devices →
    mask = .list entries →
    (∃ e ∈ entries, ¬ "GPU-".toList <+: e.toList) →
    List.Forall₂ (SampleOf backend moment) devices set.samples
  sensible (set : SampleSet) : take backend nodeName mask moment = .ok set →
    ∀ s ∈ set.samples, 0 < s.total ∧ s.free ≤ s.total

/-- Sampling reports the first fault there is, and samples what the mask admits. -/
theorem sampling_laws (backend : DeviceBackend) (nodeName : String) (mask : VisibleDevices)
    (moment : Timestamp) :
    SamplingLaws backend nodeName mask moment where
  outcome _ _ := sampled_iff
  admitted d asked := by
    obtain ⟨result, questions, h⟩ := exists_sampled backend nodeName mask moment
    obtain ⟨-, rfl⟩ := sampled_iff.1 h
    exact h.admitted asked
  unaffected other list read := take_congr list read
  byId set entries h same ids := by
    subst same
    exact samples_byId h ids
  byIndex set entries devices h listed same index := by
    subst same
    obtain ⟨⟨⟩, -⟩ | ⟨devices', surveyed, all⟩ := exists_sampledDevices h
    cases listed.symm.trans surveyed.listed
    have every (d : DeviceId) : (VisibleDevices.list entries).admits d = true :=
      VisibleDevices.admits_iff.2 (.inr (.inl index))
    rwa [List.filter_eq_self.2 fun d _ => every d] at all
  sensible set _ s _ := ⟨s.total_pos, s.free_le_total⟩

end SampleSet

end NodeWarden
