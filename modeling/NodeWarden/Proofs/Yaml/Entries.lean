import NodeWarden.Yaml.Value

/-!
# Readers of mappings

A reader of a mapping looks its keys up by name, one by one (`Node.readKey`). What it finds
there is the value of the key, if the key is there once, or nothing (`Gives`). So all that
matters of a mapping is which of the keys that its reader knows it has, with which values
(`readKey_of_known`): neither their order nor any other key does.
-/

namespace NodeWarden.Yaml

/-- A node that is read as a mapping with the given entries: one whose keys are scalars, or
a missing value. -/
inductive Node.IsMapping : Node → List (Node × Node) → Prop
  | missing : IsMapping .missing []
  | mapping {entries : List (Node × Node)} :
      (∀ e ∈ entries, e.1.isScalar = true) → IsMapping (.mapping entries) entries

/-- What the entries of a mapping give for a key: nothing if the key is not there, and if it
is there once what its value is read as. -/
inductive Gives {α : Type} (entries : List (Node × Node)) (name : String)
    (Reads : Node → α → Prop) :
    Option α → Prop
  | nothing : (∀ e ∈ entries, e.1.isKey name = false) → Gives entries name Reads none
  | value {before after : List (Node × Node)} {key n : Node} {a : α} :
      entries = before ++ (key, n) :: after →
      key.isKey name = true → (∀ e ∈ before ++ after, e.1.isKey name = false) → Reads n a →
      Gives entries name Reads (some a)

/-- The entries for keys of the given names. -/
def known (names : List String) (entries : List (Node × Node)) : List (Node × Node) :=
  entries.filter fun e => names.any e.1.isKey

/-- Two nodes are the same to a reader who knows keys of the given names: mappings with the
same entries for these, in whatever order. -/
def AlikeFor (names : List String) (n m : Node) : Prop :=
  ∃ entries entries', n.IsMapping entries ∧ m.IsMapping entries' ∧
    (known names entries).Perm (known names entries')

/-- A mapping in which a key of one of the given names is there twice. -/
inductive Repeats (names : List String) : Node → Prop
  | intro {name : String} {before between after : List (Node × Node)} {key key' n m : Node} :
      name ∈ names →
      key.isKey name = true → key'.isKey name = true →
      Repeats names (.mapping (before ++ (key, n) :: (between ++ (key', m) :: after)))

namespace Node

theorem isScalar_of_isKey {name : String} {key : Node} (h : key.isKey name = true) :
    key.isScalar = true := by
  cases key with
  | scalar => rfl
  | sequence | mapping => cases h

/-- A key has one name. -/
theorem eq_of_isKey {name other : String} {key : Node} (h : key.isKey name = true)
    (h' : key.isKey other = true) :
    name = other := by
  cases key with
  | scalar text plain =>
    have same : text = name := by simpa [isKey] using h
    have same' : text = other := by simpa [isKey] using h'
    rw [← same, same']
  | sequence | mapping => cases h

theorem isKey_eq_false_of_ne {name other : String} {key : Node} (h : key.isKey name = true)
    (ne : other ≠ name) :
    key.isKey other = false := by
  cases found : key.isKey other with
  | false => rfl
  | true => exact absurd (eq_of_isKey found h) ne

theorem entries?_eq_some_iff {n : Node} {entries : List (Node × Node)} :
    n.entries? = some entries ↔ n.IsMapping entries := by
  constructor
  · intro h
    unfold entries? at h
    split at h
    · split at h
      · rename_i scalars
        cases h
        exact .mapping fun e listed => List.all_eq_true.1 scalars e listed
      · cases h
    · cases h
      exact .missing
    · cases h
  · intro h
    cases h with
    | missing => rfl
    | mapping scalars => exact if_pos (List.all_eq_true.2 scalars)

section
variable {α β : Type} {name : String} {entries entries' before after : List (Node × Node)}
  {default : α} {read : Node → Option α}

theorem filter_isKey_eq_nil (clear : ∀ e ∈ entries, e.1.isKey name = false) :
    entries.filter (·.1.isKey name) = [] :=
  List.filter_eq_nil_iff.2 fun e listed => by simp [clear e listed]

theorem filter_isKey_eq_singleton {key n : Node} (found : key.isKey name = true)
    (clear : ∀ e ∈ before ++ after, e.1.isKey name = false) :
    (before ++ (key, n) :: after).filter (·.1.isKey name) = [(key, n)] := by
  have noneBefore := filter_isKey_eq_nil fun e listed => clear e (List.mem_append_left after listed)
  have noneAfter :=
    filter_isKey_eq_nil fun e listed => clear e (List.mem_append_right before listed)
  simp [found, noneBefore, noneAfter]

theorem readKey_of_nil (none : entries.filter (·.1.isKey name) = []) :
    readKey entries name default read = some default := by
  unfold readKey
  rw [none]

theorem readKey_of_singleton {key n : Node} (one : entries.filter (·.1.isKey name) = [(key, n)]) :
    readKey entries name default read = read n := by
  unfold readKey
  rw [one]

theorem readKey_of_two_le (several : 2 ≤ (entries.filter (·.1.isKey name)).length) :
    readKey entries name default read = none := by
  unfold readKey
  split
  · rename_i none
    simp [none] at several
  · rename_i one
    simp [one] at several
  · rfl

/-- A key is read as what the mapping gives for it, and as the default if that is nothing. -/
theorem readKey_eq_some_iff {Reads : Node → β → Prop} {f : β → α}
    (reads : ∀ n a, read n = some a ↔ ∃ b, Reads n b ∧ a = f b) {a : α} :
    readKey entries name default read = some a ↔
      ∃ given, Gives entries name Reads given ∧ a = (given.map f).getD default := by
  constructor
  · intro h
    rcases found : entries.filter (·.1.isKey name) with _ | ⟨⟨key, n⟩, _ | ⟨e, rest⟩⟩
    · rw [readKey_of_nil found] at h
      cases h
      exact ⟨none, .nothing fun e listed => by simpa using List.filter_eq_nil_iff.1 found e listed,
        rfl⟩
    · rw [readKey_of_singleton found] at h
      obtain ⟨b, meant, rfl⟩ := (reads n a).1 h
      obtain ⟨before, after, split, clear, isKey, rest⟩ := List.filter_eq_cons_iff.1 found
      refine ⟨some b, .value split isKey (fun e listed => ?_) meant, rfl⟩
      rcases List.mem_append.1 listed with listed | listed
      · simpa using clear e listed
      · simpa using List.filter_eq_nil_iff.1 rest e listed
    · rw [readKey_of_two_le (by simp [found])] at h
      cases h
  · rintro ⟨given, gives, rfl⟩
    cases gives with
    | nothing clear => exact readKey_of_nil (filter_isKey_eq_nil clear)
    | value split found clear meant =>
      rw [split, readKey_of_singleton (filter_isKey_eq_singleton found clear)]
      exact (reads _ _).2 ⟨_, meant, rfl⟩

/-- What a key is read as depends on the entries for it, but not on their order. -/
theorem readKey_of_perm
    (perm : (entries.filter (·.1.isKey name)).Perm (entries'.filter (·.1.isKey name))) :
    readKey entries name default read = readKey entries' name default read := by
  rcases found : entries.filter (·.1.isKey name) with _ | ⟨⟨key, n⟩, _ | ⟨e, rest⟩⟩
  · rw [found, List.nil_perm] at perm
    rw [readKey_of_nil found, readKey_of_nil perm]
  · rw [found, List.singleton_perm] at perm
    rw [readKey_of_singleton found, readKey_of_singleton perm.symm]
  · have several : 2 ≤ (entries.filter (·.1.isKey name)).length := by simp [found]
    rw [readKey_of_two_le several, readKey_of_two_le (perm.length_eq ▸ several)]

/-- A reader who knows a key reads it alike in mappings that are alike to it. -/
theorem readKey_of_known {names : List String}
    (perm : (known names entries).Perm (known names entries')) (knows : name ∈ names) :
    readKey entries name default read = readKey entries' name default read := by
  have part (l : List (Node × Node)) :
      l.filter (·.1.isKey name) = (known names l).filter (·.1.isKey name) := by
    rw [known, List.filter_filter]
    refine List.filter_congr fun e _ => ?_
    cases found : e.1.isKey name with
    | false => rfl
    | true =>
      have some : names.any e.1.isKey = true := List.any_eq_true.2 ⟨name, knows, found⟩
      simp [some]
  refine readKey_of_perm ?_
  rw [part entries, part entries']
  exact perm.filter _

/-- Values that are read alike can stand for each other. -/
theorem readKey_of_value {key n m : Node} (same : key.isKey name = true → read n = read m) :
    readKey (before ++ (key, n) :: after) name default read =
      readKey (before ++ (key, m) :: after) name default read := by
  cases found : key.isKey name with
  | false => exact readKey_of_perm (by simp [found])
  | true =>
    rcases others : (before ++ after).filter (·.1.isKey name) with _ | ⟨e, rest⟩
    · have clear : ∀ e ∈ before ++ after, e.1.isKey name = false := fun e listed => by
        simpa using List.filter_eq_nil_iff.1 others e listed
      rw [readKey_of_singleton (filter_isKey_eq_singleton found clear),
        readKey_of_singleton (filter_isKey_eq_singleton found clear), same found]
    · have several (v : Node) :
          2 ≤ ((before ++ (key, v) :: after).filter (·.1.isKey name)).length := by
        have count := congrArg List.length others
        simp only [List.filter_append, List.length_append, List.length_cons] at count
        simp only [List.filter_append, List.filter_cons, found, if_true, List.length_append,
          List.length_cons]
        omega
      rw [readKey_of_two_le (several n), readKey_of_two_le (several m)]

/-- A key with another name can be left out. -/
theorem readKey_of_other {key n : Node} (other : key.isKey name = false) :
    readKey (before ++ (key, n) :: after) name default read =
      readKey (before ++ after) name default read := by
  refine readKey_of_perm ?_
  simp [other]

end

end Node

theorem AlikeFor.readKey {names : List String} {n m : Node} (h : AlikeFor names n m) :
    ∃ entries entries', n.entries? = some entries ∧ m.entries? = some entries' ∧
      ∀ name ∈ names, ∀ (α : Type) (default : α) (read : Node → Option α),
        Node.readKey entries name default read = Node.readKey entries' name default read := by
  obtain ⟨entries, entries', isMapping, isMapping', perm⟩ := h
  exact ⟨entries, entries', Node.entries?_eq_some_iff.2 isMapping,
    Node.entries?_eq_some_iff.2 isMapping', fun _ knows _ _ _ => Node.readKey_of_known perm knows⟩

section
variable {α : Type} {entries : List (Node × Node)} {name : String} {Reads : Node → α → Prop}
  {given : Option α}

theorem Gives.length_filter_le_one (h : Gives entries name Reads given) :
    (entries.filter (·.1.isKey name)).length ≤ 1 := by
  cases h with
  | nothing clear => simp [Node.filter_isKey_eq_nil clear]
  | value split found clear _ => simp [split, Node.filter_isKey_eq_singleton found clear]

theorem Gives.reads_of_mem (h : Gives entries name Reads given) {key n : Node}
    (listed : (key, n) ∈ entries) (found : key.isKey name = true) : ∃ a, Reads n a := by
  have kept : (key, n) ∈ entries.filter (·.1.isKey name) := List.mem_filter.2 ⟨listed, found⟩
  cases h with
  | nothing clear => simp [Node.filter_isKey_eq_nil clear] at kept
  | @value _ _ _ _ a split found clear meant =>
    rw [split, Node.filter_isKey_eq_singleton found clear, List.mem_singleton] at kept
    cases kept
    exact ⟨a, meant⟩

/-- A reader who finds each of its keys at most once does not read a mapping in which one is
there twice. -/
theorem Repeats.not_isMapping {names : List String} {n : Node} (h : Repeats names n)
    (isMapping : n.IsMapping entries)
    (once : ∀ name ∈ names, (entries.filter (·.1.isKey name)).length ≤ 1) : False := by
  cases h with
  | intro knows found found' =>
    cases isMapping with
    | mapping =>
      have few := once _ knows
      simp [found, found'] at few
      omega

end

end NodeWarden.Yaml
