import Mathlib.Data.List.Infix
import Mathlib.Data.List.TakeWhile
import NodeWarden.CommandLine

/-!
# What a command line says

The reader of a command line goes from argument to argument with an option that it has not
settled yet. Of a command line that it accepts, what was read can be told without it: a flag
is set exactly if it is among the arguments (`Reading.mem_flags_iff`), and an option has a
value exactly if the value is attached to its name, or is the argument after it
(`Reading.lookup_values_iff`). Options with a name of one letter are left aside; only the
path of the settings file has one.
-/

namespace NodeWarden

/-- One stage after another comes to something only if the first does. -/
theorem exists_ok_of_bind {ε α β : Type} {first : Except ε α} {next : α → Except ε β} {b : β}
    (h : first >>= next = .ok b) : ∃ a, first = .ok a ∧ next a = .ok b := by
  cases first with
  | error e => cases h
  | ok a => exact ⟨a, rfl, h⟩

/-- The name of an option. -/
def ValueOption.longName : ValueOption → String
  | config => "config"
  | nodeName => "node-name"
  | mode => "mode"
  | visibleDevices => "visible-devices"
  | logLevel => "log-level"

/-- The name of a flag. -/
def FlagOption.longName : FlagOption → String
  | logJson => "log-json"
  | dryRun => "dry-run"
  | once => "once"
  | help => "help"
  | version => "version"

theorem ValueOption.longName_plain (o : ValueOption) : '=' ∉ o.longName.toList := by
  cases o <;> decide

theorem FlagOption.longName_plain (f : FlagOption) : '=' ∉ f.longName.toList := by
  cases f <;> decide

namespace CommandLine

/-- The argument that is the name of an option, a value attached to it or not. -/
def optionText (name : String) : Option String → String
  | none => "--" ++ name
  | some v => "--" ++ name ++ "=" ++ v

/-- The arguments give an option a value. -/
def Given (o : ValueOption) (v : String) (args : List String) : Prop :=
  optionText o.longName (some v) ∈ args ∨ [optionText o.longName none, v] <:+: args

/-- The arguments contain a flag. -/
def Flagged (f : FlagOption) (args : List String) : Prop :=
  optionText f.longName none ∈ args

/-! ## Names -/

theorem ofLong?_eq_valued {name : String} {o : ValueOption} :
    CommandOption.ofLong? name = some (.valued o) ↔ name = o.longName := by
  constructor
  · intro h
    unfold CommandOption.ofLong? at h
    split at h <;> cases h <;> rfl
  · rintro rfl
    cases o <;> rfl

theorem ofLong?_eq_flag {name : String} {f : FlagOption} :
    CommandOption.ofLong? name = some (.flag f) ↔ name = f.longName := by
  constructor
  · intro h
    unfold CommandOption.ofLong? at h
    split at h <;> cases h <;> rfl
  · rintro rfl
    cases f <;> rfl

/-- A name in front of an equals sign can be told from what follows it. -/
theorem takeWhile_name {name : List Char} (plain : '=' ∉ name) (v : List Char) :
    (name ++ '=' :: v).takeWhile (· != '=') = name := by
  have all : ∀ c ∈ name, (c != '=') = true :=
    fun c hc => bne_iff_ne.mpr fun same => plain (same ▸ hc)
  rw [List.takeWhile_append_of_pos all]
  simp

/-- Behind its two hyphens an argument has one name, which ends where the first equals sign is. -/
theorem optionText_inj {m n : String} {u v : Option String} (plainM : '=' ∉ m.toList)
    (plainN : '=' ∉ n.toList) :
    optionText m u = optionText n v ↔ m = n ∧ u = v := by
  refine ⟨fun same => ?_, fun ⟨hm, hu⟩ => hm ▸ hu ▸ rfl⟩
  rw [← String.toList_inj] at same
  cases u with
  | none =>
    cases v with
    | none =>
      simp only [optionText, String.toList_append, List.append_cancel_left_eq, String.toList_inj]
        at same
      exact ⟨same, rfl⟩
    | some v =>
      simp only [optionText, String.toList_append, List.append_assoc, List.append_cancel_left_eq]
        at same
      exact absurd (same ▸ by simp) plainM
  | some u =>
    cases v with
    | none =>
      simp only [optionText, String.toList_append, List.append_assoc, List.append_cancel_left_eq]
        at same
      exact absurd (same ▸ by simp) plainN
    | some v =>
      simp only [optionText, String.toList_append, List.append_assoc, List.append_cancel_left_eq]
        at same
      have names : m.toList = n.toList := by
        have cut := congrArg (List.takeWhile (· != '=')) same
        exact (takeWhile_name plainM _).symm.trans (cut.trans (takeWhile_name plainN _))
      rw [names, List.append_cancel_left_eq, List.append_cancel_left_eq, String.toList_inj] at same
      exact ⟨String.toList_inj.mp names, congrArg some same⟩

/-- Two hyphens alone name no option. -/
theorem optionText_ne_hyphens {name : String} (plain : '=' ∉ name.toList) (named : name ≠ "")
    (v : Option String) :
    optionText name v ≠ "--" :=
  fun same => named ((optionText_inj plain (n := "") (v := none) (by simp)).mp same).1

theorem toList_optionText (name : String) (v : Option String) :
    ∃ cs, (optionText name v).toList = '-' :: '-' :: cs := by
  cases v <;> simp [optionText]

/-- What the reader takes for the name in an argument with two hyphens in front, and what
for the value. -/
def longParts (cs : List Char) : String × Option String :=
  let name := cs.takeWhile (· != '=')
  let attached := cs.drop name.length
  (.ofList name, if attached.isEmpty then none else some (String.ofList (attached.drop 1)))

theorem longParts_plain (cs : List Char) : '=' ∉ (longParts cs).1.toList := by
  intro mem
  rw [longParts, String.toList_ofList] at mem
  exact absurd (List.mem_takeWhile_imp mem) (by decide)

/-- Nothing of the argument is lost. -/
theorem eq_optionText {arg : String} {cs : List Char} (h : arg.toList = '-' :: '-' :: cs) :
    arg = optionText (longParts cs).1 (longParts cs).2 := by
  have whole : cs.takeWhile (· != '=') ++ cs.dropWhile (· != '=') = cs :=
    List.takeWhile_append_dropWhile
  have attached : cs.drop (cs.takeWhile (· != '=')).length = cs.dropWhile (· != '=') := by
    calc cs.drop (cs.takeWhile (· != '=')).length
      _ = (cs.takeWhile (· != '=') ++ cs.dropWhile (· != '=')).drop
        (cs.takeWhile (· != '=')).length := by rw [whole]
      _ = cs.dropWhile (· != '=') := List.drop_left
  have head := List.head?_dropWhile_not (· != '=') cs
  rw [← String.toList_inj, h, longParts, attached]
  cases rest : cs.dropWhile (· != '=') with
  | nil =>
    rw [rest, List.append_nil] at whole
    simp [optionText, whole]
  | cons c v =>
    rw [rest] at head whole
    obtain rfl : c = '=' := by simpa using head
    simp [optionText, whole]

theorem optionText_eq_valued {name : String} {value w : Option String} {known : CommandOption}
    {o : ValueOption} (h : CommandOption.ofLong? name = some known) (plain : '=' ∉ name.toList) :
    optionText name value = optionText o.longName w ↔ known = .valued o ∧ value = w := by
  rw [optionText_inj plain o.longName_plain, ← ofLong?_eq_valued, h, Option.some.injEq]

theorem optionText_eq_flag {name : String} {value w : Option String} {known : CommandOption}
    {f : FlagOption} (h : CommandOption.ofLong? name = some known) (plain : '=' ∉ name.toList) :
    optionText name value = optionText f.longName w ↔ known = .flag f ∧ value = w := by
  rw [optionText_inj plain f.longName_plain, ← ofLong?_eq_flag, h, Option.some.injEq]

/-! ## One argument -/

namespace Reading

variable {r r₁ : Reading}

/-- The reader knows a value of an option, settled or not. -/
def Holds (r : Reading) (o : ValueOption) (v : String) : Prop :=
  r.values.lookup o = some v ∨ r.pending = some (o, some v)

/-- The reader waits for the value of an option. -/
def Awaits (r : Reading) (o : ValueOption) : Prop :=
  r.pending = some (o, none)

/-- What the reader does with an argument, as far as options with a long name only are concerned. -/
structure Takes (r : Reading) (arg : String) (r₁ : Reading) : Prop where
  flags : ∀ f, f ∈ r₁.flags ↔ f ∈ r.flags ∨ arg = optionText f.longName none
  holds : ∀ o ≠ .config, ∀ v, r₁.Holds o v ↔
    r.Holds o v ∨ r.Awaits o ∧ arg = v ∨ arg = optionText o.longName (some v)
  awaits : ∀ o ≠ .config, r₁.Awaits o ↔ arg = optionText o.longName none

/-- A value is settled only if there was none. -/
theorem setValue_ok {o : ValueOption} {v : String} (h : r.setValue o (some v) = .ok r₁) :
    r₁.flags = r.flags ∧ r₁.pending = r.pending ∧
      ∀ o' v', r₁.values.lookup o' = some v' ↔ r.values.lookup o' = some v' ∨ o = o' ∧ v = v' := by
  simp only [setValue] at h
  split at h
  · cases h
  · rename_i fresh
    split at h
    · cases h
      refine ⟨rfl, rfl, fun o' v' => ?_⟩
      rw [List.lookup_cons]
      by_cases same : o' = o
      · subst same
        simp only [Bool.not_eq_true, Option.isSome_eq_false_iff, Option.isNone_iff_eq_none] at fresh
        simp [fresh]
      · simp [beq_false_of_ne same, Ne.symm same]
    · cases h

/-- What is pending is settled with its value, which is then there. -/
theorem settle_ok (h : r.settle = .ok r₁) :
    r₁.flags = r.flags ∧ r₁.pending = none ∧ (∀ o v, r₁.values.lookup o = some v ↔ r.Holds o v) ∧
      ∀ o, ¬r.Awaits o := by
  unfold settle at h
  cases waiting : r.pending with
  | none =>
    rw [waiting] at h
    cases h
    exact ⟨rfl, waiting, fun o v => by simp [Holds, waiting], fun o => by simp [Awaits, waiting]⟩
  | some p =>
    obtain ⟨o, _ | v⟩ := p
    · rw [waiting] at h
      cases h
    · rw [waiting] at h
      obtain ⟨flags, pending, lookup⟩ := setValue_ok h
      refine ⟨flags, pending, fun o' v' => ?_, fun o' => by simp [Awaits, waiting]⟩
      simp [lookup, Holds, waiting]

/-- A flag is set once what is pending is settled. -/
theorem setFlag_ok {f : FlagOption} (h : r.setFlag f = .ok r₁) :
    (∀ f', f' ∈ r₁.flags ↔ f' ∈ r.flags ∨ f = f') ∧ (∀ o v, r₁.Holds o v ↔ r.Holds o v) ∧
      (∀ o, ¬r₁.Awaits o) ∧ ∀ o, ¬r.Awaits o := by
  obtain ⟨r₀, settled, set⟩ := exists_ok_of_bind h
  obtain ⟨flags, pending, lookup, idle⟩ := settle_ok settled
  obtain rfl : r₁ = { r₀ with flags := f :: r₀.flags } := by
    split at set
    · cases set
    · cases set
    · split at set
      · cases set
      · cases set
        rfl
  refine ⟨fun f' => ?_, fun o v => ?_, fun o => ?_, idle⟩
  · simp [flags, or_comm, eq_comm]
  · simp [Holds, lookup, pending]
  · simp [Awaits, pending]

/-- An option is opened once what is pending is settled: with its value, or to wait for it. -/
theorem openOption_ok {o : ValueOption} {value : Option String}
    (h : r.openOption o value = .ok r₁) :
    r₁.flags = r.flags ∧ (∀ o' v, r₁.Holds o' v ↔ r.Holds o' v ∨ o = o' ∧ value = some v) ∧
      (∀ o', r₁.Awaits o' ↔ o = o' ∧ value = none) ∧ ∀ o', ¬r.Awaits o' := by
  obtain ⟨r₀, settled, opened⟩ := exists_ok_of_bind h
  obtain ⟨flags₀, pending₀, lookup₀, idle⟩ := settle_ok settled
  cases value with
  | some v =>
    obtain ⟨flags₁, pending₁, lookup₁⟩ := setValue_ok opened
    refine ⟨flags₁.trans flags₀, fun o' v' => ?_, fun o' => ?_, idle⟩
    · simp [Holds, lookup₁, lookup₀, pending₁, pending₀]
    · simp [Awaits, pending₁, pending₀]
  | none =>
    cases opened
    refine ⟨flags₀, fun o' v' => ?_, fun o' => ?_, idle⟩
    · simp [Holds, lookup₀]
    · simp [Awaits]

theorem plain_ok {arg : String} (h : r.plain arg = .ok r₁) :
    ∃ o, r.pending = some (o, none) ∧ r₁ = { r with pending := some (o, some arg) } := by
  unfold plain at h
  split at h
  · rename_i o waiting
    cases h
    exact ⟨o, waiting, rfl⟩
  · cases h

/-- An argument with two hyphens in front: a flag, or an option with its value or before it. -/
theorem long_takes {name : String} {value : Option String} (plain : '=' ∉ name.toList)
    (h : r.long name value = .ok r₁) : r.Takes (optionText name value) r₁ := by
  unfold long at h
  split at h
  · cases h
  · rename_i o known
    obtain ⟨flags, holds, awaits, idle⟩ := openOption_ok h
    refine ⟨fun f => ?_, fun o' _ v => ?_, fun o' _ => ?_⟩
    · simp [optionText_eq_flag known plain, flags]
    · simp [optionText_eq_valued known plain, holds, idle o']
    · simp [optionText_eq_valued known plain, awaits]
  · rename_i f known
    obtain ⟨flags, holds, unwaiting, idle⟩ := setFlag_ok h
    refine ⟨fun f' => ?_, fun o _ v => ?_, fun o _ => ?_⟩
    · simp [optionText_eq_flag known plain, flags]
    · simp [optionText_eq_valued known plain, holds, idle o]
    · simp [optionText_eq_valued known plain, unwaiting o]
  · cases h

/-- An argument with a single hyphen in front: only the path of the settings file can be
given so. -/
theorem short_takes {arg : String} {c : Char} {cs : List Char}
    (unnamed : ∀ name value, arg ≠ optionText name value) (h : r.short (c :: cs) = .ok r₁) :
    r.Takes arg r₁ := by
  unfold short at h
  split at h
  · cases h
  · rename_i o known
    obtain rfl : o = .config := by
      unfold CommandOption.ofShort? at known
      split at known <;> cases known
      rfl
    obtain ⟨flags, holds, awaits, idle⟩ := openOption_ok h
    refine ⟨fun f => ?_, fun o other v => ?_, fun o other => ?_⟩
    · simp [unnamed, flags]
    · simp [unnamed, holds, idle o, other.symm]
    · simp [unnamed, awaits, other.symm]
  · rename_i f known
    -- The flags with a name of one letter end the reading.
    obtain ⟨_, flagged, -⟩ := exists_ok_of_bind h
    obtain ⟨_, -, set⟩ := exists_ok_of_bind flagged
    unfold CommandOption.ofShort? at known
    split at known <;> cases known <;> cases set

/-- An argument without hyphens in front: the value that was waited for. -/
theorem plain_takes {arg : String} (unnamed : ∀ name value, arg ≠ optionText name value)
    (h : r.plain arg = .ok r₁) : r.Takes arg r₁ := by
  obtain ⟨o, waiting, rfl⟩ := plain_ok h
  refine ⟨fun f => ?_, fun o' _ v' => ?_, fun o' _ => ?_⟩
  · simp [unnamed]
  · simp [unnamed, Holds, Awaits, waiting]
  · simp [unnamed, Awaits]

/-! ## All arguments -/

/-- How an accepted list of arguments begins: it is over, or its first argument is taken. -/
theorem all_cases {args : List String} (h : all args r = .ok r₁) :
    (args = [] ∨ args = ["--"]) ∧ r.settle = .ok r₁ ∨
      ∃ arg rest r₀, args = arg :: rest ∧ r.Takes arg r₀ ∧ all rest r₀ = .ok r₁ := by
  cases args with
  | nil => exact .inl ⟨.inl rfl, h⟩
  | cons arg rest =>
    have unnamed (apart : ∀ cs, arg.toList ≠ '-' :: '-' :: cs) :
        ∀ name value, arg ≠ optionText name value := by
      rintro name value rfl
      obtain ⟨cs, hcs⟩ := toList_optionText name value
      exact apart cs hcs
    unfold all at h
    split at h
    · rename_i hyphens
      split at h
      · rename_i done
        obtain rfl : arg = "--" := String.toList_inj.mp hyphens
        exact .inl ⟨.inr (by rw [List.isEmpty_iff.mp done]), h⟩
      · cases h
    · rename_i cs _ hcs
      obtain ⟨r₀, taken, remaining⟩ := exists_ok_of_bind h
      refine .inr ⟨arg, rest, r₀, rfl, ?_, remaining⟩
      rw [eq_optionText hcs]
      exact long_takes (longParts_plain cs) taken
    · rename_i c cs single notPair hcs
      obtain ⟨r₀, taken, remaining⟩ := exists_ok_of_bind h
      refine .inr ⟨arg, rest, r₀, rfl, short_takes (unnamed fun ds hds => ?_) taken, remaining⟩
      rw [hcs] at hds
      cases hds
      exact notPair rfl
    · rename_i single notPair notSingle
      obtain ⟨r₀, taken, remaining⟩ := exists_ok_of_bind h
      exact .inr ⟨arg, rest, r₀, rfl, plain_takes (unnamed fun ds hds => notPair ds hds) taken,
        remaining⟩

theorem flagged_cons {f : FlagOption} {arg : String} {rest : List String} :
    Flagged f (arg :: rest) ↔ arg = optionText f.longName none ∨ Flagged f rest := by
  simp [Flagged, eq_comm]

theorem given_cons {o : ValueOption} {v arg : String} {rest : List String} :
    Given o v (arg :: rest) ↔ arg = optionText o.longName (some v) ∨
      (arg = optionText o.longName none ∧ rest.head? = some v) ∨ Given o v rest := by
  have next : [v] <+: rest ↔ rest.head? = some v := by
    cases rest <;> simp [eq_comm]
  rw [Given, List.infix_cons_iff, List.cons_prefix_cons, next, List.mem_cons, Given,
    eq_comm (a := optionText o.longName none), eq_comm (a := optionText o.longName (some v))]
  tauto

/-- Every flag that is set was set before or comes, and every one that comes is set. -/
theorem mem_flags_of_all {args : List String} (h : all args r = .ok r₁) (f : FlagOption) :
    f ∈ r₁.flags ↔ f ∈ r.flags ∨ Flagged f args := by
  induction args generalizing r with
  | nil =>
    obtain ⟨flags, -⟩ := settle_ok h
    simp [flags, Flagged]
  | cons arg rest ih =>
    rcases all_cases h with ⟨end_, settled⟩ | ⟨_, _, r₀, ⟨⟩, taken, remaining⟩
    · obtain ⟨flags, -⟩ := settle_ok settled
      obtain ⟨rfl, rfl⟩ : arg = "--" ∧ rest = [] := by simpa using end_
      have unnamed := optionText_ne_hyphens f.longName_plain (by cases f <;> decide) none
      simp [flags, Flagged, unnamed]
    · rw [ih remaining, taken.flags, flagged_cons, or_assoc]

/-- Every value of an option was there before, or comes; one that is waited for is the first
argument. -/
theorem lookup_values_of_all {args : List String} (h : all args r = .ok r₁) {o : ValueOption}
    (long : o ≠ .config) (v : String) :
    r₁.values.lookup o = some v ↔
      r.Holds o v ∨ (r.Awaits o ∧ args.head? = some v) ∨ Given o v args := by
  induction args generalizing r with
  | nil =>
    obtain ⟨-, -, lookup, -⟩ := settle_ok h
    simp [lookup, Given]
  | cons arg rest ih =>
    rcases all_cases h with ⟨end_, settled⟩ | ⟨_, _, r₀, ⟨⟩, taken, remaining⟩
    · obtain ⟨-, -, lookup, idle⟩ := settle_ok settled
      obtain ⟨rfl, rfl⟩ : arg = "--" ∧ rest = [] := by simpa using end_
      have unnamed := optionText_ne_hyphens o.longName_plain (by cases o <;> decide)
      have none_given : ¬Given o v [] := by simp [Given]
      simp [lookup, idle o, given_cons, fun w => (unnamed w).symm, none_given]
    · rw [ih remaining, taken.holds o long, taken.awaits o long, given_cons]
      simp only [List.head?_cons, Option.some.injEq]
      tauto

/-- A flag is set exactly if it is among the arguments. -/
theorem mem_flags_iff {args : List String} (h : all args ⟨[], [], none⟩ = .ok r) (f : FlagOption) :
    f ∈ r.flags ↔ Flagged f args := by
  simp [mem_flags_of_all h]

/-- An option has a value exactly if the arguments give it that value. -/
theorem lookup_values_iff {args : List String} (h : all args ⟨[], [], none⟩ = .ok r)
    {o : ValueOption} (long : o ≠ .config) (v : String) :
    r.values.lookup o = some v ↔ Given o v args := by
  simp [lookup_values_of_all h long, Holds, Awaits]

end Reading
end CommandLine
end NodeWarden
