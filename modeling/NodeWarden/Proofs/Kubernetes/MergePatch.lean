import Mathlib.Tactic.Common
import NodeWarden.Kubernetes.Object
import NodeWarden.Proofs.Json.RoundTrip

/-!
# Merge patches of nodes

A merge patch (RFC 7386) replaces the fields of an object that it names, and those of a part
of the object that it gives an object for; a field that it gives null for is removed. The
two patches that an agent sends do to a node object what the two changes do to what an agent
reads of it (`nodeState?_cordonPatch`, `nodeState?_labelsPatch`), whatever else is in the
object and whatever is not.
-/

namespace NodeWarden

namespace Json

/-- The fields without those of a name. -/
def without (name : String) (fields : List (String × Json)) : List (String × Json) :=
  fields.filter (·.1 != name)

mutual

/-- A value after a merge patch. -/
def mergePatch : Json → Json → Json
  | target, obj changes => obj (mergeFields (target.fields?.getD []) changes)
  | _, patch => patch

/-- The fields of an object after the changes of a merge patch, one after the other. -/
def mergeFields : List (String × Json) → List (String × Json) → List (String × Json)
  | fields, [] => fields
  | fields, (name, null) :: rest => mergeFields (without name fields) rest
  | fields, (name, patch) :: rest =>
    let old := ((obj fields).field? name).getD null
    mergeFields (without name fields ++ [(name, mergePatch old patch)]) rest

end

/-- The fields of a part of an object; none if there is no such part. -/
def part (name : String) (o : Json) : List (String × Json) :=
  ((o.field? name).bind fields?).getD []

/-- Only the field that is set has changed. -/
theorem field?_set (fields : List (String × Json)) (name other : String) (v : Json) :
    (obj (without name fields ++ [(name, v)])).field? other =
      if other = name then some v else (obj fields).field? other := by
  rw [field?, without, List.find?_append, List.find?_filter]
  by_cases same : other = name
  · subst same
    have gone : (fields.find? fun f => (f.1 != other) = true ∧ (f.1 == other) = true) = none :=
      List.find?_eq_none.mpr fun f _ => by simp
    rw [gone, if_pos rfl]
    simp
  · have kept : (fun f : String × Json => decide ((f.1 != name) = true ∧ (f.1 == other) = true)) =
        fun f => f.1 == other := by
      funext f
      by_cases h : f.1 = other <;> simp [h, same]
    rw [kept, if_neg same, field?]
    simp [Ne.symm same]

/-- A change of one part leaves the other fields alone. -/
theorem mergeFields_part (fields changes : List (String × Json)) (name : String) :
    mergeFields fields [(name, obj changes)] =
      without name fields ++ [(name, obj (mergeFields (part name (obj fields)) changes))] := by
  have old : ((((obj fields).field? name).getD null).fields?).getD [] = part name (obj fields) := by
    unfold part
    cases (obj fields).field? name <;> rfl
  rw [mergeFields, mergeFields, mergePatch, old]
  exact nofun

theorem mergePatch_part (fields changes : List (String × Json)) (name : String) :
    mergePatch (obj fields) (obj [(name, obj changes)]) =
      obj (without name fields ++
        [(name, obj (mergeFields (part name (obj fields)) changes))]) := by
  rw [mergePatch, ← mergeFields_part]
  rfl

/-- What is left of fields was among them. -/
theorem mem_without {name : String} {fields : List (String × Json)} {f : String × Json}
    (h : f ∈ without name fields) :
    f ∈ fields :=
  (List.mem_filter.mp h).1

/-- What holds of all fields holds of them still when one is set for which it holds. -/
theorem forall_mem_set {P : String × Json → Prop} {name : String} {fields : List (String × Json)}
    {v : Json} (h : ∀ f ∈ fields, P f) (hv : P (name, v)) :
    ∀ f ∈ without name fields ++ [(name, v)], P f := by
  intro f hf
  rcases List.mem_append.mp hf with old | new
  · exact h f (mem_without old)
  · rw [List.mem_singleton.mp new]
    exact hv

theorem field?_writable (name : String) {fields : List (String × Json)}
    (h : FieldsWritable fields) :
    (((obj fields).field? name).getD null).Writable := by
  cases found : (obj fields).field? name with
  | none => trivial
  | some v =>
    simp only [field?, Option.map_eq_some_iff] at found
    obtain ⟨f, first, rfl⟩ := found
    exact fieldsWritable_iff.mp h f (List.mem_of_find?_eq_some first)

mutual

/-- What can be written and is patched with what can be written can be written. -/
theorem mergePatch_writable : ∀ patch target : Json, target.Writable → patch.Writable →
    (mergePatch target patch).Writable
  | obj changes, target, ht, hp => by
    rw [mergePatch, Writable]
    refine mergeFields_writable changes _ ?_ hp
    -- What is no object gives way to an empty one.
    cases target with
    | obj fields => exact ht
    | _ => trivial
  | null, _, _, hp | bool _, _, _, hp | int _, _, _, hp | real _, _, _, hp
  | str _, _, _, hp | arr _, _, _, hp => by
    rw [mergePatch]
    · exact hp
    · exact nofun

theorem mergeFields_writable : ∀ changes fields : List (String × Json), FieldsWritable fields →
    FieldsWritable changes → FieldsWritable (mergeFields fields changes)
  | [], _, hf, _ => by rwa [mergeFields]
  | (name, patch) :: rest, fields, hf, hc => by
    have removed : FieldsWritable (without name fields) :=
      fieldsWritable_iff.mpr fun f h => fieldsWritable_iff.mp hf f (mem_without h)
    by_cases none : patch = null
    · rw [none, mergeFields]
      exact mergeFields_writable rest _ removed hc.2
    · have merged := mergePatch_writable patch _ (field?_writable name hf) hc.1
      have set : FieldsWritable (without name fields ++ [(name, _)]) :=
        fieldsWritable_iff.mpr (forall_mem_set (fieldsWritable_iff.mp hf) merged)
      rw [mergeFields]
      · exact mergeFields_writable rest _ set hc.2
      · exact none

end

end Json

namespace Kubernetes

open Json (mergePatch mergeFields without part obj str)

/-! ## The shape of a patched object -/

theorem Schema.record_accepts_iff {known : List (String × Schema)} {fields : List (String × Json)} :
    (record known).accepts (obj fields) = true ↔
      ∀ f ∈ fields, acceptsField known f.1 f.2 = true := by
  rw [accepts, List.all_eq_true]

theorem Schema.record_accepts {known : List (String × Schema)} {o : Json}
    (h : (record known).accepts o = true) :
    ∃ fields, o = obj fields ∧ ∀ f ∈ fields, acceptsField known f.1 f.2 = true := by
  cases o with
  | obj fields => exact ⟨fields, rfl, record_accepts_iff.mp h⟩
  | _ => simp [accepts] at h

/-- A record may have a field set to what that field may hold. -/
theorem Schema.acceptsFields_set {known : List (String × Schema)} {fields : List (String × Json)}
    (name : String) (v : Json) (h : ∀ f ∈ fields, acceptsField known f.1 f.2 = true)
    (hv : acceptsField known name v = true) :
    ∀ f ∈ without name fields ++ [(name, v)], acceptsField known f.1 f.2 = true :=
  Json.forall_mem_set h hv

/-- The value that a record has for a field has the shape that is known for the field. -/
theorem Schema.acceptsField_of_field? {known : List (String × Schema)}
    {fields : List (String × Json)} {name : String} {v : Json}
    (h : ∀ f ∈ fields, acceptsField known f.1 f.2 = true)
    (found : (obj fields).field? name = some v) :
    acceptsField known name v = true := by
  simp only [Json.field?, Option.map_eq_some_iff] at found
  obtain ⟨f, first, rfl⟩ := found
  have named : f.1 = name := by simpa using List.find?_some first
  rw [← named]
  exact h f (List.mem_of_find?_eq_some first)

/-- A part of a record has the shape that is known for it, if it has any fields. -/
theorem Schema.accepts_part {known : List (String × Schema)} {s : Schema}
    {fields : List (String × Json)} {name : String}
    (h : ∀ f ∈ fields, acceptsField known f.1 f.2 = true)
    (shape : ∀ v, acceptsField known name v = (v == .null || s.accepts v)) :
    part name (obj fields) = [] ∨ s.accepts (obj (part name (obj fields))) = true := by
  unfold part
  cases found : (obj fields).field? name with
  | none => exact .inl rfl
  | some v =>
    have accepted := acceptsField_of_field? h found
    rw [shape] at accepted
    cases v with
    | obj inside => exact .inr accepted
    | _ => exact .inl rfl

/-- So a part that is a record has the fields of one, -/
theorem Schema.acceptsFields_part {known inner : List (String × Schema)}
    {fields : List (String × Json)} (name : String)
    (h : ∀ f ∈ fields, acceptsField known f.1 f.2 = true)
    (shape : ∀ v, acceptsField known name v = (v == .null || (record inner).accepts v)) :
    ∀ f ∈ part name (obj fields), acceptsField inner f.1 f.2 = true := by
  rcases accepts_part h shape with none | accepted
  · rw [none]
    exact nofun
  · exact record_accepts_iff.mp accepted

theorem Schema.table_accepts_iff {s : Schema} {fields : List (String × Json)} :
    (table s).accepts (obj fields) = true ↔ ∀ f ∈ fields, s.accepts f.2 = true := by
  rw [accepts, List.all_eq_true]

/-- and a part that is a table has the values of one. -/
theorem Schema.acceptsValues_part {known : List (String × Schema)} {s : Schema}
    {fields : List (String × Json)} (name : String)
    (h : ∀ f ∈ fields, acceptsField known f.1 f.2 = true)
    (shape : ∀ v, acceptsField known name v = (v == .null || (table s).accepts v)) :
    ∀ f ∈ part name (obj fields), s.accepts f.2 = true := by
  rcases accepts_part h shape with none | accepted
  · rw [none]
    exact nofun
  · exact table_accepts_iff.mp accepted

/-- A table of texts with more texts merged into it is one still. -/
theorem Schema.acceptsValues_mergeFields (entries : List (String × String))
    {fields : List (String × Json)} (h : ∀ f ∈ fields, text.accepts f.2 = true) :
    ∀ f ∈ mergeFields fields (entries.map fun e => (e.1, str e.2)), text.accepts f.2 = true := by
  induction entries generalizing fields with
  | nil => rwa [List.map_nil, mergeFields]
  | cons e entries ih =>
    have set : ∀ f ∈ without e.1 fields ++ [(e.1, str e.2)], text.accepts f.2 = true :=
      Json.forall_mem_set h rfl
    rw [List.map_cons, mergeFields, mergePatch]
    · exact ih set
    · exact nofun
    · exact nofun

/-! ## What is read of a part -/

/-- What is in a part of an object is what is among the fields of the part. -/
theorem present?_part (outer inner : String) (o : Json) :
    (present? outer o).bind (present? inner) = present? inner (obj (part outer o)) := by
  unfold present? part
  cases o.field? outer with
  | none => rfl
  | some v => cases v <;> rfl

theorem present?_fields (name : String) (o : Json) :
    ((present? name o).bind Json.fields?).getD [] = part name o := by
  unfold present? part
  cases o.field? name with
  | none => rfl
  | some v => cases v <;> rfl

theorem present?_set_self {name : String} {fields : List (String × Json)} {v : Json}
    (h : v ≠ .null) :
    present? name (obj (without name fields ++ [(name, v)])) = some v := by
  simp [present?, Json.field?_set, h]

theorem present?_set_other {name other : String} {fields : List (String × Json)} {v : Json}
    (h : other ≠ name) :
    present? other (obj (without name fields ++ [(name, v)])) = present? other (obj fields) := by
  rw [present?, Json.field?_set, if_neg h]
  rfl

theorem part_set_self {name : String} {fields inside : List (String × Json)} :
    part name (obj (without name fields ++ [(name, obj inside)])) = inside := by
  rw [part, Json.field?_set, if_pos rfl]
  rfl

theorem part_set_other {name other : String} {fields : List (String × Json)} {v : Json}
    (h : other ≠ name) :
    part other (obj (without name fields ++ [(name, v)])) = part other (obj fields) := by
  rw [part, Json.field?_set, if_neg h, part]

/-! ## Labels -/

/-- The labels that the fields of a table give; where one is given twice, the later one counts. -/
def tableLabels (fields : List (String × Json)) (labels : Labels) : Labels :=
  fields.foldl (fun labels f => labels.insert f.1 (f.2.str?.getD "")) labels

theorem labelsOf_eq (o : Json) :
    labelsOf o = tableLabels (part "labels" (obj (part "metadata" o))) ∅ := by
  rw [labelsOf, present?_part, present?_fields, tableLabels]

/-- What a label was before does not matter where it is set in the end. -/
theorem tableLabels_insert {k v : String} (fields : List (String × Json)) {a b : Labels}
    (same : a.insert k v = b.insert k v) :
    (tableLabels (without k fields) a).insert k v = (tableLabels fields b).insert k v := by
  induction fields generalizing a b with
  | nil => exact same
  | cons f fields ih =>
    obtain ⟨l, w⟩ := f
    -- The tables on both sides differ in the label that is set at most.
    have apart (x : String) : (a.insert k v)[x]? = (b.insert k v)[x]? := by rw [same]
    simp only [Std.ExtTreeMap.getElem?_insert] at apart
    by_cases h : l = k
    · subst h
      have left : without l ((l, w) :: fields) = without l fields := by simp [without]
      rw [left]
      refine ih (Std.ExtTreeMap.ext_getElem? fun x => ?_)
      simp only [Std.ExtTreeMap.getElem?_insert]
      grind
    · have left : without k ((l, w) :: fields) = (l, w) :: without k fields := by simp [without, h]
      rw [left]
      refine ih (Std.ExtTreeMap.ext_getElem? fun x => ?_)
      simp only [Std.ExtTreeMap.getElem?_insert]
      grind

/-- Merging texts into a table sets one label after the other. -/
theorem tableLabels_mergeFields (entries : List (String × String)) (fields : List (String × Json)) :
    tableLabels (mergeFields fields (entries.map fun e => (e.1, str e.2))) ∅ =
      (tableLabels fields ∅).insertMany entries := by
  induction entries generalizing fields with
  | nil => rw [List.map_nil, mergeFields, Std.ExtTreeMap.insertMany_nil]
  | cons e entries ih =>
    obtain ⟨k, v⟩ := e
    have set : tableLabels (without k fields ++ [(k, str v)]) ∅ =
        (tableLabels fields ∅).insert k v := by
      rw [← tableLabels_insert fields rfl, tableLabels, List.foldl_append]
      rfl
    rw [List.map_cons, mergeFields, Std.ExtTreeMap.insertMany_cons, ← set, ← ih]
    · rfl
    · exact nofun

/-- Labels set one after the other are labels added. -/
theorem insertMany_toList (a l : Labels) : a.insertMany l.toList = a ∪ l := by
  refine Std.ExtTreeMap.ext_getElem? fun k => ?_
  rw [Std.ExtTreeMap.getElem?_union]
  cases found : l[k]? with
  | some v =>
    have listed := Std.ExtTreeMap.mem_toList_iff_getElem?_eq_some.mpr found
    rw [Std.ExtTreeMap.getElem?_insertMany_list_of_mem
      (by simp) Std.ExtTreeMap.distinct_keys_toList listed]
    rfl
  | none =>
    have unlisted : (l.toList.map Prod.fst).contains k = false := by
      rw [List.contains_eq_mem, decide_eq_false_iff_not, List.mem_map]
      rintro ⟨⟨x, v⟩, listed, rfl⟩
      cases found.symm.trans (Std.ExtTreeMap.mem_toList_iff_getElem?_eq_some.mp listed)
    rw [Std.ExtTreeMap.getElem?_insertMany_list_of_contains_eq_false unlisted]
    rfl

/-! ## The two patches -/

theorem nodeState?_eq_some {o : Json} {n : NodeState} :
    nodeState? o = some n ↔ Schema.node.accepts o = true ∧ nodeState o = n := by
  unfold nodeState?
  split <;> simp_all

/-- What is read of a node is in two of its parts. -/
theorem nodeState_eq (o : Json) :
    nodeState o = ⟨((present? "name" (obj (part "metadata" o))).bind Json.str?).getD "",
      ((present? "unschedulable" (obj (part "spec" o))).bind Json.bool?).getD false,
      tableLabels (part "labels" (obj (part "metadata" o))) ∅⟩ := by
  rw [nodeState, present?_part, present?_part, labelsOf_eq]

/-- The patch that cordons a node cordons what is read of it. -/
theorem nodeState?_cordonPatch {o : Json} {n : NodeState} (h : nodeState? o = some n) :
    nodeState? (mergePatch o cordonPatch) = some n.cordon := by
  obtain ⟨accepted, rfl⟩ := nodeState?_eq_some.mp h
  obtain ⟨fields, rfl, known⟩ := Schema.record_accepts accepted
  have merged : mergeFields (part "spec" (obj fields)) [("unschedulable", .bool true)] =
      without "unschedulable" (part "spec" (obj fields)) ++ [("unschedulable", .bool true)] := by
    rw [mergeFields, mergeFields, mergePatch] <;> exact nofun
  rw [cordonPatch, Json.mergePatch_part, merged, nodeState?_eq_some]
  constructor
  · have spec := Schema.acceptsFields_part "spec" known fun _ => rfl
    have changed : Schema.nodeSpec.accepts (obj _) = true :=
      Schema.record_accepts_iff.mpr (Schema.acceptsFields_set "unschedulable" (.bool true) spec rfl)
    exact Schema.record_accepts_iff.mpr (Schema.acceptsFields_set "spec" (obj _) known changed)
  · rw [nodeState_eq, nodeState_eq, part_set_self, part_set_other (by decide),
      present?_set_self (v := .bool true) nofun]
    rfl

/-- The patch that labels a node adds the labels to what is read of it. -/
theorem nodeState?_labelsPatch {o : Json} {n : NodeState} (h : nodeState? o = some n)
    (labels : Labels) :
    nodeState? (mergePatch o (labelsPatch labels)) = some (n.addLabels labels) := by
  obtain ⟨accepted, rfl⟩ := nodeState?_eq_some.mp h
  obtain ⟨fields, rfl, known⟩ := Schema.record_accepts accepted
  have metadata := Schema.acceptsFields_part "metadata" known fun _ => rfl
  have table := Schema.acceptsValues_part "labels" metadata fun _ => rfl
  rw [labelsPatch, Json.ofStrings, Json.mergePatch_part, Json.mergeFields_part, nodeState?_eq_some]
  constructor
  · have labelled : (Schema.table .text).accepts (obj _) = true :=
      Schema.table_accepts_iff.mpr (Schema.acceptsValues_mergeFields labels.toList table)
    have changed : Schema.objectMeta.accepts (obj _) = true :=
      Schema.record_accepts_iff.mpr (Schema.acceptsFields_set "labels" (obj _) metadata labelled)
    exact Schema.record_accepts_iff.mpr (Schema.acceptsFields_set "metadata" (obj _) known changed)
  · rw [nodeState_eq, nodeState_eq, part_set_self, part_set_other (by decide),
      present?_set_other (by decide), part_set_self, tableLabels_mergeFields, insertMany_toList,
      NodeState.addLabels]

end Kubernetes

end NodeWarden
