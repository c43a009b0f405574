/-
**Graphs that differ in names.**

What one run appends to its graph is what another appends to its own, renamed: the renaming keeps
the names of the tensors that both were given and matches the names that are new on the one side
with those that are new on the other. Graphs in step are such graphs.

* `Graph.Renames`: what was appended, and its renaming;
* `Runs.Lockstep.renames`: graphs in step differ in names alone.
-/

import Mathlib.Data.Set.Function
import OperatorLowering.Proofs.Graph.Lockstep

namespace OperatorLowering

/-- The names of tensors that a graph has and an earlier one had not. -/
def Graph.newNames (before after : Graph) : Set String :=
  {name | name ∈ after.tensors.names ∧ name ∉ before.tensors.names}

/-- A tensor under another name. -/
def Handle.rename (change : String → String) (tensor : Handle) : Handle :=
  { tensor with name := change tensor.name }

/-- A constant under another name. -/
def Constant.rename (change : String → String) (constant : Constant) : Constant :=
  { constant with name := change constant.name }

/-- The same operator on renamed tensors. The name of the node is of no account. -/
def Node.Renames (change : String → String) (node node' : Node) : Prop :=
  node'.op = node.op ∧ node'.inputs = node.inputs.map change ∧ node'.output = change node.output

/-- The same primitive of renamed tensors. The name of the layer is of no account. -/
def Layer.Renames (change : String → String) (layer layer' : Layer) : Prop :=
  layer'.primitive = layer.primitive ∧ layer'.inputs = layer.inputs.map change ∧
    layer'.output = change layer.output

/-- Two lists have grown at their ends by items that belong together. -/
def GrewAlike {Item : Type} (relates : Item → Item → Prop)
    (before after before' after' : List Item) : Prop :=
  ∃ new new', after = before ++ new ∧ after' = before' ++ new' ∧ List.Forall₂ relates new new'

/-- **What was appended to a graph, renamed**: in nodes, constants, layers and tensors it is what
was appended to the other one, and the new names match one to one. -/
structure Graph.Renames (change : String → String) (before after before' after' : Graph) :
    Prop where
  nodes : GrewAlike (Node.Renames change) before.nodes after.nodes before'.nodes after'.nodes
  constants : GrewAlike (fun constant constant' => constant' = constant.rename change)
    before.constants after.constants before'.constants after'.constants
  layers : GrewAlike (Layer.Renames change) before.layers after.layers before'.layers after'.layers
  tensors : GrewAlike (fun entry entry' => entry' = (change entry.1, entry.2.rename change))
    before.tensors.entries after.tensors.entries before'.tensors.entries after'.tensors.entries
  inputs : after.inputs = before.inputs ∧ after'.inputs = before'.inputs
  names : Set.BijOn change (before.newNames after) (before'.newNames after')

/-! ### The names of twins -/

/-- The name of the twin of a tensor, and every other name as it is. -/
def Twins.rename (twins : Twins) (name : String) : String :=
  match twins.find? fun pair => pair.1.name = name with
  | some pair => pair.2.name
  | none => name

/-- Tensors with one name have twins with one name, and the other way round. -/
def Twins.Unique (twins : Twins) : Prop :=
  ∀ pair ∈ twins, ∀ other ∈ twins, pair.1.name = other.1.name ↔ pair.2.name = other.2.name

namespace Twins

variable {twins : Twins}

theorem Unique.rename (unique : twins.Unique) {name name' : String}
    (named : twins.Name name name') : twins.rename name = name' := by
  obtain ⟨pair, member, rfl, rfl⟩ := named
  cases found : twins.find? (fun other => other.1.name = pair.1.name) with
  | none =>
      have missing := List.find?_eq_none.mp found pair member
      simp at missing
  | some other =>
      have same : other.1.name = pair.1.name := by simpa using List.find?_some found
      rw [Twins.rename, found]
      exact (unique other (List.mem_of_find?_eq_some found) pair member).mp same

theorem Unique.rename_list (unique : twins.Unique) {names names' : List String}
    (named : List.Forall₂ twins.Name names names') : names' = names.map twins.rename := by
  induction named with
  | nil => rfl
  | cons first _ ih => rw [List.map_cons, unique.rename first, ih]

/-- Renamed twins are twins. -/
theorem Unique.rename_tensor (unique : twins.Unique)
    (typed : ∀ pair ∈ twins, pair.1.type = pair.2.type) {tensor tensor' : Handle}
    (member : twins.Tensor tensor tensor') : tensor' = tensor.rename twins.rename := by
  have name := unique.rename (name_of_mem member)
  have same := typed _ member
  obtain ⟨_, shape, dtype⟩ := tensor
  obtain ⟨_, shape', dtype'⟩ := tensor'
  cases same
  exact congrArg (Handle.mk · shape dtype) name.symm

end Twins

namespace Graph.Grows

/-- The names of a grown graph that are new are those of its additions. -/
theorem mem_newNames {before after : Graph} {additions : List Addition}
    (grows : before.Grows additions after) (name : String) :
    name ∈ before.newNames after ↔ name ∈ (Addition.tensors additions).map Handle.name := by
  have names : after.tensors.names =
      before.tensors.names ++ (Addition.tensors additions).map Handle.name := by
    rw [NameTable.names, grows.entries, List.map_append, List.map_map]
    rfl
  have fresh : name ∈ (Addition.tensors additions).map Handle.name →
      name ∉ before.tensors.names := by
    intro member there
    obtain ⟨tensor, listed, rfl⟩ := List.mem_map.mp member
    obtain ⟨addition, added, entered⟩ := List.mem_filterMap.mp listed
    have free := (grows.enters added entered).1
    rw [(NameTable.contains_iff _ _).mpr there] at free
    cases free
  rw [newNames, Set.mem_ofPred_eq, names, List.mem_append]
  constructor
  · rintro ⟨there | new, absent⟩
    · exact absurd there absent
    · exact new
  · intro new
    exact ⟨Or.inr new, fresh new⟩

end Graph.Grows

/-! ### Graphs in step -/

/-- Neither of two additions of one kind declares an input. -/
theorem Addition.no_inputs {twins : Twins} {additions additions' : List Addition}
    (alike : List.Forall₂ (Addition.Alike twins) additions additions') :
    additions.filterMap Addition.input? = [] ∧ additions'.filterMap Addition.input? = [] := by
  induction alike with
  | nil => exact ⟨rfl, rfl⟩
  | cons same _ ih =>
      cases same <;> exact ih

namespace Runs

variable {runs : Runs} {twins : Twins} {graph graph' : Graph}

/-- What both runs are given is there when they start. -/
def Given (runs : Runs) : Prop :=
  ∀ tensor ∈ runs.shared, runs.first.owns tensor = true ∧ runs.second.owns tensor = true

namespace Lockstep

/-- **The names of twins** match one to one. -/
theorem unique (lockstep : runs.Lockstep twins graph graph') (given : runs.Given) :
    twins.Unique := by
  obtain ⟨additions, additions', grows, grows', alike, rfl⟩ := lockstep.grows
  have counts := (Addition.types_of_alike alike).length_eq
  -- A name of a tensor that was given is taken, and a new name is free.
  have apart {tensor : Handle} (listed : tensor ∈ runs.shared) {pair : Handle × Handle}
      (member : pair ∈ (Addition.tensors additions).zip (Addition.tensors additions')) :
      tensor.name ≠ pair.1.name ∧ tensor.name ≠ pair.2.name := by
    obtain ⟨inFirst, inSecond⟩ := List.of_mem_zip member
    obtain ⟨owned, owned'⟩ := given tensor listed
    constructor
    · intro same
      have new := (grows.mem_newNames pair.1.name).mpr (List.mem_map_of_mem inFirst)
      rw [← same] at new
      exact new.2 ((NameTable.contains_iff _ _).mp (Graph.contains_of_owns owned))
    · intro same
      have new := (grows'.mem_newNames pair.2.name).mpr (List.mem_map_of_mem inSecond)
      rw [← same] at new
      exact new.2 ((NameTable.contains_iff _ _).mp (Graph.contains_of_owns owned'))
  have firsts : (((Addition.tensors additions).zip (Addition.tensors additions')).map
      fun pair => pair.1.name).Nodup := by
    have names := congrArg (List.map Handle.name) (List.map_fst_zip (Nat.le_of_eq counts))
    rw [List.map_map] at names
    exact names ▸ grows.distinct
  have seconds : (((Addition.tensors additions).zip (Addition.tensors additions')).map
      fun pair => pair.2.name).Nodup := by
    have names := congrArg (List.map Handle.name) (List.map_snd_zip (Nat.le_of_eq counts.symm))
    rw [List.map_map] at names
    exact names ▸ grows'.distinct
  intro pair member other member'
  rcases List.mem_append.mp member with old | new <;>
    rcases List.mem_append.mp member' with old' | new'
  · obtain ⟨tensor, _, rfl⟩ := List.mem_map.mp old
    obtain ⟨tensor', _, rfl⟩ := List.mem_map.mp old'
    exact Iff.rfl
  · obtain ⟨tensor, listed, rfl⟩ := List.mem_map.mp old
    exact iff_of_false (apart listed new').1 (apart listed new').2
  · obtain ⟨tensor, listed, rfl⟩ := List.mem_map.mp old'
    exact iff_of_false (apart listed new).1.symm (apart listed new).2.symm
  · constructor
    · intro same
      rw [List.inj_on_of_nodup_map firsts new new' same]
    · intro same
      rw [List.inj_on_of_nodup_map seconds new new' same]

/-- Tensors that were added to the one graph are those that were added to the other, renamed. -/
theorem renames_tensors (lockstep : runs.Lockstep twins graph graph') (unique : twins.Unique)
    {additions additions' : List Addition}
    (alike : List.Forall₂ (Addition.Alike twins) additions additions')
    (are : twins = runs.start ++ (Addition.tensors additions).zip (Addition.tensors additions')) :
    Addition.tensors additions' = (Addition.tensors additions).map (Handle.rename twins.rename) := by
  have paired : List.Forall₂ (fun tensor tensor' => tensor' = tensor.rename twins.rename)
      (Addition.tensors additions) (Addition.tensors additions') := by
    refine List.forall₂_iff_zip.mpr ⟨(Addition.types_of_alike alike).length_eq, ?_⟩
    intro tensor tensor' member
    refine unique.rename_tensor lockstep.typed ?_
    rw [are]
    exact List.mem_append_right _ member
  generalize Addition.tensors additions = tensors at paired
  generalize Addition.tensors additions' = tensors' at paired
  induction paired with
  | nil => rfl
  | cons first _ ih => rw [List.map_cons, first, ih]

/-- The new names match one to one. -/
theorem renames_names (unique : twins.Unique) {additions additions' : List Addition}
    (grows : runs.first.Grows additions graph) (grows' : runs.second.Grows additions' graph')
    (tensors : Addition.tensors additions' =
      (Addition.tensors additions).map (Handle.rename twins.rename))
    (are : twins = runs.start ++ (Addition.tensors additions).zip (Addition.tensors additions')) :
    Set.BijOn twins.rename (runs.first.newNames graph) (runs.second.newNames graph') := by
  have image : runs.second.newNames graph' = twins.rename '' runs.first.newNames graph := by
    ext name
    simp only [grows'.mem_newNames, tensors, List.map_map, List.mem_map, Set.mem_image,
      grows.mem_newNames, Function.comp_apply, exists_exists_and_eq_and]
    rfl
  have twin {tensor : Handle} (member : tensor ∈ Addition.tensors additions) :
      twins.Tensor tensor (tensor.rename twins.rename) := by
    have paired : (tensor, tensor.rename twins.rename) ∈
        (Addition.tensors additions).zip (Addition.tensors additions') := by
      rw [tensors, ← List.map_prod_left_eq_zip]
      exact List.mem_map_of_mem (f := fun tensor => (tensor, tensor.rename twins.rename)) member
    have listed := List.mem_append_right runs.start paired
    rwa [← are] at listed
  rw [image]
  refine Set.InjOn.bijOn_image ?_
  intro name member name' member' same
  rw [grows.mem_newNames] at member member'
  obtain ⟨tensor, listed, rfl⟩ := List.mem_map.mp member
  obtain ⟨tensor', listed', rfl⟩ := List.mem_map.mp member'
  exact (unique _ (twin listed) _ (twin listed')).mpr same

/-- **Graphs in step differ in names alone**, and keep the names of the tensors they were given. -/
theorem renames (lockstep : runs.Lockstep twins graph graph') (given : runs.Given) :
    Graph.Renames twins.rename runs.first graph runs.second graph' ∧
      ∀ tensor ∈ runs.shared, twins.rename tensor.name = tensor.name := by
  have unique := lockstep.unique given
  obtain ⟨additions, additions', grows, grows', alike, are⟩ := lockstep.grows
  have tensors := renames_tensors lockstep unique alike are
  refine ⟨⟨?_, ?_, ?_, ?_, ?_, renames_names unique grows grows' tensors are⟩, ?_⟩
  · refine ⟨_, _, grows.nodes, grows'.nodes, List.rel_filterMap ?_ alike⟩
    intro addition addition' same
    cases same with
    | constant value named => exact .none
    | node op shape dtype read made =>
        exact .some ⟨rfl, unique.rename_list read, (unique.rename made).symm⟩
    | layer primitive read made => exact .none
  · refine ⟨_, _, grows.constants, grows'.constants, List.rel_filterMap ?_ alike⟩
    intro addition addition' same
    cases same with
    | constant value named =>
        exact .some (congrArg (Constant.mk · value) (unique.rename named).symm)
    | node op shape dtype read made => exact .none
    | layer primitive read made => exact .none
  · refine ⟨_, _, grows.layers, grows'.layers, List.rel_filterMap ?_ alike⟩
    intro addition addition' same
    cases same with
    | constant value named => exact .none
    | node op shape dtype read made => exact .none
    | layer primitive read made =>
        exact .some ⟨rfl, unique.rename_list read, (unique.rename made).symm⟩
  · refine ⟨_, _, grows.entries, grows'.entries, ?_⟩
    rw [← Addition.tensors, ← Addition.tensors, tensors, List.map_map, List.forall₂_map_left_iff,
      List.forall₂_map_right_iff, List.forall₂_same]
    exact fun _ _ => rfl
  · have inputs := Addition.no_inputs alike
    exact ⟨by rw [grows.inputs, inputs.1, List.append_nil],
      by rw [grows'.inputs, inputs.2, List.append_nil]⟩
  · exact fun tensor listed => unique.rename (Twins.name_of_mem (lockstep.shared listed))

end Lockstep

end Runs

end OperatorLowering
