/-
**How graphs grow.**

A graph grows by additions: an input, a constant or a node, each with a tensor under a name that was
free, and layers of the log. `Grows before additions after` says that `after` is `before` with these
additions made one after the other, the counter rising on the way. Everything that later proofs need
to know of a run of a builder step is the list of its additions:

* `Grows.nodes`, `Grows.constants`, `Grows.inputs`, `Grows.layers`: the four lists grow at their ends
  by what the additions hold, and `Grows.entries` the table by their tensors;
* `Grows.nodes_of_constants` and its siblings: constants leave the other lists alone;
* `Grows.keeps`: a name keeps its tensor;
* `Grows.enters`: the tensor of an addition is new before and the graph's own afterwards.
-/

import OperatorLowering.Proofs.Graph.Naming

namespace OperatorLowering

/-- The tensor of a constant. -/
def Constant.tensor (constant : Constant) : Handle :=
  ⟨constant.name, constant.value.shape, constant.value.dtype⟩

/-- One addition to a graph. A node comes with the shape and element type of its output. -/
inductive Addition where
  | input (tensor : Handle)
  | constant (made : Constant)
  | node (made : Node) (shape : Shape) (dtype : ElementType)
  | layer (made : Layer)

namespace Addition

/-- The tensor that an addition enters in the table. -/
def tensor? : Addition → Option Handle
  | .input tensor => some tensor
  | .constant made => some made.tensor
  | .node made shape dtype => some ⟨made.output, shape, dtype⟩
  | .layer _ => none

/-- The declared input of an addition. -/
def input? : Addition → Option Handle
  | .input tensor => some tensor
  | _ => none

/-- The constant of an addition. -/
def constant? : Addition → Option Constant
  | .constant made => some made
  | _ => none

/-- The node of an addition. -/
def node? : Addition → Option Node
  | .node made _ _ => some made
  | _ => none

/-- The layer of an addition. -/
def layer? : Addition → Option Layer
  | .layer made => some made
  | _ => none

/-- The names that an addition reads. -/
def reads : Addition → List String
  | .node made _ _ => made.inputs
  | _ => []

/-- The table with the tensor of an addition. -/
def enter (addition : Addition) (tensors : NameTable Handle) : NameTable Handle :=
  match addition.tensor? with
  | some tensor => tensors.insert tensor.name tensor
  | none => tensors

/-- The graph with an addition, and the counter where it then stands. -/
def apply (addition : Addition) (counter : Nat) (graph : Graph) : Graph where
  nodes := graph.nodes ++ addition.node?.toList
  constants := graph.constants ++ addition.constant?.toList
  inputs := graph.inputs ++ addition.input?.toList
  layers := graph.layers ++ addition.layer?.toList
  tensors := addition.enter graph.tensors
  counter := counter

/-- An addition may be made: its tensor's name is free and what it reads is there. -/
structure Allowed (addition : Addition) (graph : Graph) : Prop where
  fresh : ∀ tensor, addition.tensor? = some tensor → graph.tensors.contains tensor.name = false
  known : ∀ name ∈ addition.reads, graph.tensors.contains name = true

theorem allowed_layer (made : Layer) (graph : Graph) : (Addition.layer made).Allowed graph :=
  ⟨fun _ found => (by cases found), fun _ member => (by cases member)⟩

end Addition

/-- A graph grows by a list of additions; the counter may rise before each of them and at
the end. -/
inductive Graph.Grows : Graph → List Addition → Graph → Prop
  | done (graph : Graph) (counter : Nat) (rises : graph.counter ≤ counter) :
      Grows graph [] { graph with counter }
  | add (graph : Graph) (addition : Addition) (counter : Nat) (rest : List Addition) (after : Graph)
      (rises : graph.counter ≤ counter) (allowed : addition.Allowed graph)
      (grows : Grows (addition.apply counter graph) rest after) :
      Grows graph (addition :: rest) after

namespace Graph

/-- A graph holds the tensors that it owns under their names. -/
theorem owns_iff (graph : Graph) (tensor : Handle) :
    graph.owns tensor = true ↔ graph.tensors.get? tensor.name = some tensor := by
  simp [owns]

theorem contains_of_get? {graph : Graph} {name : String} {tensor : Handle}
    (found : graph.tensors.get? name = some tensor) : graph.tensors.contains name = true := by
  rw [NameTable.contains, found]
  rfl

theorem contains_of_owns {graph : Graph} {tensor : Handle} (owned : graph.owns tensor = true) :
    graph.tensors.contains tensor.name = true :=
  contains_of_get? ((owns_iff graph tensor).mp owned)

/-! ### One addition -/

theorem get?_enter (addition : Addition) (graph : Graph) (name : String) :
    (addition.enter graph.tensors).get? name =
      match addition.tensor? with
      | some tensor => if name = tensor.name then some tensor else graph.tensors.get? name
      | none => graph.tensors.get? name := by
  unfold Addition.enter
  cases addition.tensor? with
  | none => rfl
  | some tensor => exact NameTable.get?_insert _ _ _ _

/-- An addition leaves every other name its tensor. -/
theorem keeps_apply {addition : Addition} {counter : Nat} {graph : Graph}
    (allowed : addition.Allowed graph) {name : String} {tensor : Handle}
    (found : graph.tensors.get? name = some tensor) :
    (addition.apply counter graph).tensors.get? name = some tensor := by
  show (addition.enter graph.tensors).get? name = some tensor
  rw [get?_enter]
  cases entered : addition.tensor? with
  | none => exact found
  | some new =>
      have different : name ≠ new.name := by
        rintro rfl
        have free := allowed.fresh new entered
        rw [contains_of_get? found] at free
        cases free
      simpa only [different, if_false] using found

/-- The tensor of an addition is under its name afterwards. -/
theorem enters_apply {addition : Addition} {counter : Nat} {graph : Graph} {tensor : Handle}
    (entered : addition.tensor? = some tensor) :
    (addition.apply counter graph).tensors.get? tensor.name = some tensor := by
  show (addition.enter graph.tensors).get? tensor.name = some tensor
  rw [get?_enter, entered]
  simp only [if_true]

namespace Grows

variable {before middle after : Graph} {additions more : List Addition}

/-- A graph grows into itself by nothing. -/
theorem refl (graph : Graph) : Grows graph [] graph :=
  .done graph graph.counter (Nat.le_refl _)

/-- A raised counter is no addition. -/
theorem raise {graph : Graph} {counter : Nat} (rises : graph.counter ≤ counter)
    (grows : Grows { graph with counter } additions after) : Grows graph additions after := by
  cases grows with
  | done _ later further => exact .done graph later (Nat.le_trans rises further)
  | add _ addition later rest _ further allowed grows =>
      exact .add graph addition later rest after (Nat.le_trans rises further)
        ⟨allowed.fresh, allowed.known⟩ grows

/-- **Growing twice** is growing by both lists. -/
theorem trans (first : Grows before additions middle) (second : Grows middle more after) :
    Grows before (additions ++ more) after := by
  induction first with
  | done graph counter rises => exact raise rises second
  | add graph addition counter rest _ rises allowed _ ih =>
      exact .add graph addition counter (rest ++ more) after rises allowed (ih second)

/-- Growth by one addition. -/
theorem one {graph : Graph} {addition : Addition} {counter : Nat}
    (rises : graph.counter ≤ counter) (allowed : addition.Allowed graph) :
    Grows graph [addition] (addition.apply counter graph) :=
  .add graph addition counter [] _ rises allowed (refl _)

/-- A list of the graph to which every addition appends its part grows by the parts. -/
theorem appends {Part : Type} (list : Graph → List Part) (part? : Addition → Option Part)
    (counted : ∀ graph counter, list { graph with counter } = list graph)
    (applied : ∀ (addition : Addition) counter graph,
      list (addition.apply counter graph) = list graph ++ (part? addition).toList)
    (grows : Grows before additions after) :
    list after = list before ++ additions.filterMap part? := by
  induction grows with
  | done graph counter => rw [counted, List.filterMap_nil, List.append_nil]
  | add graph addition counter rest after _ _ _ ih =>
      rw [ih, applied, List.append_assoc, List.filterMap_cons]
      cases part? addition <;> rfl

theorem nodes (grows : Grows before additions after) :
    after.nodes = before.nodes ++ additions.filterMap Addition.node? :=
  appends Graph.nodes Addition.node? (fun _ _ => rfl) (fun _ _ _ => rfl) grows

theorem constants (grows : Grows before additions after) :
    after.constants = before.constants ++ additions.filterMap Addition.constant? :=
  appends Graph.constants Addition.constant? (fun _ _ => rfl) (fun _ _ _ => rfl) grows

theorem inputs (grows : Grows before additions after) :
    after.inputs = before.inputs ++ additions.filterMap Addition.input? :=
  appends Graph.inputs Addition.input? (fun _ _ => rfl) (fun _ _ _ => rfl) grows

theorem layers (grows : Grows before additions after) :
    after.layers = before.layers ++ additions.filterMap Addition.layer? :=
  appends Graph.layers Addition.layer? (fun _ _ => rfl) (fun _ _ _ => rfl) grows

/-- Constants are no inputs, no nodes and no layers. -/
theorem filterMap_constants {Part : Type} {part? : Addition → Option Part}
    (skips : ∀ constant, part? (.constant constant) = none) (constants : List Constant) :
    (constants.map Addition.constant).filterMap part? = [] := by
  rw [List.filterMap_map]
  exact List.filterMap_eq_nil_iff.mpr fun constant _ => skips constant

section Constants

variable {constants : List Constant}
  (grows : Grows before (constants.map Addition.constant) after)

include grows

theorem inputs_of_constants : after.inputs = before.inputs := by
  rw [grows.inputs, filterMap_constants (fun _ => rfl), List.append_nil]

theorem nodes_of_constants : after.nodes = before.nodes := by
  rw [grows.nodes, filterMap_constants (fun _ => rfl), List.append_nil]

theorem layers_of_constants : after.layers = before.layers := by
  rw [grows.layers, filterMap_constants (fun _ => rfl), List.append_nil]

end Constants

/-- The counter does not fall. -/
theorem counter (grows : Grows before additions after) : before.counter ≤ after.counter := by
  induction grows with
  | done graph counter rises => exact rises
  | add graph addition counter rest after rises _ _ ih => exact Nat.le_trans rises ih

/-- **The table grows at its end** by the tensors of the additions. -/
theorem entries (grows : Grows before additions after) :
    after.tensors.entries = before.tensors.entries ++
      (additions.filterMap Addition.tensor?).map fun tensor => (tensor.name, tensor) := by
  induction grows with
  | done graph counter => rw [List.filterMap_nil, List.map_nil, List.append_nil]
  | add graph addition counter rest after _ allowed _ ih =>
      rw [ih, List.filterMap_cons]
      show (addition.enter graph.tensors).entries ++ _ = _
      unfold Addition.enter
      cases entered : addition.tensor? with
      | none => rfl
      | some tensor =>
          simp only [NameTable.entries_insert (allowed.fresh tensor entered), List.map_cons,
            List.append_assoc, List.singleton_append]

/-- **A name keeps its tensor.** -/
theorem keeps (grows : Grows before additions after) {name : String} {tensor : Handle}
    (found : before.tensors.get? name = some tensor) :
    after.tensors.get? name = some tensor := by
  induction grows with
  | done => exact found
  | add graph addition counter rest after _ allowed _ ih => exact ih (keeps_apply allowed found)

theorem keeps_contains (grows : Grows before additions after) {name : String}
    (there : before.tensors.contains name = true) : after.tensors.contains name = true := by
  obtain ⟨tensor, found⟩ := Option.isSome_iff_exists.mp there
  exact contains_of_get? (grows.keeps found)

/-- A tensor stays the graph's own. -/
theorem keeps_owns (grows : Grows before additions after) {tensor : Handle}
    (owned : before.owns tensor = true) : after.owns tensor = true :=
  (owns_iff after tensor).mpr (grows.keeps ((owns_iff before tensor).mp owned))

/-- **The tensor of an addition** is not there before and is the graph's own afterwards. -/
theorem enters (grows : Grows before additions after) {addition : Addition}
    (member : addition ∈ additions) {tensor : Handle} (entered : addition.tensor? = some tensor) :
    before.tensors.contains tensor.name = false ∧ after.owns tensor = true := by
  induction grows with
  | done => cases member
  | add graph first counter rest after _ allowed grows ih =>
      rcases List.mem_cons.mp member with rfl | later
      · exact ⟨allowed.fresh tensor entered,
          (owns_iff after tensor).mpr (grows.keeps (enters_apply entered))⟩
      · obtain ⟨free, owned⟩ := ih later
        refine ⟨?_, owned⟩
        -- Had the name been there before, it would be there after the first addition too.
        cases there : graph.tensors.contains tensor.name with
        | false => rfl
        | true =>
            obtain ⟨old, found⟩ := Option.isSome_iff_exists.mp there
            rw [contains_of_get? (keeps_apply allowed found)] at free
            cases free

/-- Two additions never enter one name. -/
theorem distinct (grows : before.Grows additions after) :
    ((additions.filterMap Addition.tensor?).map Handle.name).Nodup := by
  induction grows with
  | done => exact List.nodup_nil
  | add graph addition counter rest after _ allowed grows ih =>
      cases entered : addition.tensor? with
      | none => rwa [List.filterMap_cons_none entered]
      | some tensor =>
          rw [List.filterMap_cons_some entered, List.map_cons]
          refine List.nodup_cons.mpr ⟨?_, ih⟩
          intro again
          obtain ⟨other, member, same⟩ := List.mem_map.mp again
          obtain ⟨later, listed, enteredLater⟩ := List.mem_filterMap.mp member
          have free := (grows.enters listed enteredLater).1
          rw [same, contains_of_get? (enters_apply entered)] at free
          cases free

/-- What a graph owns it owned before, or it is the tensor of an addition. -/
theorem owned_cases (grows : Grows before additions after) {tensor : Handle}
    (owned : after.owns tensor = true) :
    before.owns tensor = true ∨ ∃ addition ∈ additions, addition.tensor? = some tensor := by
  induction grows with
  | done => exact Or.inl owned
  | add graph first counter rest after _ _ _ ih =>
      rcases ih owned with there | ⟨addition, member, entered⟩
      · rw [owns_iff] at there
        have shown : (first.enter graph.tensors).get? tensor.name = some tensor := there
        rw [get?_enter] at shown
        cases entered : first.tensor? with
        | none =>
            rw [entered] at shown
            exact Or.inl ((owns_iff graph tensor).mpr shown)
        | some new =>
            rw [entered] at shown
            by_cases same : tensor.name = new.name
            · simp only [same, if_true, Option.some.injEq] at shown
              exact Or.inr ⟨first, List.mem_cons_self, shown ▸ entered⟩
            · simp only [same, if_false] at shown
              exact Or.inl ((owns_iff graph tensor).mpr shown)
      · exact Or.inr ⟨addition, List.mem_cons_of_mem first member, entered⟩

/-- Constants that were added are there afterwards. -/
theorem knows_constants {constants : List Constant}
    (grows : Grows before (constants.map Addition.constant) after) (name : String)
    (member : name ∈ constants.map Constant.name) : after.tensors.contains name = true := by
  obtain ⟨constant, listed, rfl⟩ := List.mem_map.mp member
  have owned := (grows.enters (List.mem_map_of_mem listed) rfl).2
  exact contains_of_owns owned

end Grows

end Graph

end OperatorLowering
