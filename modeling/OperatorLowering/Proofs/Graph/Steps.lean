/-
**What the steps of a build add to a graph.**

The steps that every request is made of, each with the additions it makes: `Build.declareFresh`
never finds its name taken, since `Graph.uniqueName` hands out free names only; `Build.append` adds
a node and its layer; `Build.embedIndices` adds a constant, or refuses integers beyond 64 bits and
leaves the graph alone; `Build.factor` adds the transposition of an operand where one is asked for.
-/

import OperatorLowering.Graph.Arithmetic
import OperatorLowering.Proofs.Graph.Growth
import OperatorLowering.Proofs.Run

namespace OperatorLowering

namespace Build

theorem inspect_ok {Value : Type} {check : Graph → Except Fault Value} {graph : Graph}
    {value : Value} (passes : check graph = .ok value) : inspect check graph = .ok value graph := by
  simp only [inspect, passes]

theorem inspect_error {Value : Type} {check : Graph → Except Fault Value} {graph : Graph}
    {fault : Fault} (fails : check graph = .error fault) :
    inspect check graph = .error fault graph := by
  simp only [inspect, fails]

theorem inspect_eq_ok {Value : Type} {check : Graph → Except Fault Value} {graph after : Graph}
    {value : Value} :
    inspect check graph = .ok value after ↔ check graph = .ok value ∧ after = graph := by
  cases passes : check graph with
  | ok found =>
      rw [inspect_ok passes]
      constructor
      · rintro ⟨⟩
        exact ⟨rfl, rfl⟩
      · rintro ⟨⟨⟩, rfl⟩
        rfl
  | error fault =>
      rw [inspect_error passes]
      exact iff_of_false nofun nofun

/-- The next number behind a stem raises the counter by one. -/
theorem freshName_run (stem : String) (graph : Graph) :
    freshName stem graph =
      .ok (variant stem (graph.counter + 1)) { graph with counter := graph.counter + 1 } :=
  rfl

/-- Handing out a unique name raises the counter alone. -/
theorem uniqueName_run (name : String) (graph : Graph) :
    ∃ unique counter, graph.counter ≤ counter ∧ graph.tensors.contains unique = false ∧
      uniqueName name graph = .ok unique { graph with counter } := by
  obtain ⟨counter, rises, counted⟩ := graph.uniqueName_graph name
  refine ⟨(graph.uniqueName name).1, counter, rises, graph.uniqueName_free name, ?_⟩
  rw [← counted]
  rfl

theorem declare_run {name : String} {graph : Graph} (shape : Shape) (dtype : ElementType)
    (free : graph.tensors.contains name = false) :
    declare name shape dtype graph = .ok ⟨name, shape, dtype⟩
      { graph with tensors := graph.tensors.insert name ⟨name, shape, dtype⟩ } := by
  simp only [declare, free, Bool.false_eq_true, if_false]

theorem emit_run (node : Node) (graph : Graph) :
    emit node graph = .ok () { graph with nodes := graph.nodes ++ [node] } :=
  rfl

theorem record_run (layer : Layer) (graph : Graph) :
    record layer graph = .ok () { graph with layers := graph.layers ++ [layer] } :=
  rfl

/-- **A tensor can always be entered**, under some free name. -/
theorem declareFresh_run (name : String) (shape : Shape) (dtype : ElementType) (graph : Graph) :
    ∃ unique counter, graph.counter ≤ counter ∧ graph.tensors.contains unique = false ∧
      declareFresh name shape dtype graph = .ok ⟨unique, shape, dtype⟩
        { graph with
          counter
          tensors := graph.tensors.insert unique ⟨unique, shape, dtype⟩ } := by
  obtain ⟨unique, counter, rises, free, named⟩ := uniqueName_run name graph
  refine ⟨unique, counter, rises, free, ?_⟩
  unfold declareFresh
  rw [bind_run_ok named]
  exact declare_run shape dtype free

/-- **The end of every request** adds a node and its layer. -/
theorem append_run (layer : String) (primitive : Primitive) (operands : List Handle)
    (reads : List String) (shape : Shape) (dtype : ElementType) (graph : Graph)
    (known : ∀ name ∈ reads, graph.tensors.contains name = true) :
    ∃ output after, append layer primitive operands reads shape dtype graph = .ok output after ∧
      output.shape = shape ∧ output.dtype = dtype ∧
      graph.Grows [.node ⟨primitive.op, layer, reads, output.name⟩ shape dtype,
        .layer ⟨primitive, layer, operands.map Handle.name, output.name⟩] after := by
  obtain ⟨unique, counter, rises, free, declared⟩ :=
    declareFresh_run s!"{layer}_out" shape dtype graph
  let node : Node := ⟨primitive.op, layer, reads, unique⟩
  let logged : Layer := ⟨primitive, layer, operands.map Handle.name, unique⟩
  have allowed : (Addition.node node shape dtype).Allowed graph :=
    ⟨fun tensor entered => by cases entered; exact free, known⟩
  have noded := Graph.Grows.one rises allowed
  have grown := noded.trans (Graph.Grows.one (Nat.le_refl counter)
    (Addition.allowed_layer logged _))
  refine ⟨⟨unique, shape, dtype⟩, _, ?_, rfl, rfl, grown⟩
  unfold append
  rw [bind_run_ok declared, bind_run_ok (emit_run _ _), bind_run_ok (record_run _ _)]
  simp [pure, EStateM.pure, Addition.apply, Addition.enter, Addition.tensor?, Addition.node?,
    Addition.layer?, Addition.constant?, Addition.input?, node, logged]

/-- **A constant under a free name** is embedded. -/
theorem embed_run (name : String) (value : ConstantValue) (graph : Graph)
    (free : graph.tensors.contains name = false) :
    ∃ after, embed name value graph = .ok ⟨name, value.shape, value.dtype⟩ after ∧
      graph.Grows [.constant ⟨name, value⟩] after := by
  let constant : Constant := ⟨name, value⟩
  have allowed : (Addition.constant constant).Allowed graph :=
    ⟨fun tensor entered => (by cases entered; exact free), fun _ member => (by cases member)⟩
  refine ⟨_, ?_, Graph.Grows.one (Nat.le_refl graph.counter) allowed⟩
  unfold embed
  rw [bind_run_ok (declare_run _ _ free), bind_run_ok (modify_run _ _)]
  simp [pure, EStateM.pure, Addition.apply, Addition.enter, Addition.tensor?, Addition.node?,
    Addition.layer?, Addition.constant?, Addition.input?, Constant.tensor]

/-- Integers that fit are embedded as one constant. -/
theorem embedIndices_run (layer role : String) (values : List Int) (graph : Graph)
    (fits : values.all fitsIndex = true) :
    ∃ name after, embedIndices layer role values graph = .ok name after ∧
      graph.Grows [.constant ⟨name, .indices values⟩] after := by
  obtain ⟨name, counter, rises, free, named⟩ := uniqueName_run s!"{layer}_{role}" graph
  obtain ⟨after, embedded, grows⟩ := embed_run name (.indices values) { graph with counter } free
  have passes : inspect (fun _ => if values.all fitsIndex then .ok ()
      else .error .constantTooLarge) graph = .ok () graph := by
    simp only [inspect, fits, if_true]
  refine ⟨name, after, ?_, grows.raise rises⟩
  unfold embedIndices
  rw [bind_run_ok passes, bind_run_ok named, bind_run_ok embedded]
  rfl

/-- Integers beyond 64 bits are refused and leave the graph alone. -/
theorem embedIndices_refused (layer role : String) (values : List Int) (graph : Graph)
    (tooLarge : values.all fitsIndex = false) :
    embedIndices layer role values graph = .error .constantTooLarge graph := by
  have fails : inspect (fun _ => if values.all fitsIndex then .ok ()
      else .error .constantTooLarge) graph = .error .constantTooLarge graph := by
    simp only [inspect, tooLarge, Bool.false_eq_true, if_false]
  unfold embedIndices
  rw [bind_run_error fails]

/-- The additions for an operand of a product: the node that transposes it, if one is asked for. -/
def factorAdditions (swap : Bool) (tensor : Handle) (matrix : MatrixShape) (layer operand : String)
    (name : String) : List Addition :=
  if swap then
    [.node ⟨.transpose (swapLastTwoAxes tensor.rank), s!"{layer}_transpose_{operand}",
      [tensor.name], name⟩ matrix.toShape tensor.dtype]
  else []

/-- **An operand of a product** is read itself, or through one node that transposes it. -/
theorem factor_run (swap : Bool) (tensor : Handle) (matrix : MatrixShape) (layer operand : String)
    (graph : Graph) (known : graph.tensors.contains tensor.name = true) :
    ∃ name after, factor swap tensor matrix layer operand graph = .ok name after ∧
      (swap = false → name = tensor.name) ∧ after.tensors.contains name = true ∧
      graph.Grows (factorAdditions swap tensor matrix layer operand name) after := by
  cases swap with
  | false => exact ⟨tensor.name, graph, rfl, fun _ => rfl, known, Graph.Grows.refl graph⟩
  | true =>
      obtain ⟨unique, counter, rises, free, declared⟩ :=
        declareFresh_run s!"{layer}_{operand}_t" matrix.toShape tensor.dtype graph
      let node : Node := ⟨.transpose (swapLastTwoAxes tensor.rank),
        s!"{layer}_transpose_{operand}", [tensor.name], unique⟩
      have allowed : (Addition.node node matrix.toShape tensor.dtype).Allowed graph := by
        refine ⟨fun made entered => (by cases entered; exact free), fun name member => ?_⟩
        rw [List.mem_singleton.mp member]
        exact known
      have grown := Graph.Grows.one rises allowed
      have owned := (grown.enters List.mem_cons_self rfl).2
      refine ⟨unique, _, ?_, fun no => (by cases no), Graph.contains_of_owns owned, grown⟩
      unfold factor
      rw [if_pos rfl, bind_run_ok declared, bind_run_ok (emit_run _ _)]
      simp [pure, EStateM.pure, Addition.apply, Addition.enter, Addition.tensor?, Addition.node?,
        Addition.layer?, Addition.constant?, Addition.input?, node]

end Build

end OperatorLowering
