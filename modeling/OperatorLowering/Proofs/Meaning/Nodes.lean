/-
**The nodes of accepted requests are well-shaped.**

A request is accepted for what its operands declare. Its nodes are then well-shaped in every later
graph, once the symbols have sizes, if these sizes suit the request: a slice must find its elements
on axes whose size was not known, and a reshape must keep the number of elements. Steady requests
suit all sizes.

* `Request.RunsUnder`: sizes suit a request;
* `Request.wellShaped_of_adds`: the nodes of an accepted request.
-/

import OperatorLowering.Proofs.Graph.Plan
import OperatorLowering.Proofs.Graph.SingleAssignment
import OperatorLowering.Proofs.Meaning.Shapes

namespace OperatorLowering

variable {sizes : String → Nat}

/-- **Sizes suit a request**: a slice finds its elements, and a reshape keeps their number. -/
def Request.RunsUnder (sizes : String → Nat) : Request TensorType → Prop
  | .slice a offsets counts strides => a.shape.Covers sizes offsets counts strides
  | .reshape a shape => (a.shape.under sizes).prod = (shape.under sizes).prod
  | _ => True

/-- **Steady requests** suit all sizes. -/
theorem Request.runsUnder_of_steady {request : Request TensorType} (steady : request.steady = true) :
    request.RunsUnder sizes := by
  cases request with
  | matmul a b transposeA transposeB => trivial
  | elementwise a b op => trivial
  | activation a kind => trivial
  | slice a offsets counts strides =>
      intro axis name count offset stride hasDim hasCount _ _
      have member : (Dim.symbol name, Dim.size count) ∈ a.shape.zip counts := by
        refine List.mem_of_getElem? (i := axis) ?_
        rw [List.getElem?_zip_eq_some]
        exact ⟨hasDim, hasCount⟩
      have whole := List.all_eq_true.mp steady _ member
      simp [Dim.size?] at whole
  | reshape a shape =>
      have padded : shape = a.shape.padTo shape.length := of_decide_eq_true steady
      show _ = _
      rw [padded, Shape.prod_under_padTo]

/-! ### Extents in a later graph -/

section Later

variable {before grown later : Graph} {additions : List Addition}

/-- What an addition entered is owned by every later graph. -/
theorem Graph.Grows.owned_later (grows : before.Grows additions grown) (keeps : grown.Grown later)
    {addition : Addition} (member : addition ∈ additions) {tensor : Handle}
    (entered : addition.tensor? = some tensor) : later.owns tensor = true := by
  obtain ⟨more, grows'⟩ := keeps
  exact grows'.keeps_owns (grows.enters member entered).2

/-- The integers of a new index constant are found in every later graph. -/
theorem Graph.Grows.extent?_constant (grows : before.Grows additions grown)
    (keeps : grown.Grown later) (single : later.SingleAssignment) {name : String}
    {values : List Int} (member : .constant ⟨name, .indices values⟩ ∈ additions) :
    ∃ dims, later.extent? sizes name = some ⟨dims, some values⟩ := by
  have owned := grows.owned_later keeps member rfl
  have listed : (⟨name, .indices values⟩ : Constant) ∈ later.constants := by
    obtain ⟨more, grows'⟩ := keeps
    rw [grows'.constants, grows.constants]
    exact List.mem_append_left _ (List.mem_append_right _
      (List.mem_filterMap.mpr ⟨_, member, rfl⟩))
  have distinct : (later.constants.map Constant.name).Nodup :=
    (List.nodup_append.mp (List.nodup_append.mp single.distinct).1).2.1
  have found : later.tensors.get? name = some (Constant.tensor ⟨name, .indices values⟩) :=
    (owns_iff later _).mp owned
  refine ⟨(Constant.tensor ⟨name, .indices values⟩).shape.under sizes, ?_⟩
  rw [extent?, found, indices?_of_mem distinct listed]
  rfl

/-- A node whose rule gives the shape of the output that the graph owns. -/
theorem Node.wellShaped {node : Node} {output : Handle} (owned : later.owns output = true)
    (named : node.output = output.name) (operands : List Extent)
    (reads : node.inputs.mapM (later.extent? sizes) = some operands)
    (rule : node.op.dims? operands = some (output.shape.under sizes)) :
    node.WellShaped later sizes := by
  refine ⟨operands, output, reads, ?_, rule⟩
  rw [named]
  exact (Graph.owns_iff later output).mp owned

end Later

/-! ### Nodes of a request -/

namespace Request

variable {before grown later : Graph} {additions : List Addition}

/-- **A factor of a product** has the shape of its matrices, transposed if its flag is set; so does
the output of its node, if it has one. -/
theorem wellShaped_factor (grows : before.Grows additions grown) (keeps : grown.Grown later)
    {swap : Bool} {tensor : Handle} {matrix : MatrixShape} {layer operand name : String}
    (part : Build.factorAdditions swap tensor (matrix.transposeIf swap) layer operand name ⊆
      additions)
    (owned : later.owns tensor = true) (shaped : tensor.shape = matrix.toShape)
    (unswapped : swap = false → name = tensor.name) :
    (∃ values, later.extent? sizes name =
        some ⟨(matrix.transposeIf swap).toShape.under sizes, values⟩) ∧
      ∀ node ∈ (Build.factorAdditions swap tensor (matrix.transposeIf swap) layer operand
        name).filterMap Addition.node?, node.WellShaped later sizes := by
  obtain ⟨values, extent⟩ := @Graph.extent?_of_owns later sizes tensor owned
  rw [shaped] at extent
  cases swap with
  | false =>
      rw [unswapped rfl]
      exact ⟨⟨values, extent⟩, nofun⟩
  | true =>
      have entered := grows.owned_later keeps (part List.mem_cons_self) rfl
      refine ⟨Graph.extent?_of_owns entered, ?_⟩
      intro node member
      rw [List.mem_singleton.mp member]
      refine Node.wellShaped entered rfl [⟨matrix.toShape.under sizes, values⟩]
        (mapM_eq_some.mpr (.cons extent .nil)) ?_
      show transposeDims? (swapLastTwoAxes tensor.shape.length) _ = _
      rw [shaped]
      exact transposeDims?_under matrix

/-- **The node of a product** multiplies what its factors are. -/
theorem wellShaped_product {first second : MatrixShape} {batch : Shape} {output : Handle}
    {layer firstName secondName : String} (made : later.owns output = true)
    (firstIs : ∃ values, later.extent? sizes firstName =
      some ⟨first.toShape.under sizes, values⟩)
    (secondIs : ∃ values, later.extent? sizes secondName =
      some ⟨second.toShape.under sizes, values⟩)
    (inner : first.columns = second.rows)
    (batches : first.batch.broadcast? second.batch = some batch)
    (result : output.shape = batch ++ [first.rows, second.columns]) :
    Node.WellShaped later sizes ⟨.matMul, layer, [firstName, secondName], output.name⟩ := by
  obtain ⟨values, firstIs⟩ := firstIs
  obtain ⟨values', secondIs⟩ := secondIs
  refine Node.wellShaped made rfl
    [⟨first.toShape.under sizes, values⟩, ⟨second.toShape.under sizes, values'⟩]
    (mapM_eq_some.mpr (.cons firstIs (.cons secondIs .nil))) ?_
  rw [result]
  exact matmulDims?_under inner batches

/-- **The node of a combination** broadcasts what its operands are. -/
theorem wellShaped_combination {a b output : Handle} {op : Elementwise} {layer : String}
    (ownedA : later.owns a = true) (ownedB : later.owns b = true)
    (made : later.owns output = true)
    (combined : a.shape.broadcast? b.shape = some output.shape) :
    Node.WellShaped later sizes
      ⟨(Primitive.elementwise op).op, layer, [a.name, b.name], output.name⟩ := by
  obtain ⟨valuesA, extentA⟩ := @Graph.extent?_of_owns later sizes a ownedA
  obtain ⟨valuesB, extentB⟩ := @Graph.extent?_of_owns later sizes b ownedB
  have rule := @broadcastDims?_under sizes _ _ _ combined
  refine Node.wellShaped made rfl
    [⟨a.shape.under sizes, valuesA⟩, ⟨b.shape.under sizes, valuesB⟩]
    (mapM_eq_some.mpr (.cons extentA (.cons extentB .nil))) ?_
  cases op <;> exact rule

/-- **The node of an activation** keeps the shape of its operand. -/
theorem wellShaped_activation {a output : Handle} {kind : Activation} {layer : String}
    (owned : later.owns a = true) (made : later.owns output = true)
    (result : output.shape = a.shape) :
    Node.WellShaped later sizes
      ⟨(Primitive.activation kind).op, layer, [a.name], output.name⟩ := by
  obtain ⟨values, extent⟩ := @Graph.extent?_of_owns later sizes a owned
  refine Node.wellShaped made rfl [⟨a.shape.under sizes, values⟩]
    (mapM_eq_some.mpr (.cons extent .nil)) ?_
  rw [result]
  cases kind <;> rfl

/-- **The node of a reshape** keeps the number of elements. -/
theorem wellShaped_reshape (inRange : SizesInRange sizes) {a output : Handle} {target : List Int}
    {layer name : String} (owned : later.owns a = true) (made : later.owns output = true)
    (accepted : a.shape.targetIndices? output.shape = some target)
    (targetIs : ∃ dims, later.extent? sizes name = some ⟨dims, some target⟩)
    (kept : (a.shape.under sizes).prod = (output.shape.under sizes).prod) :
    Node.WellShaped later sizes ⟨.reshape, layer, [a.name, name], output.name⟩ := by
  obtain ⟨values, extent⟩ := @Graph.extent?_of_owns later sizes a owned
  obtain ⟨dims, targetIs⟩ := targetIs
  refine Node.wellShaped made rfl [⟨a.shape.under sizes, values⟩, ⟨dims, some target⟩]
    (mapM_eq_some.mpr (.cons extent (.cons targetIs .nil))) ?_
  exact targetDims?_under accepted
    (under_pos_of_target accepted fun name _ => (inRange name).1) kept

/-- **The node of a slice** reads along every axis what its constants say. -/
theorem wellShaped_slice (inRange : SizesInRange sizes) {a output : Handle} {offsets : List Int}
    {counts : Shape} {strides : List Int} {spans : List Span} {indices : SliceIndices}
    {layer starts ends axes steps : String} (owned : later.owns a = true)
    (made : later.owns output = true)
    (accepted : a.shape.spans? offsets counts strides = some spans)
    (fit : Span.indices? spans = some indices)
    (constants : ∀ constant ∈ [(starts, indices.starts), (ends, indices.ends),
      (axes, indices.axes), (steps, indices.steps)],
      ∃ dims, later.extent? sizes constant.1 = some ⟨dims, some constant.2⟩)
    (covers : a.shape.Covers sizes offsets counts strides) (result : output.shape = counts) :
    Node.WellShaped later sizes ⟨.slice, layer, [a.name, starts, ends, axes, steps], output.name⟩ := by
  obtain ⟨values, extent⟩ := @Graph.extent?_of_owns later sizes a owned
  obtain ⟨startsDims, startsIs⟩ := constants (starts, indices.starts) (by simp)
  obtain ⟨endsDims, endsIs⟩ := constants (ends, indices.ends) (by simp)
  obtain ⟨axesDims, axesIs⟩ := constants (axes, indices.axes) (by simp)
  obtain ⟨stepsDims, stepsIs⟩ := constants (steps, indices.steps) (by simp)
  refine Node.wellShaped made rfl [⟨a.shape.under sizes, values⟩,
    ⟨startsDims, some indices.starts⟩, ⟨endsDims, some indices.ends⟩,
    ⟨axesDims, some indices.axes⟩, ⟨stepsDims, some indices.steps⟩]
    (mapM_eq_some.mpr (.cons extent
      (.cons startsIs (.cons endsIs (.cons axesIs (.cons stepsIs .nil)))))) ?_
  have sliced := Shape.spans?_isSome.mp (Option.isSome_iff_exists.mpr ⟨spans, accepted⟩)
  rw [result, Shape.indices_of_spans? accepted fit]
  exact sliceDims?_under inRange sliced covers

/-- **The nodes of an accepted request** are well-shaped in every later graph, if the sizes suit the
request. -/
theorem wellShaped_of_adds (inRange : SizesInRange sizes) {request : Request Handle}
    {output : Handle} (adds : request.Adds output additions) (grows : before.Grows additions grown)
    (keeps : grown.Grown later) (single : later.SingleAssignment)
    (owned : ∀ tensor ∈ request.operands, before.owns tensor = true)
    (typed : (request.map Handle.type).type? = some output.type)
    (runs : (request.map Handle.type).RunsUnder sizes) :
    ∀ node ∈ additions.filterMap Addition.node?, node.WellShaped later sizes := by
  have still {tensor : Handle} (member : tensor ∈ request.operands) : later.owns tensor = true := by
    obtain ⟨more, grows'⟩ := keeps
    exact grows'.keeps_owns (grows.keeps_owns (owned tensor member))
  have made : later.owns output = true := by
    obtain ⟨addition, member, entered⟩ := output_of_adds adds
    exact grows.owned_later keeps member entered
  cases adds with
  | matmul a b _ transposeA transposeB first second layer firstName secondName firstShape
      secondShape firstRead secondRead =>
      have shapedA : a.shape = first.toShape := MatrixShape.ofShape?_eq_some.mp firstShape
      have shapedB : b.shape = second.toShape := MatrixShape.ofShape?_eq_some.mp secondShape
      obtain ⟨_, _, matrixA, matrixB, batch, isA, isB, inner, batches, result⟩ :=
        type?_matmul.mp typed
      obtain rfl : first = matrixA := Option.some.inj
        (firstShape.symm.trans (MatrixShape.ofShape?_eq_some.mpr isA))
      obtain rfl : second = matrixB := Option.some.inj
        (secondShape.symm.trans (MatrixShape.ofShape?_eq_some.mpr isB))
      obtain ⟨factorA, nodesA⟩ := wellShaped_factor grows keeps
        (fun _ member => List.mem_append_left _ (List.mem_append_left _ member))
        (still List.mem_cons_self) shapedA firstRead
      obtain ⟨factorB, nodesB⟩ := wellShaped_factor grows keeps
        (fun _ member => List.mem_append_left _ (List.mem_append_right _ member))
        (still (List.mem_cons_of_mem _ List.mem_cons_self)) shapedB secondRead
      intro node member
      rw [List.filterMap_append, List.filterMap_append, List.mem_append, List.mem_append] at member
      rcases member with (transposedA | transposedB) | last
      · exact nodesA node transposedA
      · exact nodesB node transposedB
      · rw [List.mem_singleton.mp last]
        exact wellShaped_product made factorA factorB inner batches result
  | elementwise a b _ op layer =>
      obtain ⟨_, combined, _⟩ := type?_elementwise.mp typed
      intro node member
      rw [List.mem_singleton.mp member]
      exact wellShaped_combination (still List.mem_cons_self)
        (still (List.mem_cons_of_mem _ List.mem_cons_self)) made combined
  | slice a _ offsets counts strides spans indices layer starts ends axes steps accepted fit =>
      obtain ⟨_, _, result⟩ := type?_slice.mp typed
      intro node member
      rw [List.mem_singleton.mp member]
      refine wellShaped_slice inRange (still List.mem_cons_self) made accepted fit ?_ runs
        (congrArg TensorType.shape result)
      intro constant listed
      refine @Graph.Grows.extent?_constant sizes _ _ _ _ grows keeps single _ _
        (List.mem_append_left _ ?_)
      simp only [List.mem_cons, List.not_mem_nil, or_false] at listed
      rcases listed with rfl | rfl | rfl | rfl <;> simp
  | activation a _ kind layer =>
      have same : a.type = output.type := Option.some.inj typed
      intro node member
      rw [List.mem_singleton.mp member]
      exact wellShaped_activation (still List.mem_cons_self) made
        (congrArg TensorType.shape same.symm)
  | reshape a _ shape target layer name accepted =>
      obtain ⟨_, _, result⟩ := Option.map_eq_some_iff.mp typed
      obtain rfl : shape = output.shape := congrArg TensorType.shape result
      intro node member
      rw [List.mem_singleton.mp member]
      exact wellShaped_reshape inRange (still List.mem_cons_self) made accepted
        (grows.extent?_constant keeps single List.mem_cons_self) runs

end Request

end OperatorLowering
