/-
**What slices read.**

A slice node is steered by four index constants. With the integers that a graph holds for them it
reads some positions along each axis of its operand, and its result is picked at these positions. A
slice that was accepted along a plan reads each axis by its own offset and stride.

* `Graph.slicePositions?`: the positions that a node reads;
* `Follows.slices`: the slices of a followed plan.
-/

import OperatorLowering.Proofs.Graph.Blocks
import OperatorLowering.Proofs.Meaning.Nodes

namespace OperatorLowering

namespace Graph

/-- **The positions that a slice node reads** of an operand of these dimensions, with the integers
that the graph holds for its constants. -/
def slicePositions? (graph : Graph) (node : Node) (dims : List Nat) : Option (List (List Nat)) :=
  match node.op, node.inputs with
  | .slice, [_, starts, stops, axes, steps] => do
    Tensor.slicePositions? (← graph.indices? starts) (← graph.indices? stops)
      (← graph.indices? axes) (← graph.indices? steps) dims
  | _, _ => none

/-- A node of the graph slices one tensor into another: its constants hold the integers for these
offsets, sizes and strides, with all axes in order. -/
structure Slices (graph : Graph) (node : Node) (operand output : Handle) (offsets : List Int)
    (counts : Shape) (strides : List Int) : Prop where
  listed : node ∈ graph.nodes
  op : node.op = .slice
  writes : node.output = output.name
  reads : ∃ starts stops axes steps, node.inputs = [operand.name, starts, stops, axes, steps] ∧
    graph.indices? starts = some offsets ∧
    graph.indices? stops = some (Span.stopsFor offsets counts strides) ∧
    graph.indices? axes = some ((List.range counts.length).map Int.ofNat) ∧
    graph.indices? steps = some strides

namespace Slices

variable {graph later : Graph} {node : Node} {operand output : Handle} {offsets strides : List Int}
  {counts : Shape}

theorem positions (slices : graph.Slices node operand output offsets counts strides)
    (dims : List Nat) :
    graph.slicePositions? node dims = Tensor.slicePositions? offsets
      (Span.stopsFor offsets counts strides) ((List.range counts.length).map Int.ofNat) strides
        dims := by
  obtain ⟨starts, stops, axes, steps, inputs, startsAre, stopsAre, axesAre, stepsAre⟩ :=
    slices.reads
  unfold slicePositions?
  rw [slices.op, inputs]
  simp only [startsAre, stopsAre, axesAre, stepsAre, Option.bind_eq_bind, Option.bind_some]

/-- A slice stays what it is. -/
theorem keeps (slices : graph.Slices node operand output offsets counts strides)
    (grown : graph.Grown later) : later.Slices node operand output offsets counts strides where
  listed := by
    obtain ⟨additions, grows⟩ := grown
    rw [grows.nodes]
    exact List.mem_append_left _ slices.listed
  op := slices.op
  writes := slices.writes
  reads := by
    obtain ⟨starts, stops, axes, steps, inputs, startsAre, stopsAre, axesAre, stepsAre⟩ :=
      slices.reads
    exact ⟨starts, stops, axes, steps, inputs, grown.keeps_indices startsAre,
      grown.keeps_indices stopsAre, grown.keeps_indices axesAre, grown.keeps_indices stepsAre⟩

end Slices

end Graph

/-- **An accepted slice** has its node, with the constants for what was asked of it. -/
theorem Request.slices_of_accepted {operand output : Handle} {offsets strides : List Int}
    {counts : Shape} {before after : Graph} (single : after.SingleAssignment)
    (accepted : (Request.slice operand offsets counts strides).Accepted before output after) :
    ∃ node, after.nodes = before.nodes ++ [node] ∧
      after.Slices node operand output offsets counts strides := by
  obtain ⟨additions, adds, grows⟩ := accepted.grows
  cases adds with
  | slice _ _ _ _ _ spans indices layer starts stops axes steps asked fit =>
      have isIndices := Shape.indices_of_spans? asked fit
      subst isIndices
      have found {name : String} {values : List Int}
          (member : (name, values) ∈ [(starts, offsets),
            (stops, Span.stopsFor offsets counts strides),
            (axes, (List.range counts.length).map Int.ofNat), (steps, strides)]) :
          after.indices? name = some values := by
        refine grows.indices?_added single (List.mem_append_left _ ?_)
        simp only [List.mem_cons, Prod.mk.injEq, List.not_mem_nil, or_false] at member
        rcases member with ⟨rfl, rfl⟩ | ⟨rfl, rfl⟩ | ⟨rfl, rfl⟩ | ⟨rfl, rfl⟩ <;> simp
      refine ⟨⟨.slice, layer, [operand.name, starts, stops, axes, steps], output.name⟩, grows.nodes,
        ?_, rfl, rfl, starts, stops, axes, steps, rfl, found (by simp), found (by simp),
        found (by simp), found (by simp)⟩
      rw [grows.nodes]
      exact List.mem_append_right _ (List.mem_singleton_self _)

/-- **The slices of a followed plan**, with their operands and outputs. -/
theorem Follows.slices {start graph : Graph} {plan : List (Request Wire)} {outputs : List Handle}
    (single : start.SingleAssignment) (follows : Follows start plan outputs graph) {index : Nat}
    {wire : Wire} {offsets strides : List Int} {counts : Shape}
    (planned : plan[index]? = some (.slice wire offsets counts strides)) :
    ∃ node operand output, wire.read id outputs = some operand ∧ outputs[index]? = some output ∧
      graph.Slices node operand output offsets counts strides := by
  induction follows with
  | start => cases planned
  | @accept plan outputs before request resolved last after follows reads accepted ih =>
      obtain ⟨additions, adds, grows⟩ := accepted.grows
      have length := follows.length
      by_cases old : index < plan.length
      · rw [List.getElem?_append_left old] at planned
        obtain ⟨node, operand, output, read, listed, slices⟩ := ih planned
        refine ⟨node, operand, output, Wire.read_append read [last], ?_,
          slices.keeps ⟨additions, grows⟩⟩
        rw [List.getElem?_append_left (length ▸ old), listed]
      · have inside := (List.getElem?_eq_some_iff.mp planned).1
        rw [List.length_append, List.length_singleton] at inside
        obtain rfl : index = plan.length := by omega
        rw [List.getElem?_concat_length, Option.some.injEq] at planned
        subst planned
        obtain ⟨operand, read, resolves⟩ := Option.bind_eq_some_iff.mp reads
        cases resolves
        have after : after.SingleAssignment := by
          obtain ⟨_, all⟩ := (follows.accept reads accepted).grown
          exact .of_grows all single
        obtain ⟨node, _, slices⟩ := Request.slices_of_accepted after accepted
        refine ⟨node, operand, last, Wire.read_append read [last], ?_, slices⟩
        rw [← length, List.getElem?_concat_length]

end OperatorLowering
