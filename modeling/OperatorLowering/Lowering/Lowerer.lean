/-
**Lowering single nodes.**

A lowerer converts one node at a time with the standard registry, each in a context of its own over
a graph that is handed on. It can also export the graph with the node's outputs. A verbose lowerer
reports what it made.
-/

import OperatorLowering.Graph.Model
import OperatorLowering.Lowering.Registry

namespace OperatorLowering

/-- The settings of a lowerer. -/
structure Lowerer where
  verbose : Bool := false
  opset : Int := Model.defaultOpset
  checked : Bool := true

namespace Lowerer

/-- The context in which a lowerer starts on a graph. -/
def start (graph : Graph) : Context :=
  { graph, trace := Registry.standardEvents }

/-- The line that reports a lowered node. -/
def loweredLine (node : OperatorNode) (outputs : NameTable Handle) : String :=
  let each := outputs.entries.map fun (value, tensor) => s!"%{value} -> {tensor.text}"
  let produced := String.intercalate ", " each
  s!"Lowered {node.kind} ({node.name}): {produced}"

/-- Lower one node; the tensors of its outputs. -/
def lower (lowerer : Lowerer) (node : OperatorNode) (arguments : List Argument) :
    Lower (NameTable Handle) := do
  let outputs ← Registry.standard.convert node arguments
  if lowerer.verbose then Lower.reportLine (loweredLine node outputs) else pure ()
  return outputs

/-- Lower one node and export the graph with its outputs, under the given name or, if that is empty
or none, the name of the node. -/
def convert (lowerer : Lowerer) (node : OperatorNode) (arguments : List Argument)
    (graphName : Option String := none) : Lower Model := do
  let outputs ← lowerer.lower node arguments
  let options : ExportOptions :=
    { graphName := (graphName.filter (· ≠ "")).getD node.name
      opset := lowerer.opset
      checked := lowerer.checked }
  let model ← Lower.build (Build.inspect fun graph => graph.toModel outputs.values options)
  if lowerer.verbose then
    Lower.reportLine s!"Exported {model.nodes.length} ONNX nodes (opset {lowerer.opset})"
  else pure ()
  return model

end Lowerer

end OperatorLowering
