/-
**Exported models.**

A model is a graph with a choice of outputs, a name and an opset. An export is refused, in this
order: for an output the graph does not hold, for an output of a type it does not compute on, for an
opset before the first in which all operators are stable, for a dimension beyond 64 bits (inputs
before outputs), for an opset beyond 64 bits or behind the last that a model format knows, and, if
the model is checked, for an empty graph name or an empty input or output name.
-/

import OperatorLowering.Graph.Source

namespace OperatorLowering

/-- A declared input or output of a model. -/
structure ValueInfo where
  name : String
  code : Nat
  dims : Shape
  deriving DecidableEq

/-- An exported model. -/
structure Model where
  irVersion : Nat
  producer : String
  opset : Int
  graphName : String
  inputs : List ValueInfo
  outputs : List ValueInfo
  nodes : List Node
  constants : List Constant

namespace Model

/-- The producer that exported models name, which is also the default name of a graph. -/
def producerName : String := "torchlower"

/-- The opset of an export that asks for none. -/
def defaultOpset : Int := 17

/-- The last opset that each version of the model format knows, in order. -/
def formats : List (Int × Nat) :=
  [(14, 7), (18, 8), (20, 9), (22, 10), (23, 11), (24, 12), (27, 13), (28, 14)]

/-- The first version of the model format that knows an opset. -/
def formatFor? (opset : Int) : Option Nat :=
  (formats.find? fun format => opset ≤ format.1).map Prod.snd

/-- An integer beyond 64 bits is refused. -/
def requireWord (value : Int) : Except Fault Unit :=
  if fitsIndex value then .ok () else refuse (.wordRange value)

/-- The first known dimension beyond 64 bits is refused. -/
def requireDims (info : ValueInfo) : Except Fault Unit :=
  (info.dims.filterMap Dim.size?).forM requireWord

/-- The version of the model format for an opset; an opset that none knows is refused. -/
def requireFormat (opset : Int) : Except Fault Nat :=
  match formatFor? opset with
  | some version => .ok version
  | none => refuse .unknownOpset

/-- An input or output without a name is refused. -/
def requireName (info : ValueInfo) : Except Fault Unit :=
  if info.name = "" then refuse (.emptyName .valueInfo) else .ok ()

/-- The checker's demands: no empty name. -/
def check (model : Model) : Except Fault Unit := do
  if model.graphName = "" then refuse (.emptyName .graph) else pure ()
  (model.inputs ++ model.outputs).forM requireName

end Model

/-- What an export asks for besides its outputs. -/
structure ExportOptions where
  graphName : String := Model.producerName
  opset : Int := Model.defaultOpset
  checked : Bool := true

/-- The declaration of a tensor at a model's boundary. -/
def Handle.valueInfo (tensor : Handle) : Except Fault ValueInfo := do
  let code ← tensor.dtype.requireCode
  return ⟨tensor.name, code, tensor.shape⟩

/-- The model of a graph with the given outputs. -/
def Graph.toModel (graph : Graph) (outputs : List Handle) (options : ExportOptions) :
    Except Fault Model := do
  outputs.forM graph.requireOwned
  let inputs ← graph.inputs.mapM Handle.valueInfo
  let outputs ← outputs.mapM Handle.valueInfo
  if options.opset < minimumOpset then refuse (.opset options.opset) else pure ()
  (inputs ++ outputs).forM Model.requireDims
  Model.requireWord options.opset
  let irVersion ← Model.requireFormat options.opset
  let model : Model :=
    { irVersion
      producer := Model.producerName
      opset := options.opset
      graphName := options.graphName
      inputs
      outputs
      nodes := graph.nodes
      constants := graph.constants }
  if options.checked then model.check else pure ()
  return model

end OperatorLowering
