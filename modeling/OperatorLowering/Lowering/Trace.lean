/-
**Trace events.**

What a lowering does is recorded as events, each of one topic; `TraceEvent.text` is their wording.
It lists a shape between parentheses with its symbols quoted. A listing of one entry keeps a comma
behind it, so that it differs from a parenthesised entry.
-/

import OperatorLowering.Operator.Node
import OperatorLowering.Text.Quoted

namespace OperatorLowering

/-- A dimension in a listing: symbols are quoted. -/
def Dim.listed : Dim → String
  | .size n => toString n
  | .symbol name => Text.quoted name

/-- A shape as a listing: `()`, `(12,)`, `('batch', 12)`. -/
def Shape.listing : Shape → String
  | [dim] => "(" ++ dim.listed ++ ",)"
  | dims => "(" ++ String.intercalate ", " (dims.map Dim.listed) ++ ")"

/-- The part of a lowering that an event comes from. -/
inductive Topic where
  | registry
  | context
  | broadcast
  | cell
  deriving DecidableEq

/-- A tensor of a recurrent cell. -/
inductive CellTensor where
  | input
  | inputWeights
  | hiddenWeights
  | hiddenState
  | cellState
  | hiddenOutput
  | cellOutput
  deriving DecidableEq

/-- How events name a tensor of a cell. -/
def CellTensor.text : CellTensor → String
  | .input => "Input tensor"
  | .inputWeights => "w_ih tensor"
  | .hiddenWeights => "w_hh tensor"
  | .hiddenState => "State tensor 0"
  | .cellState => "State tensor 1"
  | .hiddenOutput => "Output tensor [hy]"
  | .cellOutput => "Output tensor [cy]"

/-- One thing a lowering did. -/
inductive TraceEvent where
  | registered (kind : String)
  | converting (node : OperatorNode)
  | bound (value : String) (tensor : Handle)
  | biasShape (name : String) (shape : Shape)
  | reshaped (name : String)
  | cellShape (tensor : CellTensor) (shape : Shape)
  deriving DecidableEq

namespace TraceEvent

/-- The topic of an event. -/
def topic : TraceEvent → Topic
  | .registered _ => .registry
  | .converting _ => .registry
  | .bound .. => .context
  | .biasShape .. => .broadcast
  | .reshaped _ => .broadcast
  | .cellShape .. => .cell

/-- The wording of an event. -/
def text : TraceEvent → String
  | .registered kind => s!"Registered converter for {kind}"
  | .converting node => s!"Converting node {node.text}"
  | .bound value tensor => s!"Binding %{value} to {tensor.text}"
  | .biasShape name shape => s!"{name} tensor shape: {shape.listing}"
  | .reshaped name => s!"{name}'s dimensions need to be reshaped"
  | .cellShape tensor shape => s!"{tensor.text} shape: {shape.listing}"

end TraceEvent

end OperatorLowering
