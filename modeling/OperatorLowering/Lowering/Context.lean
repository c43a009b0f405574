/-
**The state of a lowering.**

A lowering extends a graph and binds the value names of the traced program to tensors of it. Like a
building step it keeps, when it fails, all that it did before. Along the way it collects trace
events and the lines of a report.

* `Lower.build`: a building step on the graph;
* `Lower.checked`: a rejection inside becomes an error of the node, naming the primitive;
* `Lower.requireOutputs`: the tensors bound to a node's outputs.
-/

import OperatorLowering.Graph.Source
import OperatorLowering.Lowering.Failure
import OperatorLowering.Lowering.Trace

namespace OperatorLowering

/-- The graph at hand, the tensors bound to value names, and what was recorded. -/
structure Context where
  graph : Graph
  bindings : NameTable Handle := .empty
  trace : List TraceEvent := []
  report : List String := []

/-- Steps of a lowering; a failure keeps the context as it stands. -/
abbrev Lower := EStateM Failure Context

namespace Lower

variable {Value : Type}

/-- A building step on the graph at hand. -/
def build (step : Build Value) : Lower Value := fun context =>
  match step context.graph with
  | .ok value graph => .ok value { context with graph }
  | .error fault graph => .error (.graph fault) { context with graph }

/-- The failure of a node for a cause. -/
def fail (node : OperatorNode) (cause : ConversionCause) : Lower Value :=
  throw (.ofNode node cause)

/-- The failure of a node whose arguments break the operator's contract. -/
def violate (node : OperatorNode) (broken : Precondition) : Lower Value :=
  fail node (.precondition broken)

/-- A step on behalf of a node. -/
def checked (node : OperatorNode) (primitive : String) (step : Lower Value) : Lower Value :=
  fun context =>
    match step context with
    | .error failure after => .error (failure.onBehalf node primitive) after
    | result => result

/-- Record an event. -/
def traceEvent (event : TraceEvent) : Lower Unit :=
  modify fun context => { context with trace := context.trace ++ [event] }

/-- Add a line to the report. -/
def reportLine (line : String) : Lower Unit :=
  modify fun context => { context with report := context.report ++ [line] }

/-- Embed a constant argument of a node. -/
def freeze (value : Literal) (node : OperatorNode) : Lower Handle :=
  checked node "constant" (build (Build.freeze value))

/-- Bind a value name to the tensor made for it. -/
def associate (value : String) (tensor : Handle) : Lower Handle := do
  traceEvent (.bound value tensor)
  modify fun context => { context with bindings := context.bindings.insert value tensor }
  return tensor

end Lower

/-- The outputs of a node that no tensor is bound to. -/
def Context.unbound (context : Context) (node : OperatorNode) : List String :=
  node.outputs.filter fun value => !context.bindings.contains value

/-- The tensors bound to some values, in the order in which the values first occur. -/
def Context.boundTo (context : Context) (values : List String) : NameTable Handle :=
  values.foldl (fun table value =>
    match context.bindings.get? value with
    | some tensor => table.insert value tensor
    | none => table) .empty

/-- The tensors bound to the outputs of a node, all of which must be bound. -/
def Lower.requireOutputs (node : OperatorNode) : Lower (NameTable Handle) := do
  let context ← get
  match context.unbound node with
  | [] => return context.boundTo node.outputs
  | missing => fail node (.lowering "output binding" (some (.unbound missing)))

end OperatorLowering
