/-
**What programs can make of a graph.**

A program builds on a graph through calls: requests, inputs and literals, and lowerings in contexts
of its own, with converters that it may have registered itself. Calls may fail at any point, and the
program goes on with what they leave.

* `Graph.Reaches`: one graph becomes another through any sequence of calls;
* `Graph.Reaches.yields`: a program of calls alone makes the same of it;
* `reachable_singleAssignment`: whatever becomes of the empty graph has single assignment and
  topological order, and its exports are closed.
-/

import OperatorLowering.Proofs.Graph.SingleAssignment
import OperatorLowering.Proofs.Lowering.Calls

namespace OperatorLowering

/-- The lowerings that a program may run in a context, with any arguments. -/
inductive Lowering where
  | reconcile (primary secondary : Handle) (name : String)
  | addBias (a b : Handle) (name : String) (node : OperatorNode)
  | lstmCell (node : OperatorNode) (operands : CellOperands)
  | lower (lowerer : Lowerer) (node : OperatorNode) (arguments : List Argument)
  | convert (lowerer : Lowerer) (node : OperatorNode) (arguments : List Argument)
    (graphName : Option String)

/-- Run a lowering for what it does to the context. -/
def Lowering.run : Lowering → Lower Unit
  | .reconcile primary secondary name => discard (Lower.reconcile primary secondary name)
  | .addBias a b name node => discard (Lower.addBias a b name node)
  | .lstmCell node operands => discard (Lower.lstmCell node operands)
  | .lower lowerer node arguments => discard (lowerer.lower node arguments)
  | .convert lowerer node arguments graphName =>
    discard (lowerer.convert node arguments graphName)

theorem Lower.calling_discard {Value : Type} {step : Lower Value} (calling : Calling step) :
    Calling (discard step) :=
  calling_bind calling fun _ => calling_pure ()

theorem Lowering.calling (lowering : Lowering) : Lower.Calling lowering.run := by
  cases lowering with
  | reconcile primary secondary name =>
      exact Lower.calling_discard (Lower.calling_reconcile primary secondary name)
  | addBias a b name node => exact Lower.calling_discard (Lower.calling_addBias a b name node)
  | lstmCell node operands => exact Lower.calling_discard (Lower.calling_lstmCell node operands)
  | lower lowerer node arguments =>
      exact Lower.calling_discard (lowerer.calling_lower node arguments)
  | convert lowerer node arguments graphName =>
      exact Lower.calling_discard (lowerer.calling_convert node arguments graphName)

/-- **A graph becomes another** through any sequence of calls, whatever each of them ends in. A
registered converter may do to a graph what other calls can do. -/
inductive Graph.Reaches : Graph → Graph → Prop
  | start (graph : Graph) : Reaches graph graph
  | call {first : Graph} (before : Graph) (call : Call) (reached : Reaches first before) :
      Reaches first (final call.build before)
  | lowering {first : Graph} (context : Context) (lowering : Lowering)
      (reached : Reaches first context.graph) :
      Reaches first (final lowering.run context).graph
  | convert {first : Graph} (context : Context) (registry : Registry)
      (converters : ∀ kind entry, registry.find? kind = some entry → ∀ node arguments start,
        Reaches start.graph (final (entry.converter node arguments) start).graph)
      (node : OperatorNode) (arguments : List Argument)
      (reached : Reaches first context.graph) :
      Reaches first (final (registry.convert node arguments) context).graph

/-- **Every sequence of calls and lowerings** is a program of calls. -/
theorem Graph.Reaches.yields {first after : Graph} (reaches : first.Reaches after) :
    first.Yields (fun _ => True) after := by
  induction reaches with
  | start graph => exact .refl
  | call before call _ ih => exact ih.tail ⟨call, trivial, rfl⟩
  | lowering context lowering _ ih =>
      exact ih.trans ((lowering.calling context).final.mono fun _ _ => trivial)
  | convert context registry converters node arguments _ convertersYield ih =>
      rcases registry.graph_of_convert node arguments context with
        same | ⟨entry, bound, start, found, started, same⟩
      · rwa [same]
      · rw [same]
        exact ih.trans (started ▸ convertersYield node.kind entry found node bound start)

/-- Programs of calls are sequences of calls. -/
theorem Graph.Yields.reaches {allowed : Call → Prop} {first after : Graph}
    (yields : first.Yields allowed after) : first.Reaches after := by
  induction yields with
  | refl => exact .start first
  | tail _ step ih =>
      obtain ⟨call, _, rfl⟩ := step
      exact .call _ call ih

/-- **Every sequence of calls** lets a graph grow. -/
theorem Graph.Reaches.grown {first after : Graph} (reaches : first.Reaches after) :
    first.Grown after :=
  reaches.yields.grown

/-- **Single assignment and topological order** of every graph that calls make of the empty one; so
each of its exports is closed. -/
theorem reachable_singleAssignment {graph : Graph} (reached : Graph.empty.Reaches graph) :
    graph.SingleAssignment ∧ ∀ outputs options model,
      graph.toModel outputs options = .ok model → model.Closed := by
  obtain ⟨additions, grows⟩ := reached.grown
  have single := Graph.SingleAssignment.of_grows grows .empty
  exact ⟨single, fun outputs options model exported => single.closed exported⟩

/-- The activation of an input that bears the name which the activation would give its output. -/
def Graph.squashed : Graph :=
  final (Call.activation ⟨"tanh_1_out", [.size 2], .float32⟩ (.known .tanh)).build
    (final (Call.addInput "tanh_1_out" [.size 2] .float32).build .empty)

/-- The taken name is passed over. -/
theorem squashed_singleAssignment :
    Graph.squashed.nodes = [⟨.tanh, "tanh_1", ["tanh_1_out"], "tanh_1_out_2"⟩] ∧
      Graph.squashed.SingleAssignment ∧ ∀ outputs options model,
        Graph.squashed.toModel outputs options = .ok model → model.Closed :=
  ⟨by decide, reachable_singleAssignment
    (.call _ (.activation ⟨"tanh_1_out", [.size 2], .float32⟩ (.known .tanh))
      (.call _ (.addInput "tanh_1_out" [.size 2] .float32) (.start .empty)))⟩

end OperatorLowering
