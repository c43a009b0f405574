/-
**Every lowering is a program of calls.**

A lowering changes the graph through calls alone, none of which has a double among its arguments:
what it makes of the graph, however far it comes, a program of such calls makes of it. This holds of
each step that a lowering consists of, and with it of the conversion of a node with any registry
whose converters do no more than that.

* `Lower.Performs`: steps that change the graph through calls, whatever they end in;
* `Registry.calling_convert`: the conversion of a node;
* `Lowerer.calling_convert`: the conversion of a node and the export of the graph.
-/

import OperatorLowering.Lowering.Lowerer
import OperatorLowering.Proofs.Graph.Calls
import OperatorLowering.Proofs.Lowering.Steps

namespace OperatorLowering

namespace Lower

variable {Value Next : Type}

/-- **A step that changes the graph through calls** that are allowed, whether it gives a value or a
failure. -/
def Performs (allowed : Call → Prop) (step : Lower Value) : Prop :=
  ∀ context, Ends step context (fun _ after => context.graph.Yields allowed after.graph)
    (fun _ after => context.graph.Yields allowed after.graph)

/-- A step that changes the graph through calls without doubles. -/
abbrev Calling (step : Lower Value) : Prop :=
  Performs Call.Exact step

variable {allowed : Call → Prop}

/-- A step that performs calls performs those of more. -/
theorem Performs.mono {more : Call → Prop} {step : Lower Value} (performs : Performs allowed step)
    (allows : ∀ call, allowed call → more call) : Performs more step :=
  fun context => Ends.mono (performs context) (fun _ _ yields => yields.mono allows)
    (fun _ _ yields => yields.mono allows)

/-! ### Steps on a context -/

theorem calling_pure (value : Value) : Performs allowed (pure value : Lower Value) :=
  fun _ => Ends.pure .refl

theorem calling_throw (failure : Failure) : Performs allowed (throw failure : Lower Value) :=
  fun _ => Ends.of_error rfl .refl

theorem calling_bind {step : Lower Value} {next : Value → Lower Next}
    (first : Performs allowed step) (second : ∀ value, Performs allowed (next value)) :
    Performs allowed (step >>= next) :=
  fun context => (first context).bind fun value after yields =>
    (second value after).mono (fun _ _ => yields.trans) (fun _ _ => yields.trans)

theorem calling_modify {change : Context → Context}
    (keeps : ∀ context, (change context).graph = context.graph) :
    Performs allowed (modify change : Lower Unit) := by
  intro context
  refine Ends.of_ok rfl ?_
  show context.graph.Yields _ (change context).graph
  rw [keeps context]
  exact .refl

theorem calling_call (call : Call) (permitted : allowed call) :
    Performs allowed (build call.build) := by
  intro context
  have one : context.graph.Yields allowed (final call.build context.graph) :=
    .single ⟨call, permitted, rfl⟩
  unfold OperatorLowering.final at one
  cases run : call.build context.graph with
  | ok output graph =>
      rw [run] at one
      exact Ends.of_ok (build_run_ok run) one
  | error fault graph =>
      rw [run] at one
      exact Ends.of_error (build_run_error run) one

/-- What a check finds, it finds without a change. -/
theorem inspect_ok {check : Graph → Except Fault Value} {context after : Context} {value : Value}
    (run : build (Build.inspect check) context = .ok value after) :
    check context.graph = .ok value ∧ after = context := by
  obtain ⟨_, inspected, rfl⟩ := build_run_eq_ok.mp run
  obtain ⟨passes, rfl⟩ := Build.inspect_eq_ok.mp inspected
  exact ⟨passes, rfl⟩

theorem calling_inspect (check : Graph → Except Fault Value) :
    Performs allowed (build (Build.inspect check)) := by
  intro context
  cases passes : check context.graph with
  | ok value => exact Ends.of_ok (build_run_ok (Build.inspect_ok passes)) .refl
  | error fault => exact Ends.of_error (build_run_error (Build.inspect_error passes)) .refl

theorem calling_checked {step : Lower Value} (performs : Performs allowed step)
    (node : OperatorNode) (primitive : String) :
    Performs allowed (checked node primitive step) :=
  fun context => checked_ends node primitive (performs context)

theorem calling_traceEvent (event : TraceEvent) : Calling (traceEvent event) :=
  calling_modify fun _ => rfl

theorem calling_fail (node : OperatorNode) (cause : ConversionCause) :
    Calling (fail node cause : Lower Value) :=
  calling_throw _

theorem calling_violate (node : OperatorNode) (broken : Precondition) :
    Calling (violate node broken : Lower Value) :=
  calling_throw _

theorem calling_associate (value : String) (tensor : Handle) : Calling (associate value tensor) :=
  calling_bind (calling_traceEvent _) fun _ =>
    calling_bind (calling_modify fun _ => rfl) fun _ => calling_pure tensor

/-- A request on behalf of a node. -/
theorem calling_request (node : OperatorNode) (primitive : String) (request : Request Handle) :
    Calling (checked node primitive (build request.build)) :=
  calling_checked (Call.build_request request ▸
    calling_call request.call (Call.exact_request request)) node primitive

/-! ### Biases -/

theorem calling_reconcile (primary secondary : Handle) (name : String) :
    Calling (reconcile primary secondary name) := by
  unfold reconcile
  split
  · exact calling_pure _
  · split
    · exact calling_throw _
    · split
      · exact calling_pure _
      · exact calling_bind (calling_traceEvent _) fun _ =>
          calling_call (.reshape _ _) trivial

theorem calling_addBias (a b : Handle) (name : String) (node : OperatorNode) :
    Calling (addBias a b name node) := by
  unfold addBias
  refine calling_bind (calling_traceEvent _) fun _ => ?_
  split
  · exact calling_fail node _
  · have calling_sum (b : Handle) := calling_request node "elementwise sum" (.elementwise a b .sum)
    split
    · exact calling_bind (calling_pure b) calling_sum
    · exact calling_bind (calling_checked (calling_reconcile a b name) node "reshape") calling_sum

/-! ### The cell -/

theorem calling_outputAt (node : OperatorNode) (position : Nat) :
    Calling (outputAt node position) := by
  unfold outputAt
  split
  · exact calling_pure _
  · exact calling_throw _

theorem calling_gateWidth (gates : Handle) (node : OperatorNode) :
    Calling (gateWidth gates node) := by
  unfold gateWidth
  split
  · split
    · exact calling_pure _
    · exact calling_violate node _
  · exact calling_violate node _
  · exact calling_throw _

theorem calling_gate (node : OperatorNode) (gates : Handle) (width : Int) (index : Nat)
    (kind : Activation) : Calling (gate node gates width index kind) :=
  calling_bind (calling_request node "slice" (.slice gates _ _ _)) fun chunk =>
    calling_request node s!"{kind.stem} activation" (.activation chunk kind)

theorem calling_splitGates (node : OperatorNode) (gates : Handle) :
    Calling (splitGates node gates) :=
  calling_bind (calling_gateWidth gates node) fun width =>
    calling_bind (calling_gate node gates width 0 .sigmoid) fun _ =>
      calling_bind (calling_gate node gates width 1 .sigmoid) fun _ =>
        calling_bind (calling_gate node gates width 2 .tanh) fun _ =>
          calling_bind (calling_gate node gates width 3 .sigmoid) fun _ => calling_pure _

theorem calling_product (node : OperatorNode) (a b : Handle) : Calling (product node a b) :=
  calling_request node "elementwise product" (.elementwise a b .product)

theorem calling_weighted (node : OperatorNode) (operand weights : Handle) (bias : Option Handle)
    (biasName : String) : Calling (weighted node operand weights bias biasName) := by
  refine calling_bind
    (calling_request node "matrix multiplication" (.matmul operand weights false true))
    fun gates => ?_
  cases bias with
  | some bias => exact calling_addBias gates bias biasName node
  | none => exact calling_pure gates

/-- **One step of a cell**, however far it comes. -/
theorem calling_lstmCell (node : OperatorNode) (operands : CellOperands) :
    Calling (lstmCell node operands) := by
  refine calling_bind (calling_weighted node _ _ _ _) fun fromInput => ?_
  refine calling_bind (calling_weighted node _ _ _ _) fun fromHidden => ?_
  refine calling_bind (calling_request node "elementwise sum"
    (.elementwise fromInput fromHidden .sum)) fun all => ?_
  refine calling_bind (calling_splitGates node all) fun gates => ?_
  refine calling_bind (calling_product node _ _) fun kept => ?_
  refine calling_bind (calling_product node _ _) fun entered => ?_
  refine calling_bind (calling_product node _ _) fun updated => ?_
  refine calling_bind (calling_outputAt node 1) fun cellName => ?_
  refine calling_bind (calling_associate cellName updated) fun cell => ?_
  refine calling_bind (calling_request node "tanh activation" (.activation cell .tanh))
    fun squashed => ?_
  refine calling_bind (calling_product node _ _) fun exposed => ?_
  refine calling_bind (calling_outputAt node 0) fun hiddenName => ?_
  exact calling_bind (calling_associate hiddenName exposed) fun hidden => calling_pure _

/-! ### Arguments -/

theorem calling_resolveTensor (argument : Argument) (name : String) (node : OperatorNode) :
    Calling (resolveTensor argument name node) := by
  cases argument with
  | tensor tensor => exact calling_pure tensor
  | constant value =>
      exact calling_checked (calling_call (.freeze value none) trivial) node "constant"
  | boxed tensor => exact calling_pure tensor
  | absent => exact calling_violate node _
  | list items => exact calling_violate node _
  | foreign value => exact calling_violate node _

theorem calling_resolveOptional (argument : Argument) (name : String) (node : OperatorNode) :
    Calling (resolveOptional argument name node) := by
  unfold resolveOptional
  split
  · exact calling_pure none
  · exact calling_bind (calling_resolveTensor argument name node) fun _ => calling_pure _

theorem calling_resolveState (argument : Argument) (name : String) (node : OperatorNode) :
    Calling (resolveState argument name node) := by
  unfold resolveState
  split
  · exact calling_bind (calling_resolveTensor _ _ node) fun _ =>
      calling_bind (calling_resolveTensor _ _ node) fun _ => calling_pure _
  · exact calling_violate node _
  · exact calling_violate node _

theorem calling_argumentAt (arguments : List Argument) (position : Nat) :
    Calling (argumentAt arguments position) := by
  unfold argumentAt
  split
  · exact calling_pure _
  · exact calling_throw _

theorem calling_cellOperands (node : OperatorNode) (arguments : List Argument) :
    Calling (cellOperands node arguments) := by
  refine calling_bind (calling_argumentAt arguments 0) fun input => ?_
  refine calling_bind (calling_resolveTensor input "input" node) fun _ => ?_
  refine calling_bind (calling_argumentAt arguments 1) fun state => ?_
  refine calling_bind (calling_resolveState state "hx" node) fun _ => ?_
  refine calling_bind (calling_argumentAt arguments 2) fun inputWeights => ?_
  refine calling_bind (calling_resolveTensor inputWeights "w_ih" node) fun _ => ?_
  refine calling_bind (calling_argumentAt arguments 3) fun hiddenWeights => ?_
  refine calling_bind (calling_resolveTensor hiddenWeights "w_hh" node) fun _ => ?_
  refine calling_bind (calling_argumentAt arguments 4) fun inputBias => ?_
  refine calling_bind (calling_resolveOptional inputBias "b_ih" node) fun _ => ?_
  refine calling_bind (calling_argumentAt arguments 5) fun hiddenBias => ?_
  exact calling_bind (calling_resolveOptional hiddenBias "b_hh" node) fun _ => calling_pure _

theorem calling_convertLstmCell (node : OperatorNode) (arguments : List Argument) :
    Calling (convertLstmCell node arguments) := by
  refine calling_bind (calling_cellOperands node arguments) fun operands => ?_
  refine calling_bind (calling_traceEvent _) fun _ => ?_
  refine calling_bind (calling_traceEvent _) fun _ => ?_
  refine calling_bind (calling_traceEvent _) fun _ => ?_
  refine calling_bind (calling_traceEvent _) fun _ => ?_
  refine calling_bind (calling_traceEvent _) fun _ => ?_
  refine calling_bind (calling_lstmCell node operands) fun outputs => ?_
  exact calling_bind (calling_traceEvent _) fun _ => calling_traceEvent _

/-! ### Conversions -/

theorem calling_requireOutputs (node : OperatorNode) : Calling (requireOutputs node) := by
  intro context
  refine (requireOutputs_ends node).mono ?_ ?_
  · rintro outputs after ⟨rfl, -⟩
    exact .refl
  · rintro failure after ⟨rfl, -⟩
    exact .refl

end Lower

/-- The conversion of a node, if the registered converters change graphs through calls. -/
theorem Registry.calling_convert {registry : Registry}
    (converters : ∀ kind entry, registry.find? kind = some entry → ∀ node arguments,
      Lower.Calling (entry.converter node arguments))
    (node : OperatorNode) (arguments : List Argument) :
    Lower.Calling (registry.convert node arguments) := by
  unfold Registry.convert
  cases found : registry.find? node.kind with
  | none => exact Lower.calling_fail node _
  | some entry =>
      show Lower.Calling (entry.convert node arguments)
      unfold RegistryEntry.convert
      split
      · exact Lower.calling_violate node _
      · next bound _ =>
          exact Lower.calling_bind (Lower.calling_traceEvent _) fun _ =>
            Lower.calling_bind (converters node.kind entry found node bound) fun _ =>
              Lower.calling_requireOutputs node

/-- A conversion does to the graph what the converter of its kind does, if it comes that far. -/
theorem Registry.graph_of_convert (registry : Registry) (node : OperatorNode)
    (arguments : List Argument) (context : Context) :
    (final (registry.convert node arguments) context).graph = context.graph ∨
      ∃ entry bound start, registry.find? node.kind = some entry ∧ start.graph = context.graph ∧
        (final (registry.convert node arguments) context).graph =
          (final (entry.converter node bound) start).graph := by
  unfold Registry.convert
  cases found : registry.find? node.kind with
  | none => exact Or.inl rfl
  | some entry =>
      simp only [RegistryEntry.convert]
      cases entry.signature.bindArguments node.outputs.length arguments with
      | error broken => exact Or.inl rfl
      | ok bound =>
          let start : Context := { context with trace := context.trace ++ [.converting node] }
          refine Or.inr ⟨entry, bound, start, rfl, rfl, ?_⟩
          let reached : Context → Prop := fun after =>
            after.graph = (final (entry.converter node bound) start).graph
          refine @Ends.final _ _ _ _ _ reached ?_
          refine Ends.after_ok (show Lower.traceEvent _ context = .ok () start from rfl) ?_
          refine Ends.bind ((ends_final _ start).mono (fun _ _ => id) ?_) ?_
          · rintro _ after rfl
            rfl
          · rintro _ after rfl
            refine (Lower.requireOutputs_ends node).mono ?_ ?_
            · rintro _ _ ⟨rfl, -⟩
              rfl
            · rintro _ _ ⟨rfl, -⟩
              rfl

/-- The standard registry holds the converter of cells alone. -/
theorem Registry.find?_standard {kind : String} {entry : RegistryEntry}
    (found : Registry.standard.find? kind = some entry) :
    entry = ⟨lstmCellText, lstmCellSignature, Lower.convertLstmCell⟩ := by
  unfold Registry.standard Registry.insert Registry.find? at found
  rw [NameTable.get?_insert] at found
  split at found
  · exact (Option.some.inj found).symm
  · cases found

namespace Lowerer

/-- A line of the report, if there is to be one, calls nothing. -/
theorem calling_report {Value : Type} (verbose : Bool) (line : String) (value : Value) :
    Lower.Calling (do
      if verbose then Lower.reportLine line else pure ()
      return value) := by
  cases verbose with
  | true =>
      exact Lower.calling_bind (Lower.calling_modify fun _ => rfl) fun _ => Lower.calling_pure _
  | false => exact Lower.calling_pure _

theorem calling_lower (lowerer : Lowerer) (node : OperatorNode) (arguments : List Argument) :
    Lower.Calling (lowerer.lower node arguments) := by
  have standard : ∀ kind entry, Registry.standard.find? kind = some entry →
      ∀ node arguments, Lower.Calling (entry.converter node arguments) := by
    intro kind entry found node arguments
    rw [Registry.find?_standard found]
    exact Lower.calling_convertLstmCell node arguments
  refine Lower.calling_bind (Registry.calling_convert standard node arguments) fun outputs => ?_
  exact calling_report lowerer.verbose _ _

theorem calling_convert (lowerer : Lowerer) (node : OperatorNode) (arguments : List Argument)
    (graphName : Option String) : Lower.Calling (lowerer.convert node arguments graphName) := by
  refine Lower.calling_bind (lowerer.calling_lower node arguments) fun outputs => ?_
  refine Lower.calling_bind (Lower.calling_inspect _) fun model => ?_
  exact calling_report lowerer.verbose _ _

end Lowerer

end OperatorLowering
