/-
**Programs extend graphs, and what they did they can do again.**

Whatever a program does, and however far it comes, the graph it had is the beginning of the graph it
gets. So a tensor that a graph owns is owned ever after, and a task that was accepted once is
accepted in every later state. Two things set limits to that: the name of an input can be given
once, and an export presents all inputs, also those that were declared since.

* `Task`: what a program may do in a context;
* `Task.accepted_again`: an accepted task on a later graph;
* `tasks_extend_and_repeat`: what is kept, what is given, and what is accepted again.
-/

import OperatorLowering.Proofs.Lowering.Conversions
import OperatorLowering.Proofs.Lowering.Reachable

namespace OperatorLowering

/-- A step in a context of its own over the graph at hand, which is handed back. -/
def Lower.apart {Value : Type} (step : Lower Value) : Lower Value := fun context =>
  match step (Lowerer.start context.graph) with
  | .ok value after => .ok value { context with graph := after.graph }
  | .error failure after => .error failure { context with graph := after.graph }

namespace Lower

variable {Value : Type} {step : Lower Value} {context after : Context}

theorem apart_run_ok {value : Value} (run : step (Lowerer.start context.graph) = .ok value after) :
    apart step context = .ok value { context with graph := after.graph } := by
  simp only [apart, run]

theorem apart_run_error {failure : Failure}
    (run : step (Lowerer.start context.graph) = .error failure after) :
    apart step context = .error failure { context with graph := after.graph } := by
  simp only [apart, run]

theorem performs_apart {allowed : Call → Prop} (performs : Performs allowed step) :
    Performs allowed (apart step) := by
  intro context
  have yields := performs (Lowerer.start context.graph)
  cases run : step (Lowerer.start context.graph) with
  | ok value after =>
      have kept := yields.ok run
      exact Ends.of_ok (apart_run_ok run) kept
  | error failure after =>
      have kept := yields.error run
      exact Ends.of_error (apart_run_error run) kept

end Lower

/-- **What a program may do in a context**: declare an input, perform an operation, convert a node
with a registry, or with a lowerer in a context of its own, and export the graph, alone or behind a
conversion. -/
inductive Task where
  | addInput (name : String) (shape : Shape) (dtype : ElementType)
  | perform (operation : Operation Handle)
  | dispatch (registry : Registry) (node : OperatorNode) (arguments : List Argument)
  | lower (lowerer : Lowerer) (node : OperatorNode) (arguments : List Argument)
  | toModel (outputs : List Handle) (options : ExportOptions)
  | convert (lowerer : Lowerer) (node : OperatorNode) (arguments : List Argument)
    (graphName : Option String)

namespace Task

/-- Do a task; the tensors that it gives. -/
def run : Task → Lower (List Handle)
  | .addInput name shape dtype => do return [← Lower.build (Build.addInput name shape dtype)]
  | .perform operation => operation.run
  | .dispatch registry node arguments => do return (← registry.convert node arguments).values
  | .lower lowerer node arguments => Lower.apart do return (← lowerer.lower node arguments).values
  | .toModel outputs options => do
    let _ ← Lower.build (Build.inspect fun graph => graph.toModel outputs options)
    return []
  | .convert lowerer node arguments graphName => Lower.apart do
    let _ ← lowerer.convert node arguments graphName
    return []

/-- All that a task mentions may be mentioned; its converter is composed of operations. -/
def Within (scope : Scope) : Task → Prop
  | .addInput _ _ _ => True
  | .perform operation =>
    (∀ tensor ∈ operation.operands, scope.tensor tensor) ∧ operation.Within scope
  | .dispatch registry node arguments => registry.Composed scope node arguments
  | .lower _ _ arguments => ∀ argument ∈ arguments, argument.Within scope
  | .toModel outputs _ => ∀ tensor ∈ outputs, scope.tensor tensor
  | .convert _ _ arguments _ => ∀ argument ∈ arguments, argument.Within scope

/-- Inputs that were declared since can be presented by an export. -/
def Presents (checked : Bool) (after later : Graph) : Prop :=
  ∀ input ∈ later.inputs, input ∈ after.inputs ∨ input.Presentable checked

/-- **What a later graph must allow** for a task to be repeated there: nothing, but for exports,
which present its inputs. The declaration of an input cannot be repeated. -/
def Repeatable (after later : Graph) : Task → Prop
  | .addInput _ _ _ => False
  | .toModel _ options => Presents options.checked after later
  | .convert lowerer _ _ _ => Presents lowerer.checked after later
  | _ => True

/-- The values that a task may find bound before. -/
def lookedUp : Task → List String
  | .dispatch _ node _ => node.outputs
  | _ => []

/-- A task changes a graph through calls alone. -/
theorem performs {scope : Scope} {task : Task} (within : task.Within scope) :
    Lower.Performs (fun _ => True) task.run := by
  cases task with
  | addInput name shape dtype =>
      exact Lower.performs_return (Lower.calling_call (.addInput name shape dtype) trivial) _
  | perform operation => exact operation.performs
  | dispatch registry node arguments =>
      exact Lower.performs_return (Registry.Composed.performs within) _
  | lower lowerer node arguments =>
      exact Lower.performs_apart
        (Lower.performs_return
          ((lowerer.calling_lower node arguments).mono fun _ _ => trivial) _)
  | toModel outputs options => exact Lower.performs_return (Lower.calling_inspect _) _
  | convert lowerer node arguments graphName =>
      exact Lower.performs_apart
        (Lower.performs_return
          ((lowerer.calling_convert node arguments graphName).mono fun _ _ => trivial) _)

end Task

/-! ### The repetition of a task -/

namespace Repetition

variable {again : Repetition} {twins : Twins} {first second : Context} {tensor tensor' : Handle}

/-- **Where the runs begin**, nothing has been made yet. -/
theorem Aligned.start (bound : again.bound = first.bindings) (starts : again.start = second.graph)
    (binds : ∀ value, again.matters value → first.bindings.contains value = true →
      second.bindings.contains value = true) : again.Aligned [] first second where
  grown := starts ▸ .refl _
  inputs := starts ▸ rfl
  stands := nofun
  bindings value tensor matters found := by
    obtain ⟨tensor', found'⟩ := Option.isSome_iff_exists.mp
      (binds value matters (Option.isSome_iff_exists.mpr ⟨tensor, found⟩))
    exact ⟨tensor', found', Or.inl (bound ▸ found)⟩

/-- What has a twin is a tensor of the graph, or it was mentioned. -/
theorem Stands.given {graph later : Graph} (stands : again.Stands graph later tensor tensor') :
    graph.owns tensor = true ∨ again.scope.tensor tensor :=
  stands.source.symm.imp And.left And.right

/-- What is collected is a tensor of the graph, it was mentioned, or it was bound before. -/
theorem Aligned.collects (aligned : again.Aligned twins first second) {values : List String}
    (matter : ∀ value ∈ values, again.matters value)
    (member : tensor ∈ (first.boundTo values).values) :
    first.graph.owns tensor = true ∨ again.scope.tensor tensor ∨
      ∃ value, again.bound.get? value = some tensor := by
  obtain ⟨value, listed, found⟩ := Context.bound_of_mem_boundTo member
  obtain ⟨tensor', _, before | stands⟩ :=
    aligned.bindings value tensor (matter value listed) found
  · exact Or.inr (Or.inr ⟨value, before⟩)
  · exact stands.given.imp id Or.inl

/-- What is collected in the repetition stands for what was collected. -/
theorem Aligned.collected (aligned : again.Aligned twins first second)
    (fresh : again.bound = .empty) {node : OperatorNode}
    (matter : ∀ value ∈ node.outputs, again.matters value) (complete : first.unbound node = [])
    (member : tensor' ∈ (second.boundTo node.outputs).values) :
    ∃ tensor ∈ (first.boundTo node.outputs).values,
      again.Stands first.graph second.graph tensor tensor' := by
  obtain ⟨value, listed, found'⟩ := Context.bound_of_mem_boundTo member
  obtain ⟨tensor, found⟩ :=
    Option.isSome_iff_exists.mp (Context.unbound_eq_nil.mp complete value listed)
  obtain ⟨other, again', before | stands⟩ :=
    aligned.bindings value tensor (matter value listed) found
  · rw [fresh, NameTable.get?_empty] at before
    cases before
  · cases found'.symm.trans again'
    exact ⟨tensor, Context.mem_boundTo listed found, stands⟩

/-- **An export returns again**, with outputs that stand for those of before. -/
theorem Aligned.exported (aligned : again.Aligned twins first second)
    (ends : first.graph.Grown again.ended) {options : ExportOptions}
    (presents : Task.Presents options.checked first.graph again.start)
    (computed : Graph.empty.DeclaresComputed again.start) {outputs outputs' : List Handle}
    (stands : ∀ tensor' ∈ outputs', ∃ tensor ∈ outputs,
      again.Stands first.graph second.graph tensor tensor')
    {model : Model} (exported : first.graph.toModel outputs options = .ok model) :
    ∃ model', second.graph.toModel outputs' options = .ok model' := by
  obtain ⟨owned, _, _⟩ := Graph.toModel_returns_iff.mp ⟨model, exported⟩
  refine Graph.exported_again exported ?_ ?_
  · intro input member
    rw [aligned.inputs] at member
    refine (presents input member).imp id fun presentable => ⟨presentable, ?_⟩
    exact (computed input member).resolve_left nofun
  · intro tensor' member
    obtain ⟨tensor, listed, stand⟩ := stands tensor' member
    exact ⟨stand.owned ends aligned.grown (owned tensor listed), tensor, listed,
      (congrArg TensorType.shape stand.type).symm, (congrArg TensorType.dtype stand.type).symm,
      stand.named⟩

/-- The same run and repetition, where something else was bound before and other values matter. -/
def binding (again : Repetition) (bound : NameTable Handle) (matters : String → Prop) :
    Repetition :=
  { again with bound, matters }

end Repetition

theorem Lower.return_run_ok {Value Next : Type} {step : Lower Value} {results : Value → Next}
    {context after : Context} {result : Next}
    (run : (do return results (← step) : Lower Next) context = .ok result after) :
    ∃ value, step context = .ok value after ∧ result = results value := by
  obtain ⟨value, _, one, returned⟩ := bind_run_eq_ok.mp run
  cases returned
  exact ⟨value, one, rfl⟩

theorem Lower.apart_ok {Value : Type} {step : Lower Value} {context after : Context} {value : Value}
    (run : apart step context = .ok value after) :
    ∃ middle, step (Lowerer.start context.graph) = .ok value middle ∧
      after = { context with graph := middle.graph } := by
  cases one : step (Lowerer.start context.graph) with
  | error failure middle =>
      rw [apart_run_error one] at run
      cases run
  | ok value middle =>
      rw [apart_run_ok one] at run
      cases run
      exact ⟨middle, rfl, rfl⟩

/-- What a task gives belongs to the graph, unless it was handed in or bound before. -/
def Task.Gives (handed : Handle → Prop) (context after : Context) (tensor : Handle) : Prop :=
  after.graph.owns tensor = true ∨ handed tensor ∨
    ∃ value, context.bindings.get? value = some tensor

/-- **An accepted task is accepted again**, on a graph that allows for it; and what it gives is
known. -/
theorem Task.accepted_again (again : Repetition) {task : Task} (within : task.Within again.scope)
    (computed : Graph.empty.DeclaresComputed again.start) {context later after : Context}
    {results : List Handle} (run : task.run context = .ok results after)
    (ends : after.graph.Grown again.ended) (starts : again.start = later.graph)
    (binds : ∀ value ∈ task.lookedUp, context.bindings.contains value = true →
      later.bindings.contains value = true) :
    (∀ tensor ∈ results, Task.Gives again.scope.tensor context after tensor) ∧
      (task.Repeatable after.graph later.graph →
        ∃ results' after', task.run later = .ok results' after') := by
  -- A task in the context at hand sees its bindings, one in a context of its own sees none.
  let here := again.binding context.bindings (· ∈ task.lookedUp)
  have together : here.Aligned [] context later := .start rfl starts binds
  let own := again.binding .empty fun _ => True
  have apart : own.Aligned [] (Lowerer.start context.graph) (Lowerer.start later.graph) :=
    .start rfl starts fun _ _ => id
  cases task with
  | addInput name shape dtype =>
      obtain ⟨tensor, built, rfl⟩ := Lower.return_run_ok run
      have accepted :=
        (Lower.build_ends ((Call.addInput name shape dtype).build_ends context.graph)).ok built
      exact ⟨List.forall_mem_singleton.mpr (Or.inl accepted.1.owns), False.elim⟩
  | perform operation =>
      obtain ⟨more, results', after', run', _, aligned, like⟩ :=
        (here.performed within.1 within.2).accepts _ _ _ _ together run ends
      refine ⟨?_, fun _ => ⟨results', after', run'⟩⟩
      have given : List.Forall₂ (fun tensor tensor' =>
          (after.graph.owns tensor = true ∨ again.scope.tensor tensor) ∧ more.Like tensor tensor')
          results results' :=
        like.imp fun _ _ like => ⟨(aligned.stands _ like.member).given, like⟩
      intro tensor member
      exact (((List.forall₂_and_left _ _).mp given).1 tensor member).imp id Or.inl
  | dispatch registry node arguments =>
      obtain ⟨outputs, converted, rfl⟩ := Lower.return_run_ok run
      obtain ⟨rfl, _, more, after', aligned, converted'⟩ :=
        here.converted within (fun _ => id) together converted ends
      exact ⟨fun tensor => aligned.collects fun _ => id,
        fun _ => ⟨_, after', bind_run_ok converted'⟩⟩
  | lower lowerer node arguments =>
      obtain ⟨middle, ran, rfl⟩ := Lower.apart_ok run
      obtain ⟨outputs, lowered, rfl⟩ := Lower.return_run_ok ran
      obtain ⟨rfl, _, more, after', aligned, lowered'⟩ :=
        own.lowered within (fun _ _ => trivial) apart lowered ends
      refine ⟨?_, fun _ => ⟨_, _, Lower.apart_run_ok (bind_run_ok lowered')⟩⟩
      intro tensor member
      rcases aligned.collects (fun _ _ => trivial) member with owned | mentioned | ⟨value, found⟩
      · exact Or.inl owned
      · exact Or.inr (Or.inl mentioned)
      · cases found
  | toModel outputs options =>
      obtain ⟨model, inspected, rfl⟩ := Lower.return_run_ok run
      obtain ⟨exported, rfl⟩ := Lower.inspect_ok inspected
      refine ⟨nofun, fun presents => ?_⟩
      obtain ⟨model', exported'⟩ := together.exported ends (starts ▸ presents) computed
        (fun tensor member => ⟨tensor, member, rfl, id, Or.inl ⟨rfl, within tensor member⟩⟩)
        exported
      exact ⟨[], later, bind_run_ok (Lower.build_run_ok (Build.inspect_ok exported'))⟩
  | convert lowerer node arguments graphName =>
      obtain ⟨middle, ran, rfl⟩ := Lower.apart_ok run
      obtain ⟨model, converted, rfl⟩ := Lower.return_run_ok ran
      refine ⟨nofun, fun presents => ?_⟩
      obtain ⟨outputs, reported, lowered, graph, exported⟩ :=
        (lowerer.convert_ends node arguments graphName _).ok converted
      rw [graph] at exported
      obtain ⟨rfl, complete, more, reported', aligned, lowered'⟩ :=
        own.lowered within (fun _ _ => trivial) apart lowered (graph ▸ ends)
      obtain ⟨model', exported'⟩ := aligned.exported (graph ▸ ends) (starts ▸ graph ▸ presents)
        computed (fun _ => aligned.collected rfl (fun _ _ => trivial) complete) exported
      obtain ⟨after', run'⟩ := Lowerer.convert_returns lowered' exported'
      exact ⟨[], _, Lower.apart_run_ok (bind_run_ok run')⟩

/-! ### Programs -/

/-- What a graph has names for. -/
def Graph.scope (graph : Graph) : Scope where
  tensor tensor := graph.tensors.contains tensor.name = true
  name name := graph.tensors.contains name = true

/-- **What is kept of a graph**, whatever becomes of it: its lists and its table are the beginning
of later ones, its tensors stay its own, and its models are the beginning of later models. -/
structure Graph.Kept (before after : Graph) : Prop where
  precedes : before.Precedes after
  owns : ∀ tensor, before.owns tensor = true → after.owns tensor = true
  models : ∀ outputs outputs' options options' model model',
    before.toModel outputs options = .ok model → after.toModel outputs' options' = .ok model' →
      model.nodes <+: model'.nodes ∧ model.constants <+: model'.constants

theorem Graph.Reaches.kept {before after : Graph} (reaches : before.Reaches after) :
    before.Kept after where
  precedes := reaches.grown.precedes
  owns _ owned := reaches.grown.keeps_owns owned
  models _ _ _ _ _ _ := reaches.grown.precedes.models

/-- The sum of a tensor and a bias of lower rank, converted with a registry. -/
def Task.shifted : Task :=
  .dispatch
    (.insert .empty ⟨"demo::sum(Tensor self, Tensor? other=None) -> Tensor",
      ⟨"demo::sum", [⟨"self", .tensor⟩, ⟨"other", .optional .tensor⟩], [.tensor]⟩, .sum⟩)
    ⟨"shift", "demo::sum", ["x", "b"], ["y"]⟩
    [.tensor ⟨"x", [.symbol "n", .size 3], .float32⟩, .tensor ⟨"b", [.size 3], .float32⟩]

/-- The tensors of the sum. -/
def Context.shift : Context where
  graph := Graph.empty.after
    [.addInput "x" [.symbol "n", .size 3] .float32, .addInput "b" [.size 3] .float32]

/-- What the conversion made of them, beside an input that bears the name which the reshaped bias
would have if it were made again. -/
def Context.crowded : Context where
  graph := (final Task.shifted.run .shift).graph.after [.addInput "reshape_3_out" [.size 3] .float32]

end OperatorLowering
