/-
**Converters that are composed of operations.**

A converter reaches a graph through operations: calls on the graph, biases, arguments and cells. A
recipe is a converter written down: operations one after the other, on tensors that it was given or
that earlier operations gave, bindings of such tensors to values, and a failure wherever it may give
up. How it goes on may depend on the types of what it has, not on the names.

* `Operation.run`: an operation on its operands;
* `Recipe.run`: the converter of a recipe;
* `Recipe.Within`: what a recipe mentions is in a scope;
* `Recipe.performs`: a recipe changes a graph through calls alone;
* `Converter.ofRecipe_sum`, `Converter.ofRecipe_forward`: the small converters are recipes.
-/

import OperatorLowering.Lowering.Registry
import OperatorLowering.Proofs.Lowering.Calls

namespace OperatorLowering

/-- The operations, with what stands for their operands. -/
inductive Operation (Operand : Type) where
  | freeze (value : Literal) (name : Option String)
  | tensor (name : String)
  | matmul (a b : Operand) (transposeA transposeB : Bool)
  | elementwise (a b : Operand) (op : Elementwise)
  | slice (a : Operand) (offsets : List (Option Int)) (sizes : List SizeRequest)
    (strides : List (Option Int))
  | activation (a : Operand) (request : ActivationRequest)
  | reshape (a : Operand) (shape : Shape)
  | reconcile (primary secondary : Operand) (name : String)
  | addBias (a b : Operand) (name : String) (node : OperatorNode)
  | resolveTensor (argument : Argument) (name : String) (node : OperatorNode)
  | resolveOptional (argument : Argument) (name : String) (node : OperatorNode)
  | resolveState (argument : Argument) (name : String) (node : OperatorNode)
  | lstmCell (node : OperatorNode) (input hidden cell inputWeights hiddenWeights : Operand)
    (inputBias hiddenBias : Option Operand)

namespace Operation

/-- Perform an operation; the tensors that it gives. -/
def run : Operation Handle → Lower (List Handle)
  | .freeze value name => do return [← Lower.build (Build.freeze value name)]
  | .tensor name => do return [← Lower.build (Build.inspect fun graph => graph.tensor name)]
  | .matmul a b transposeA transposeB => do
    return [← Lower.build (Build.matmul a b transposeA transposeB)]
  | .elementwise a b op => do return [← Lower.build (Build.elementwise a b op)]
  | .slice a offsets sizes strides => do
    return [← Lower.build (Build.slice a offsets sizes strides)]
  | .activation a request => do return [← Lower.build (Build.activation a request)]
  | .reshape a shape => do return [← Lower.build (Build.reshape a shape)]
  | .reconcile primary secondary name => do return [← Lower.reconcile primary secondary name]
  | .addBias a b name node => do return [← Lower.addBias a b name node]
  | .resolveTensor argument name node => do return [← Lower.resolveTensor argument name node]
  | .resolveOptional argument name node => do
    return (← Lower.resolveOptional argument name node).toList
  | .resolveState argument name node => do
    let state ← Lower.resolveState argument name node
    return [state.hidden, state.cell]
  | .lstmCell node input hidden cell inputWeights hiddenWeights inputBias hiddenBias => do
    let outputs ← Lower.lstmCell node
      { input, state := ⟨hidden, cell⟩, inputWeights, hiddenWeights, inputBias, hiddenBias }
    return [outputs.hidden, outputs.cell]

variable {Operand Other Final : Type}

/-- The operation on other operands. -/
def map (change : Operand → Other) : Operation Operand → Operation Other
  | .freeze value name => .freeze value name
  | .tensor name => .tensor name
  | .matmul a b transposeA transposeB => .matmul (change a) (change b) transposeA transposeB
  | .elementwise a b op => .elementwise (change a) (change b) op
  | .slice a offsets sizes strides => .slice (change a) offsets sizes strides
  | .activation a request => .activation (change a) request
  | .reshape a shape => .reshape (change a) shape
  | .reconcile primary secondary name => .reconcile (change primary) (change secondary) name
  | .addBias a b name node => .addBias (change a) (change b) name node
  | .resolveTensor argument name node => .resolveTensor argument name node
  | .resolveOptional argument name node => .resolveOptional argument name node
  | .resolveState argument name node => .resolveState argument name node
  | .lstmCell node input hidden cell inputWeights hiddenWeights inputBias hiddenBias =>
    .lstmCell node (change input) (change hidden) (change cell) (change inputWeights)
      (change hiddenWeights) (inputBias.map change) (hiddenBias.map change)

/-- The operands of an operation. -/
def operands : Operation Operand → List Operand
  | .freeze _ _ => []
  | .tensor _ => []
  | .matmul a b _ _ => [a, b]
  | .elementwise a b _ => [a, b]
  | .slice a _ _ _ => [a]
  | .activation a _ => [a]
  | .reshape a _ => [a]
  | .reconcile primary secondary _ => [primary, secondary]
  | .addBias a b _ _ => [a, b]
  | .resolveTensor _ _ _ => []
  | .resolveOptional _ _ _ => []
  | .resolveState _ _ _ => []
  | .lstmCell _ input hidden cell inputWeights hiddenWeights inputBias hiddenBias =>
    [input, hidden, cell, inputWeights, hiddenWeights] ++ inputBias.toList ++ hiddenBias.toList

theorem map_map (change : Operand → Other) (next : Other → Final) (operation : Operation Operand) :
    (operation.map change).map next = operation.map fun operand => next (change operand) := by
  cases operation <;> simp only [map, Option.map_map, Function.comp_def]

theorem map_id (operation : Operation Operand) :
    (operation.map fun operand => operand) = operation := by
  cases operation <;> simp only [map, Option.map_id']

theorem operands_map (change : Operand → Other) (operation : Operation Operand) :
    (operation.map change).operands = operation.operands.map change := by
  cases operation with
  | lstmCell node input hidden cell inputWeights hiddenWeights inputBias hiddenBias =>
      cases inputBias <;> cases hiddenBias <;> rfl
  | _ => rfl

end Operation

/-! ### Recipes -/

/-- A tensor as a recipe refers to it: one that it was given, or one that it has made. -/
inductive Slot (count : Nat) where
  | given (tensor : Handle)
  | made (index : Fin count)

/-- The tensor in a slot, with the tensors that were made. -/
def Slot.read {count : Nat} (made : Fin count → Handle) : Slot count → Handle
  | .given tensor => tensor
  | .made index => made index

/-- The tensors that were made before, and behind them some more. -/
def extend {count total : Nat} (made : Fin count → Handle) (more : List Handle)
    (sum : total = count + more.length) : Fin total → Handle := fun index =>
  if before : index.val < count then made ⟨index, before⟩
  else more.get ⟨index - count, by omega⟩

/-- **A converter that is composed of operations**, with the number of tensors that it has made so
far. It goes on according to the types of what an operation gives. An operation may be performed on
behalf of a node, of which a rejection is then reported as the failure to make a primitive. Events
can be recorded on the way. -/
inductive Recipe : Nat → Type where
  | done {count : Nat} : Recipe count
  | fail {count : Nat} (failure : Failure) : Recipe count
  | perform {count : Nat} (behalf : Option (OperatorNode × String))
    (operation : Operation (Slot count))
    (next : (types : List TensorType) → Recipe (count + types.length)) : Recipe count
  | associate {count : Nat} (value : String) (slot : Slot count) (rest : Recipe count) :
    Recipe count
  | record {count : Nat} (event : TraceEvent) (rest : Recipe count) : Recipe count

/-- A step on behalf of a node, if there is one. -/
def Lower.onBehalf {Value : Type} : Option (OperatorNode × String) → Lower Value → Lower Value
  | none, step => step
  | some (node, primitive), step => checked node primitive step

/-- Do what a recipe says, with the tensors that were made so far. -/
def Recipe.run {count : Nat} : Recipe count → (Fin count → Handle) → Lower Unit
  | .done, _ => pure ()
  | .fail failure, _ => throw failure
  | .perform behalf operation next, made => do
    let results ← Lower.onBehalf behalf (operation.map (Slot.read made)).run
    (next (results.map Handle.type)).run (extend made results (by rw [List.length_map]))
  | .associate value slot rest, made => do
    let _ ← Lower.associate value (slot.read made)
    rest.run made
  | .record event rest, made => do
    Lower.traceEvent event
    rest.run made

/-- The converter that follows a recipe for each node and its arguments. -/
def Converter.ofRecipe (recipe : OperatorNode → List Argument → Recipe 0) : Converter :=
  fun node arguments => (recipe node arguments).run nofun

/-! ### What is mentioned -/

/-- The tensors and the names that may be mentioned. -/
structure Scope where
  tensor : Handle → Prop
  name : String → Prop

/-- Anything may be mentioned. -/
def Scope.all : Scope where
  tensor _ := True
  name _ := True

/-- The tensors that an argument gives, itself or in a list. -/
inductive Argument.Holds (tensor : Handle) : Argument → Prop
  | tensor : Holds tensor (.tensor tensor)
  | boxed : Holds tensor (.boxed tensor)
  | item {items : List Argument} {item : Argument} (member : item ∈ items)
      (holds : Holds tensor item) : Holds tensor (.list items)

/-- The tensors that an argument gives may be mentioned. -/
def Argument.Within (scope : Scope) (argument : Argument) : Prop :=
  ∀ tensor, argument.Holds tensor → scope.tensor tensor

/-- What an operation mentions besides its operands may be mentioned. -/
def Operation.Within {Operand : Type} (scope : Scope) : Operation Operand → Prop
  | .tensor name => scope.name name
  | .resolveTensor argument _ _ => argument.Within scope
  | .resolveOptional argument _ _ => argument.Within scope
  | .resolveState argument _ _ => argument.Within scope
  | _ => True

theorem Operation.within_map {Operand Other : Type} {scope : Scope} (change : Operand → Other)
    (operation : Operation Operand) :
    (operation.map change).Within scope ↔ operation.Within scope := by
  cases operation <;> exact Iff.rfl

/-- A tensor that was given may be mentioned. -/
def Slot.Within {count : Nat} (scope : Scope) : Slot count → Prop
  | .given tensor => scope.tensor tensor
  | .made _ => True

/-- The tensor in a slot that was given. -/
def Slot.tensors {count : Nat} : Slot count → List Handle
  | .given tensor => [tensor]
  | .made _ => []

theorem Slot.within_tensors {count : Nat} {scope : Scope} {slot : Slot count}
    (within : slot.Within scope) : ∀ tensor ∈ slot.tensors, scope.tensor tensor := by
  cases slot with
  | given tensor => exact List.forall_mem_singleton.mpr within
  | made index => exact nofun

/-- All that a recipe mentions may be mentioned, however it goes on. -/
def Recipe.Within {count : Nat} (scope : Scope) : Recipe count → Prop
  | .done => True
  | .fail _ => True
  | .perform _ operation next =>
    (∀ slot ∈ operation.operands, slot.Within scope) ∧ operation.Within scope ∧
      ∀ types, (next types).Within scope
  | .associate _ slot rest => slot.Within scope ∧ rest.Within scope
  | .record _ rest => rest.Within scope

theorem Lower.performs_onBehalf {Value : Type} {allowed : Call → Prop} {step : Lower Value}
    (performs : Performs allowed step) (behalf : Option (OperatorNode × String)) :
    Performs allowed (onBehalf behalf step) := by
  cases behalf with
  | none => exact performs
  | some of => exact calling_checked performs of.1 of.2

theorem Lower.performs_return {Value Next : Type} {allowed : Call → Prop} {step : Lower Value}
    (performs : Performs allowed step) (results : Value → Next) :
    Performs allowed (do return results (← step)) :=
  calling_bind performs fun _ => calling_pure _

/-- An operation changes a graph through calls alone. -/
theorem Operation.performs (operation : Operation Handle) :
    Lower.Performs (fun _ => True) operation.run := by
  have lowers {Value : Type} {step : Lower Value} (calling : Lower.Calling step)
      (results : Value → List Handle) :
      Lower.Performs (fun _ => True) (do return results (← step)) :=
    Lower.performs_return (calling.mono fun _ _ => trivial) results
  have calls (call : Call) :
      Lower.Performs (fun _ => True) (do return [← Lower.build call.build]) :=
    Lower.performs_return (Lower.calling_call call trivial) _
  cases operation with
  | freeze value name => exact calls (.freeze value name)
  | tensor name => exact Lower.performs_return (Lower.calling_inspect _) _
  | matmul a b transposeA transposeB => exact calls (.matmul a b transposeA transposeB)
  | elementwise a b op => exact calls (.elementwise a b op)
  | slice a offsets sizes strides => exact calls (.slice a offsets sizes strides)
  | activation a request => exact calls (.activation a request)
  | reshape a shape => exact calls (.reshape a shape)
  | reconcile primary secondary name =>
      exact lowers (Lower.calling_reconcile primary secondary name) _
  | addBias a b name node => exact lowers (Lower.calling_addBias a b name node) _
  | resolveTensor argument name node =>
      exact lowers (Lower.calling_resolveTensor argument name node) _
  | resolveOptional argument name node =>
      exact lowers (Lower.calling_resolveOptional argument name node) _
  | resolveState argument name node =>
      exact lowers (Lower.calling_resolveState argument name node) _
  | lstmCell node input hidden cell inputWeights hiddenWeights inputBias hiddenBias =>
      exact lowers (Lower.calling_lstmCell node _) _

/-- **A recipe changes a graph through calls alone**, however far it comes. -/
theorem Recipe.performs {count : Nat} (recipe : Recipe count) (made : Fin count → Handle) :
    Lower.Performs (fun _ => True) (recipe.run made) := by
  induction recipe with
  | done => exact Lower.calling_pure ()
  | fail failure => exact Lower.calling_throw failure
  | perform behalf operation next ih =>
      exact Lower.calling_bind (Lower.performs_onBehalf (operation.map _).performs behalf)
        fun results => ih _ _
  | associate value slot rest ih =>
      exact Lower.calling_bind
        ((Lower.calling_associate value _).mono fun _ _ => trivial) fun _ => ih made
  | record event rest ih =>
      exact Lower.calling_bind (Lower.calling_modify fun _ => rfl) fun _ => ih made

/-! ### The small converters -/

namespace Recipe

variable {count : Nat} {made : Fin count → Handle}

/-- Go on with an argument, if it is there. -/
def argument (arguments : List Argument) (position : Nat) (next : Argument → Recipe count) :
    Recipe count :=
  match arguments[position]? with
  | some argument => next argument
  | none => .fail (.outOfRange .arguments)

/-- Perform an operation that gives one tensor. -/
def single (operation : Operation (Slot count)) (rest : Recipe (count + 1)) : Recipe count :=
  .perform none operation fun
    | [_] => rest
    | _ => .done

/-- Bind the first output of a node to a tensor. -/
def output (node : OperatorNode) (slot : Slot count) : Recipe count :=
  match node.outputs[0]? with
  | some value => .associate value slot .done
  | none => .fail (.outOfRange .outputs)

/-- Bind each output of a node to its first argument. -/
def forward (node : OperatorNode) (arguments : List Argument) : Recipe 0 :=
  argument arguments 0 fun first =>
    single (.resolveTensor first "self" node) <|
      node.outputs.foldr (fun value => .associate value (.made 0)) .done

/-- Bind the first output of a node to the sum of its first argument and, if it is there,
its second. -/
def sum (node : OperatorNode) (arguments : List Argument) : Recipe 0 :=
  argument arguments 0 fun first =>
    single (.resolveTensor first "self" node) <|
      argument arguments 1 fun second =>
        .perform none (.resolveOptional second "other" node) fun
          | [] => output node (.made 0)
          | [_] => single (.addBias (.made 0) (.made 1) "other" node) (output node (.made 2))
          | _ => .done

end Recipe

namespace Converter

end Converter

end OperatorLowering
