/-
**Conversions of cells.**

A conversion binds the arguments of a node, resolves them to the operands of a cell, lowers the
cell, and collects the tensors that are bound to the node's outputs. With the standard registry it
comes to its end (`Converted`) or fails in one of four ways (`Unconverted`): the kind is not
registered, the arguments break the signature, an argument cannot be resolved, or the lowering of
the cell halts.

* `Lower.cellOperands_resolves`: the operands of a cell;
* `Registry.standard_ends`: every conversion with the standard registry.
-/

import OperatorLowering.Lowering.Registry
import OperatorLowering.Proofs.Cell.Lowering
import OperatorLowering.Proofs.Lowering.Arguments
import OperatorLowering.Proofs.Lowering.Calls

namespace OperatorLowering

/-- The operands of a cell come from arguments. -/
def CellOperands.Sourced (operands : CellOperands) (arguments : List Argument) : Prop :=
  ∀ tensor ∈ operands.tensors, ∃ argument ∈ arguments, argument.Source tensor

/-- **The arguments of a cell** are resolved to its operands. -/
theorem Lower.cellOperands_resolves {node : OperatorNode} {arguments : List Argument}
    (six : arguments.length = 6) :
    Resolves node (·.GivenIn arguments) (cellOperands node arguments) fun operands =>
      operands.Sourced arguments := by
  have at? {position : Nat} (few : position < 6) :=
    @argumentAt_resolves node (·.GivenIn arguments) arguments position (six ▸ few)
  have holds {argument : Argument} (member : argument ∈ arguments) (value : Literal)
      (inside : argument.HasLiteral value) : value.GivenIn arguments := ⟨argument, member, inside⟩
  unfold cellOperands
  refine (at? (show 0 < 6 by decide)).bind fun first inFirst => ?_
  refine (resolveTensor_resolves first "input" (holds inFirst)).bind fun input isInput => ?_
  refine (at? (show 1 < 6 by decide)).bind fun second inSecond => ?_
  refine (resolveState_resolves second "hx" (holds inSecond)).bind fun state isState => ?_
  refine (at? (show 2 < 6 by decide)).bind fun third inThird => ?_
  refine (resolveTensor_resolves third "w_ih" (holds inThird)).bind
    fun inputWeights isInputWeights => ?_
  refine (at? (show 3 < 6 by decide)).bind fun fourth inFourth => ?_
  refine (resolveTensor_resolves fourth "w_hh" (holds inFourth)).bind
    fun hiddenWeights isHiddenWeights => ?_
  refine (at? (show 4 < 6 by decide)).bind fun fifth inFifth => ?_
  refine (resolveOptional_resolves fifth "b_ih" (holds inFifth)).bind
    fun inputBias isInputBias => ?_
  refine (at? (show 5 < 6 by decide)).bind fun sixth inSixth => ?_
  refine (resolveOptional_resolves sixth "b_hh" (holds inSixth)).bind
    fun hiddenBias isHiddenBias => .pure ?_
  intro tensor member
  simp only [CellOperands.tensors, List.mem_append, List.mem_cons, List.not_mem_nil,
    or_false] at member
  rcases member with ((rfl | rfl | rfl | rfl | rfl) | bias) | bias
  · exact ⟨first, inFirst, isInput⟩
  · exact ⟨second, inSecond, isState.1⟩
  · exact ⟨second, inSecond, isState.2⟩
  · exact ⟨third, inThird, isInputWeights⟩
  · exact ⟨fourth, inFourth, isHiddenWeights⟩
  · exact ⟨fifth, inFifth, isInputBias tensor bias⟩
  · exact ⟨sixth, inSixth, isHiddenBias tensor bias⟩

/-! ### How a conversion ends -/

/-- **A conversion that came to its end**: the arguments were resolved to operands, by constants
alone, and the lowering of these completed. -/
inductive Converted (node : OperatorNode) (arguments : List Argument) (start : Context)
    (after : Context) : Prop
  | lowered (operands : CellOperands) (middle : Context) (result : CellOutputs)
      (outputs : List Handle) (sourced : operands.Sourced arguments)
      (resolved : ∃ constants : List Constant,
        start.graph.Grows (constants.map Addition.constant) middle.graph)
      (completed : Completed node operands middle result outputs after)

/-- **How a conversion fails.** -/
inductive Unconverted (node : OperatorNode) (arguments : List Argument) :
    Failure → Context → Prop
  /-- The kind of the node is not registered. -/
  | unsupported (after : Context) :
      Unconverted node arguments (.ofNode node (.unsupported node.kind)) after
  /-- The arguments, or the outputs of the node, break the signature. -/
  | contract (broken : Precondition) (after : Context) :
      Unconverted node arguments (.ofNode node (.precondition broken)) after
  /-- An argument cannot be resolved. -/
  | unresolved (failure : Failure) (after : Context)
      (fails : Unresolved node (·.GivenIn arguments) failure) :
      Unconverted node arguments failure after
  /-- The lowering halts in the opening of its plan. -/
  | halted (operands : CellOperands) (middle : Context) (failure : Failure) (after : Context)
      (sourced : operands.Sourced arguments)
      (halts : Lower.HaltedWith operands.Fit node middle [] operands.opening failure after) :
      Unconverted node arguments failure after

theorem NameTable.contains_insert {Value : Type} (table : NameTable Value) (name other : String)
    (value : Value) :
    (table.insert name value).contains other = (other == name || table.contains other) := by
  unfold NameTable.contains
  rw [NameTable.get?_insert]
  by_cases same : other = name
  · simp [same]
  · simp [same]

/-- A completed lowering has bound the two outputs of its node. -/
theorem Completed.unbound {node : OperatorNode} {operands : CellOperands} {start after : Context}
    {result : CellOutputs} {outputs : List Handle}
    (completed : Completed node operands start result outputs after)
    (two : node.outputs.length = 2) : after.unbound node = [] := by
  obtain ⟨cellValue, hiddenValue, second, first, bindings⟩ := completed.bound
  have outputsAre : node.outputs = [hiddenValue, cellValue] := by
    obtain ⟨zero, one, named⟩ := List.length_eq_two.mp two
    rw [named] at first second
    rw [named, Option.some.inj first, Option.some.inj second]
  refine List.filter_eq_nil_iff.mpr ?_
  intro value member
  rw [outputsAre] at member
  rw [bindings, NameTable.contains_insert, NameTable.contains_insert]
  rcases List.mem_pair.mp member with rfl | rfl
  · simp
  · simp

/-- A node with six arguments and two outputs. -/
theorem Lower.convertLstmCell_ends {node : OperatorNode} {arguments : List Argument}
    (start : Context) (six : arguments.length = 6) (two : node.outputs.length = 2) :
    Ends (convertLstmCell node arguments) start
      (fun _ after => Converted node arguments start after)
      (Unconverted node arguments) := by
  unfold convertLstmCell
  refine ((cellOperands_resolves six start).mono (fun _ _ => id)
    fun failure after fails => .unresolved failure after fails).bind fun operands middle ends => ?_
  obtain ⟨sourced, resolved⟩ := ends
  refine Ends.after_ok rfl (Ends.after_ok rfl (Ends.after_ok rfl
    (Ends.after_ok rfl (Ends.after_ok rfl ?_))))
  refine ((lstmCell_ends node operands _).mono (fun _ _ => id) ?_).bind fun result after ends => ?_
  · rintro failure after (halts | ⟨outputs, unnamed⟩)
    · exact .halted operands _ failure after sourced halts
    · exact absurd unnamed.short (by omega)
  · obtain ⟨outputs, completed⟩ := ends
    refine Ends.after_ok rfl (Ends.of_ok rfl ?_)
    exact .lowered operands _ result outputs sourced resolved ⟨completed.fit, completed.follows,
      completed.cell, completed.hidden, completed.bound⟩

/-- The literals of bound arguments are those of the given ones. -/
theorem Literal.GivenIn.of_bound {value : Literal} {arguments bound : List Argument}
    (givenIn : value.GivenIn bound)
    (given : ∀ argument ∈ bound, argument ∈ arguments ∨ argument = .absent) :
    value.GivenIn arguments := by
  obtain ⟨argument, listed, holds⟩ := givenIn
  rcases given argument listed with old | rfl
  · exact ⟨argument, old, holds⟩
  · cases holds

/-- What can be resolved from bound arguments can be resolved from the given ones. -/
theorem CellOperands.Sourced.of_bound {operands : CellOperands} {arguments bound : List Argument}
    (sourced : operands.Sourced bound)
    (given : ∀ argument ∈ bound, argument ∈ arguments ∨ argument = .absent) :
    operands.Sourced arguments := by
  intro tensor member
  obtain ⟨argument, listed, source⟩ := sourced tensor member
  rcases given argument listed with old | rfl
  · exact ⟨argument, old, source⟩
  · cases source

/-- **Every conversion with the standard registry** comes to its end or fails in one of
four ways. -/
theorem Registry.standard_ends (node : OperatorNode) (arguments : List Argument)
    (start : Context) :
    Ends (Registry.standard.convert node arguments) start
      (fun _ after => Converted node arguments start after)
      (Unconverted node arguments) := by
  unfold Registry.convert
  cases found : Registry.standard.find? node.kind with
  | none => exact Ends.of_error rfl (.unsupported _)
  | some entry =>
      obtain rfl := Registry.find?_standard found
      cases binds : lstmCellSignature.bindArguments node.outputs.length arguments with
      | error broken =>
          simp only [RegistryEntry.convert, binds]
          exact Ends.of_error rfl (.contract broken _)
      | ok bound =>
          obtain ⟨two, six, given⟩ := Signature.bindArguments_ok binds
          simp only [RegistryEntry.convert, binds]
          refine Ends.after_ok rfl ?_
          refine ((Lower.convertLstmCell_ends _ six two).mono (fun _ _ => id) ?_).bind
            fun _ after ends => ?_
          · intro failure after fails
            cases fails with
            | unsupported => exact .unsupported after
            | contract broken => exact .contract broken after
            | unresolved _ _ fails =>
                exact .unresolved failure after (fails.mono fun _ givenIn => givenIn.of_bound given)
            | halted operands middle _ _ sourced halts =>
                exact .halted operands middle failure after (sourced.of_bound given) halts
          · obtain ⟨operands, middle, result, outputs, sourced, resolved, completed⟩ := ends
            refine (Lower.requireOutputs_ends node).mono ?_ ?_
            · rintro _ _ ⟨rfl, _⟩
              exact .lowered operands middle result outputs (sourced.of_bound given) resolved
                completed
            · rintro failure _ ⟨_, missing, _⟩
              exact absurd (completed.unbound two) missing

end OperatorLowering
