/-
**The gates of a cell.**

Pre-activations whose last dimension has four equal known quarters are split into four gates, each
sliced out and activated. All four have one type, that of a quarter of the pre-activations.
-/

import OperatorLowering.Proofs.Cell.Walk

namespace OperatorLowering

/-- The type of a gate that is sliced out of a tensor of this type. -/
def TensorType.gate (type : TensorType) : TensorType :=
  ⟨type.shape.dropLast ++ [.size type.shape.quarter], type.dtype⟩

namespace Lower

variable {fit : Prop} {node : OperatorNode} {start context : Context}
  {made : List (Request Wire)} {base rest : List Handle} {all : Handle}

/-- The width of a gate is a quarter of the last dimension, which is known and has four equal
quarters, or the lowering halts. -/
theorem gateWidth_ends (walked : Walked start made (base ++ [all]) context)
    (ranked : all.shape ≠ []) (foreseen : fit → ∀ broken, ¬ all.shape.Unquartered broken)
    (later : List (Request Wire)) (place : Nat) :
    Ends (gateWidth all node) context
      (fun width after => width = all.shape.quarter ∧ after = context ∧
        ∀ broken, ¬ all.shape.Unquartered broken)
      (HaltedWith fit node start made (all.shape.gateRequest (.layer place) 0 :: later)) := by
  have halts (broken : Precondition) (unquartered : all.shape.Unquartered broken) :
      HaltedWith fit node start made (all.shape.gateRequest (.layer place) 0 :: later)
        (.ofNode node (.precondition broken)) context :=
    ⟨HaltedIn.first ⟨_, context.graph, [], walked.follows, Graph.Grows.refl _,
      .width all place broken List.getLast?_concat unquartered fun holds =>
        foreseen holds broken unquartered⟩ later, walked.unbound⟩
  unfold gateWidth
  cases last : all.shape.getLast? with
  | none => exact absurd (List.getLast?_eq_none_iff.mp last) ranked
  | some dim =>
      cases dim with
      | symbol name => exact Ends.of_error rfl (halts _ (Or.inl ⟨name, last, rfl⟩))
      | size width =>
          by_cases divisible : width % 4 = 0
          · simp only [if_pos divisible]
            refine Ends.pure ⟨?_, rfl, ?_⟩
            · rw [Shape.quarter, last]
            · rintro broken (⟨name, symbolic, _⟩ | ⟨other, same, indivisible, _⟩)
              · rw [last] at symbolic
                cases symbolic
              · rw [last] at same
                cases same
                exact indivisible divisible
          · simp only [if_neg divisible]
            exact Ends.of_error rfl (halts _ (Or.inr ⟨width, last, divisible, rfl⟩))

/-- **One gate**, as planned. -/
theorem gate_ends (walked : Walked start made (base ++ all :: rest) context) (index : Nat)
    (kind : Activation) :
    Ends (gate node all all.shape.quarter index kind) context
      (fun gate after => ∃ chunk, Walked start
        (made ++ [all.shape.gateRequest (.layer base.length) index,
          .activation (.layer (base.length + (rest.length + 1))) kind])
        (base ++ all :: (rest ++ [chunk, gate])) after ∧ gate.type = all.type.gate)
      (HaltedWith fit node start made [all.shape.gateRequest (.layer base.length) index,
        .activation (.layer (base.length + (rest.length + 1))) kind]) := by
  refine segments_ends (request_ends walked (CellOperands.traverse_gateRequest id _ _ _))
    fun chunk sliced ends => ?_
  obtain ⟨walked, typed⟩ := ends
  have chunkType : chunk.type = all.type.gate := by
    obtain ⟨_, _, same⟩ := Option.map_eq_some_iff.mp typed
    exact same.symm
  refine (request_ends walked (CellOperands.traverse_gateActivation id all chunk kind)).mono ?_
    fun _ _ => id
  rintro gate after ⟨walked, activated⟩
  refine ⟨chunk, ?_, ?_⟩
  · simpa using walked
  · rw [← chunkType]
    exact (Option.some.inj activated).symm

/-- **The four gates**, as planned. -/
theorem splitGates_ends (walked : Walked start made (base ++ [all]) context)
    (ranked : all.shape ≠ []) (foreseen : fit → ∀ broken, ¬ all.shape.Unquartered broken) :
    Ends (splitGates node all) context
      (fun split after => ∃ one two three four,
        Walked start (made ++ CellOperands.gates all.shape base.length)
          (base ++ [all, one, split.input, two, split.forget, three, split.cell, four,
            split.output]) after ∧
        split.input.type = all.type.gate ∧ split.forget.type = all.type.gate ∧
          split.cell.type = all.type.gate ∧ split.output.type = all.type.gate ∧
          ∀ broken, ¬ all.shape.Unquartered broken)
      (HaltedWith fit node start made (CellOperands.gates all.shape base.length)) := by
  unfold splitGates
  refine (gateWidth_ends walked ranked foreseen _ base.length).bind fun width after ends => ?_
  obtain ⟨isWidth, same, quartered⟩ := ends
  subst isWidth same
  refine segments_ends (gate_ends walked 0 .sigmoid) fun input _ ends => ?_
  obtain ⟨one, walked, typed⟩ := ends
  refine segments_ends (gate_ends walked 1 .sigmoid) fun forget _ ends => ?_
  obtain ⟨two, walked, typed'⟩ := ends
  refine segments_ends (gate_ends walked 2 .tanh) fun cell _ ends => ?_
  obtain ⟨three, walked, typed''⟩ := ends
  rw [← List.append_nil [_, _]]
  refine segments_ends (gate_ends walked 3 .sigmoid) fun output _ ends => ?_
  obtain ⟨four, walked, last⟩ := ends
  refine Ends.pure ⟨one, two, three, four, ?_, typed, typed', typed'', last, quartered⟩
  simp only [List.append_assoc] at walked
  exact walked

end Lower

end OperatorLowering
