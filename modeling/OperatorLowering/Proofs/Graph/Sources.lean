/-
**What inputs and literals do to a graph.**

An input enters under its own name, unless its element type or the name is refused. A literal enters
under its name or a variant of it. Its element type is looked at first, its elements only once it
has a name: a literal that cannot be read, or is too large, has raised the counter, unless the name
that it was given was free.

* `Literal.Withheld`: the literals that no rejection refuses and no graph embeds;
* `Build.addInput_ends`, `Build.freeze_ends`: how the two calls end;
* `Build.freeze_embeds`: which literals are embedded depends on no graph.
-/

import OperatorLowering.Graph.Source
import OperatorLowering.Proofs.Graph.Steps

namespace OperatorLowering

/-- An element type that is refused is rejected. -/
theorem ElementType.requireCode_rejects {dtype : ElementType} {fault : Fault}
    (refused : dtype.requireCode = .error fault) : ∃ reason, fault = .rejected reason := by
  unfold requireCode at refused
  split at refused
  · cases refused
  · cases refused
    exact ⟨_, rfl⟩

/-- The types with a code are those that are computed on. -/
theorem ElementType.requireCode_isOk {dtype : ElementType} :
    (∃ code, dtype.requireCode = .ok code) ↔ dtype.computeCode?.isSome = true := by
  unfold requireCode
  cases dtype.computeCode? with
  | none => exact iff_of_false nofun nofun
  | some code => exact iff_of_true ⟨code, rfl⟩ rfl

/-! ### Literals -/

/-- A view with an axis of size zero reads no position. -/
theorem Axis.positions_eq_nil {axes : List Axis} (empty : ∃ axis ∈ axes, axis.size = 0) :
    positions axes = [] := by
  induction axes with
  | nil => simp at empty
  | cons first rest ih =>
      simp only [List.mem_cons, exists_eq_or_imp] at empty
      rcases empty with none_here | behind
      · simp [positions, none_here]
      · simp [positions, ih behind]

/-- A view reads as many positions as the product of its sizes. -/
theorem Axis.length_positions (axes : List Axis) (factor : Nat) :
    (axes.map size).foldl (· * ·) factor = factor * (positions axes).length := by
  induction axes generalizing factor with
  | nil => exact (Nat.mul_one factor).symm
  | cons first rest ih =>
      rw [List.map_cons, List.foldl_cons, ih, positions, List.length_flatMap]
      simp [Nat.mul_assoc]

namespace Literal

/-- The contents are the elements at the positions that the view reads. -/
theorem contents_eq (value : Literal) :
    value.contents = (Axis.positions value.axes).flatMap value.element := by
  unfold contents
  split
  · next empty =>
      rw [Axis.positions_eq_nil (by simpa using empty)]
      rfl
  · rfl

/-- **The size of a literal** is the number of bytes of its contents. -/
theorem length_contents (value : Literal) : value.contents.length = value.size := by
  have each : ∀ position, (value.element position).length = value.dtype.width := fun position => by
    rw [element, List.length_map, List.length_range]
  rw [contents_eq, size, dims, Axis.length_positions, List.length_flatMap]
  simp [each, Nat.mul_comm]

/-- A literal that graphs embed: of a type that is computed on, readable, and not too large. -/
def Embeddable (value : Literal) : Prop :=
  value.dtype.computeCode?.isSome = true ∧ value.requireEmbeddable = .ok ()

/-- **A literal that is no graph's though no rejection refuses it**, with the fault that it meets:
its elements cannot be read, or they can and their bytes are more than a byte string holds. -/
inductive Withheld (value : Literal) : Fault → Prop
  | unreadable (obstacle : Obstacle) (stands : value.obstacle = some obstacle) :
      Withheld value (.unreadable obstacle)
  | long (readable : value.obstacle = none) (ranked : value.axes.length ≤ maximumRank)
      (counted : value.span ≤ maximumSpan) (long : maximumBytes < value.contents.length) :
      Withheld value .bytesTooMany

/-- **A literal that is refused** is rejected or withheld. -/
theorem requireEmbeddable_refuses {value : Literal} {fault : Fault}
    (refused : value.requireEmbeddable = .error fault) :
    (∃ reason, fault = .rejected reason) ∨ value.Withheld fault := by
  unfold requireEmbeddable at refused
  split at refused
  · next obstacle stands =>
      cases refused
      exact Or.inr (.unreadable obstacle stands)
  · next readable =>
      by_cases ranked : maximumRank < value.axes.length
      · rw [if_pos ranked] at refused
        cases refused
        exact Or.inl ⟨_, rfl⟩
      by_cases counted : maximumSpan < value.span
      · rw [if_neg ranked, if_pos counted] at refused
        cases refused
        exact Or.inl ⟨_, rfl⟩
      rw [if_neg ranked, if_neg counted] at refused
      split at refused
      · next long =>
          cases refused
          rw [← length_contents] at long
          exact Or.inr (.long readable (Nat.not_lt.mp ranked) (Nat.not_lt.mp counted) long)
      · cases refused

/-- **A literal that is withheld** is refused. -/
theorem Withheld.refused {value : Literal} {fault : Fault} (withheld : value.Withheld fault) :
    value.requireEmbeddable = .error fault := by
  unfold requireEmbeddable
  cases withheld with
  | unreadable obstacle stands => rw [stands]
  | long readable ranked counted long =>
      rw [length_contents] at long
      rw [readable]
      simp only
      rw [if_neg (Nat.not_lt.mpr ranked), if_neg (Nat.not_lt.mpr counted), if_pos long]

end Literal

/-! ### Inputs and literals of a graph -/

namespace Build

/-- **An input** enters under its name, or is rejected and leaves the graph alone. -/
theorem addInput_ends (name : String) (shape : Shape) (dtype : ElementType) (graph : Graph) :
    Ends (addInput name shape dtype) graph
      (fun tensor after => tensor = ⟨name, shape, dtype⟩ ∧ graph.Grows [.input tensor] after)
      (fun fault after => (∃ reason, fault = .rejected reason) ∧ after = graph) := by
  cases typed : dtype.requireCode with
  | error fault =>
      exact Ends.of_error (bind_run_error (inspect_error typed))
        ⟨ElementType.requireCode_rejects typed, rfl⟩
  | ok code =>
      refine Ends.after_ok (inspect_ok typed) ?_
      cases taken : graph.tensors.contains name with
      | true =>
          have declared : declare name shape dtype graph =
              .error (.rejected (.nameTaken name)) graph := by
            simp only [declare, taken, if_true]
          exact Ends.of_error (bind_run_error declared) ⟨⟨_, rfl⟩, rfl⟩
      | false =>
          let tensor : Handle := ⟨name, shape, dtype⟩
          have allowed : (Addition.input tensor).Allowed graph :=
            ⟨fun made entered => (by cases entered; exact taken), fun _ member => (by cases member)⟩
          have grows := Graph.Grows.one (Nat.le_refl graph.counter) allowed
          refine Ends.after_ok (declare_run shape dtype taken) (Ends.of_ok rfl ⟨rfl, ?_⟩)
          simpa [Addition.apply, Addition.enter, Addition.tensor?, Addition.node?,
            Addition.layer?, Addition.constant?, Addition.input?, tensor] using grows

/-- A literal with a name is embedded, unless it is refused: then the counter alone may have moved,
and has not if the name is free. -/
theorem embedLiteral_ends (value : Literal) (name : String) (graph : Graph) :
    Ends (do
        let name ← uniqueName name
        inspect fun _ => value.requireEmbeddable
        embed name (.ofLiteral value)) graph
      (fun tensor after => value.requireEmbeddable = .ok () ∧
        tensor = Constant.tensor ⟨tensor.name, .ofLiteral value⟩ ∧
          graph.Grows [.constant ⟨tensor.name, .ofLiteral value⟩] after)
      fun fault after => value.requireEmbeddable = .error fault ∧ ∃ counter,
        graph.counter ≤ counter ∧ after = { graph with counter } ∧
          (graph.tensors.contains name = false → counter = graph.counter) := by
  obtain ⟨unique, counter, rises, free, run⟩ := uniqueName_run name graph
  refine Ends.after_ok run ?_
  cases answer : value.requireEmbeddable with
  | ok _ =>
      obtain ⟨after, embedded, grows⟩ := embed_run unique (.ofLiteral value) { graph with counter }
        free
      refine Ends.after_ok (inspect_ok rfl) (Ends.of_ok embedded ⟨rfl, rfl, grows.raise rises⟩)
  | error fault =>
      refine Ends.of_error (bind_run_error (inspect_error rfl))
        ⟨rfl, counter, rises, rfl, fun fresh => ?_⟩
      have kept : graph.uniqueName name = (name, graph) := by
        rw [Graph.uniqueName, fresh]
        rfl
      have same : EStateM.Result.ok (graph.uniqueName name).1 (graph.uniqueName name).2 =
          .ok unique { graph with counter } := run
      rw [kept] at same
      injection same with _ moved
      exact congrArg Graph.counter moved.symm

/-- **A literal** is embedded as one constant, or refused. If its element type is refused the graph
is as it was; if that is computed on, the counter alone may have moved, and has not if the name that
the literal was given is free. -/
theorem freeze_ends (value : Literal) (name : Option String) (graph : Graph) :
    Ends (freeze value name) graph
      (fun tensor after => value.requireEmbeddable = .ok () ∧
        tensor = Constant.tensor ⟨tensor.name, .ofLiteral value⟩ ∧
          graph.Grows [.constant ⟨tensor.name, .ofLiteral value⟩] after)
      fun fault after => value.dtype.requireCode = .error fault ∧ after = graph ∨
        value.dtype.computeCode?.isSome = true ∧ value.requireEmbeddable = .error fault ∧ ∃ counter,
          graph.counter ≤ counter ∧ after = { graph with counter } ∧
            ∀ free, name = some free → free ≠ "" → graph.tensors.contains free = false →
              counter = graph.counter := by
  cases typed : value.dtype.requireCode with
  | error fault =>
      exact Ends.of_error (bind_run_error (inspect_error typed)) (Or.inl ⟨rfl, rfl⟩)
  | ok code =>
      have computed := ElementType.requireCode_isOk.mp ⟨code, typed⟩
      refine Ends.after_ok (inspect_ok typed) ?_
      cases given : name.filter (· ≠ "") with
      | some found =>
          refine (embedLiteral_ends value found graph).mono (fun _ _ => id) ?_
          rintro fault after ⟨refused, counter, rises, rfl, kept⟩
          refine Or.inr ⟨computed, refused, counter, rises, rfl, fun free isFree _ fresh => kept ?_⟩
          rw [isFree] at given
          obtain ⟨same, _⟩ := Option.filter_eq_some_iff.mp given
          rwa [← Option.some.inj same]
      | none =>
          refine Ends.after_ok (freshName_run "const" graph) ?_
          refine (embedLiteral_ends value _ _).mono ?_ ?_
          · rintro tensor after ⟨accepted, same, grows⟩
            exact ⟨accepted, same, grows.raise (Nat.le_succ _)⟩
          · rintro fault after ⟨refused, counter, rises, rfl, _⟩
            refine Or.inr ⟨computed, refused, counter, Nat.le_of_succ_le rises, rfl,
              fun free isFree nonempty _ => ?_⟩
            rw [isFree] at given
            simp [Option.filter, nonempty] at given

/-- **A literal is embedded** in any graph or in none. -/
theorem freeze_embeds (value : Literal) (name : Option String) (graph : Graph) :
    Ends (freeze value name) graph
      (fun tensor after => value.Embeddable ∧
        tensor = Constant.tensor ⟨tensor.name, .ofLiteral value⟩ ∧
          graph.Grows [.constant ⟨tensor.name, .ofLiteral value⟩] after)
      fun _ _ => ¬ value.Embeddable := by
  cases typed : value.dtype.requireCode with
  | error fault =>
      refine Ends.of_error (bind_run_error (inspect_error typed)) fun embeddable => ?_
      obtain ⟨code, known⟩ := ElementType.requireCode_isOk.mpr embeddable.1
      rw [typed] at known
      cases known
  | ok code =>
      refine (freeze_ends value name graph).mono ?_ ?_
      · rintro tensor after ⟨accepted, embedded⟩
        exact ⟨⟨ElementType.requireCode_isOk.mp ⟨code, typed⟩, accepted⟩, embedded⟩
      · rintro fault after (⟨refused, _⟩ | ⟨_, refused, _⟩) ⟨_, accepted⟩
        · rw [typed] at refused
          cases refused
        · rw [accepted] at refused
          cases refused

end Build

end OperatorLowering
