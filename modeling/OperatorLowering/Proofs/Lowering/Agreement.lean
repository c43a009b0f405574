/-
**One notion of broadcasting.**

Whether a shape absorbs another one, and what two shapes combine to, are computed apart from each
other. They agree for all shapes. So a bias that was found to broadcast is never refused for its
shape later on, and the sum has the shape of the tensor:

* `Build.elementwise_shaped`: operands that combine give a tensor of what they combine to;
* `Lower.addBias_shaped`: the same of a bias that the tensor absorbs;
* `broadcasts_agree`: the two notions, and the sum.
-/

import OperatorLowering.Proofs.Lowering.Reconcile
import OperatorLowering.Proofs.Shape.Order

namespace OperatorLowering

variable {a b : Handle} {op : Elementwise} {graph : Graph}

/-- What is left to refuse operands of two element types for if their shapes combine. -/
inductive Rejection.ShapesApart (op : Elementwise) (first second : ElementType) : Rejection → Prop
  | foreign (tensor : Handle) : ShapesApart op first second (.foreignTensor tensor)
  | types (different : first ≠ second) :
    ShapesApart op first second (.elementwiseTypes op first second)

/-! ### The combination -/

theorem Graph.elementwiseShape_error {shape : Shape} {fault : Fault}
    (combined : a.shape.broadcast? b.shape = some shape)
    (failed : graph.elementwiseShape a b op = .error fault) :
    ∃ reason, fault = .rejected reason ∧ reason.ShapesApart op a.dtype b.dtype := by
  unfold elementwiseShape at failed
  rcases graph.requireOwned_bind_two a b _ with ⟨_, goesOn⟩ | ⟨tensor, _, _, fails⟩
  · rw [goesOn] at failed
    by_cases types : a.dtype = b.dtype
    · rw [if_neg (not_not.mpr types), combined] at failed
      cases failed
    · rw [if_pos types] at failed
      cases failed
      exact ⟨_, rfl, .types types⟩
  · rw [fails] at failed
    cases failed
    exact ⟨_, rfl, .foreign tensor⟩

/-- **Operands whose shapes combine** give a tensor of what they combine to, or are refused for
something else. -/
theorem Build.elementwise_shaped {shape : Shape} (op : Elementwise) (graph : Graph)
    (combined : a.shape.broadcast? b.shape = some shape) :
    Ends (elementwise a b op) graph (fun out _ => out.shape = shape) (fun fault _ =>
      ∃ reason, fault = .rejected reason ∧ reason.ShapesApart op a.dtype b.dtype) := by
  cases check : graph.elementwiseShape a b op with
  | error fault =>
      exact Ends.of_error (bind_run_error (inspect_error check))
        (Graph.elementwiseShape_error combined check)
  | ok found =>
      obtain ⟨out, after, run, accepted⟩ := Request.accepts_of_checks
        (graph.elementwiseShape_checks a b op) check fun _ typed => Option.isSome_of_eq_some typed
      obtain ⟨_, shaped, _⟩ := Request.type?_elementwise.mp accepted.typed
      exact Ends.of_ok run (Option.some.inj (shaped.symm.trans combined))

/-! ### The sum with a bias -/

namespace Lower

/-- A failure for a node is no verdict on its sum, or one that leaves the shapes apart. -/
def SumShaped (a b : Handle) (node : OperatorNode) (failure : Failure) : Prop :=
  ∀ reason, failure = .ofNode node (.lowering "elementwise sum" reason) →
    ∃ rejection, reason = some (.rejected rejection) ∧
      rejection.ShapesApart .sum a.dtype b.dtype

/-- The sum itself, of operands that combine to the shape of the first. -/
theorem checked_sum_shaped (node : OperatorNode) (context : Context)
    (combined : a.shape.broadcast? b.shape = some a.shape) :
    Ends (checked node "elementwise sum" (build (Build.elementwise a b .sum))) context
      (fun out _ => out.shape = a.shape) (fun failure _ => SumShaped a b node failure) := by
  refine checked_ends node _ ((build_ends (Build.elementwise_shaped .sum _ combined)).mono ?_ ?_)
  · exact fun _ _ done => done.1
  · intro failure _ failed reason same
    obtain ⟨⟨fault, rfl, rejection, rfl, apart⟩, _⟩ := failed
    cases same
    exact ⟨rejection, rfl, apart⟩

/-- A fault of the graph while an operand is reshaped is no verdict on the sum. -/
theorem sumShaped_of_reshape {node : OperatorNode} (fault : Fault) :
    SumShaped a b node ((Failure.graph fault).onBehalf node "reshape") := by
  intro reason same
  cases fault <;> simp [Failure.onBehalf, Failure.ofNode] at same

/-- The operand of the sum: it combines as the bias does and has its type. -/
theorem checked_reconcile_shaped (name : String) (node : OperatorNode) (context : Context)
    (absorbed : a.shape.absorbs b.shape = true) :
    Ends (checked node "reshape" (reconcile a b name)) context
      (fun operand _ => a.shape.broadcast? operand.shape = some a.shape ∧ operand.dtype = b.dtype)
      (fun failure _ => SumShaped a b node failure) := by
  refine checked_ends node _ (Ends.mono (reconcile_ends name context absorbed) ?_ ?_)
  · exact fun _ _ reconciled => ⟨reconciled.combines, reconciled.dtype⟩
  · intro failure _ faulty
    obtain ⟨fault, rfl⟩ := faulty
    exact sumShaped_of_reshape fault

/-- **A bias that the tensor absorbs** is added in the shape of the tensor, or refused for something
else than its shape. -/
theorem addBias_shaped (name : String) (node : OperatorNode) (context : Context)
    (absorbed : a.shape.absorbs b.shape = true) :
    Ends (addBias a b name node) context (fun out _ => out.shape = a.shape)
      (fun failure _ => SumShaped a b node failure) := by
  unfold addBias
  refine Ends.after_ok (modify_run _ context) ?_
  rw [if_neg (by rw [absorbed]; exact Bool.noConfusion)]
  by_cases same : a.shape = b.shape
  · rw [if_pos same, pure_bind]
    exact checked_sum_shaped node _ (Shape.broadcast?_of_absorbs absorbed)
  · rw [if_neg same]
    refine Ends.bind (checked_reconcile_shaped name node _ absorbed) ?_
    intro operand after reconciled
    have summed := checked_sum_shaped node after reconciled.1
    unfold SumShaped at summed ⊢
    rwa [reconciled.2] at summed

end Lower

/-- **The two notions of broadcasting agree**, for all shapes. In both directions a shape absorbs
those that it combines with, in one direction those that it combines with to itself. So an operand
that is found to broadcast fits the sum after it, reshaped or not: the sum has the shape of the
primary tensor, and if it is refused, then for an operand of another graph or for the types. -/
theorem broadcasts_agree (primary secondary : Shape) :
    (primary.absorbs secondary true = true ↔ primary.broadcast? secondary ≠ none) ∧
    (primary.absorbs secondary = true ↔ primary.broadcast? secondary = some primary) ∧
    ∀ (a b : Handle) (name : String) (node : OperatorNode) (context : Context),
      a.shape = primary → b.shape = secondary → primary.absorbs secondary = true →
        (∀ operand after, Lower.reconcile a b name context = .ok operand after →
          primary.broadcast? operand.shape = some primary) ∧
        Ends (Lower.addBias a b name node) context (fun out _ => out.shape = primary)
          (fun failure _ => Lower.SumShaped a b node failure) := by
  refine ⟨?_, Shape.absorbs_iff_broadcast?, ?_⟩
  · rw [Shape.absorbs_bothWays, Option.isSome_iff_ne_none]
  · intro a b name node context shapeA shapeB absorbed
    subst shapeA shapeB
    refine ⟨fun operand after run => ?_, Lower.addBias_shaped name node context absorbed⟩
    exact ((Lower.reconcile_ends name context absorbed).ok run).combines

end OperatorLowering
