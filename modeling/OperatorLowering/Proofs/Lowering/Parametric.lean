/-
**Lowerings hand tensors on.**

A lowering decides by the types of tensors. The tensors themselves it hands on, to requests and to
bindings. So whatever relates requests and bindings of twins, which are tensors of one type, relates
whole lowerings of twins.

* `StepRelation`: a relation of steps, with a clause for each thing that lowerings are made of;
* `StepRelation.addBias`: biases that are added to twins.
-/

import OperatorLowering.Lowering.Operands
import OperatorLowering.Lowering.LstmCell
import OperatorLowering.Proofs.Graph.Lockstep

namespace OperatorLowering

namespace Twins

variable {Value : Type} {twins more : Twins} {tensor tensor' : Handle}

/-- Twins are of one type. -/
structure Like (twins : Twins) (tensor tensor' : Handle) : Prop where
  member : (tensor, tensor') ∈ twins
  type : tensor.type = tensor'.type

theorem Like.mono (like : twins.Like tensor tensor') (subset : twins ⊆ more) :
    more.Like tensor tensor' :=
  ⟨subset like.member, like.type⟩

theorem Like.shape (like : twins.Like tensor tensor') : tensor.shape = tensor'.shape :=
  congrArg TensorType.shape like.type

theorem Like.rank (like : twins.Like tensor tensor') : tensor.rank = tensor'.rank :=
  congrArg List.length like.shape

theorem option_mono {bias bias' : Option Handle} (like : Option.Rel twins.Like bias bias')
    (subset : twins ⊆ more) : Option.Rel more.Like bias bias' := by
  cases like with
  | none => exact .none
  | some like => exact .some (like.mono subset)

/-- Every value belongs to another one once there are enough twins. -/
def Total (values : Twins → Value → Value → Prop) : Prop :=
  ∀ twins value, ∃ more value', twins ⊆ more ∧ values more value value'

theorem total_like : Total Like :=
  fun twins tensor => ⟨(tensor, tensor) :: twins, tensor, List.subset_cons_self _ _,
    List.mem_cons_self, rfl⟩

/-- Tensors as twins of themselves. -/
def diagonal (tensors : List Handle) : Twins :=
  tensors.map fun tensor => (tensor, tensor)

theorem like_diagonal {tensors : List Handle} (member : tensor ∈ tensors) :
    (diagonal tensors ++ twins).Like tensor tensor :=
  ⟨List.mem_append_left _ (List.mem_map_of_mem member), rfl⟩

theorem total_forall₂ :
    Total fun twins tensors tensors' => List.Forall₂ twins.Like tensors tensors' :=
  fun twins tensors => ⟨diagonal tensors ++ twins, tensors, List.subset_append_right _ _,
    List.forall₂_same.mpr fun _ member => like_diagonal member⟩

theorem total_eq : Total fun _ (value value' : Value) => value = value' :=
  fun twins value => ⟨twins, value, List.Subset.refl twins, rfl⟩

theorem total_true : Total fun _ (_ _ : Value) => True :=
  fun twins value => ⟨twins, value, List.Subset.refl twins, trivial⟩

end Twins

/-- **A relation of steps**, given some twins, with what the values of related steps have to do with
each other. Products may ask for more of their factors than that they are twins. -/
structure StepRelation where
  Relates : {Value : Type} → Twins → Lower Value → Lower Value →
    (Twins → Value → Value → Prop) → Prop
  Factors : Handle → Handle → Prop
  pure : ∀ {Value : Type} {twins : Twins} {values : Twins → Value → Value → Prop}
    {value value' : Value}, values twins value value' →
      Relates twins (Pure.pure value) (Pure.pure value') values
  throw : ∀ {Value : Type} {twins : Twins} {values : Twins → Value → Value → Prop}
    (failure : Failure),
      Relates twins (MonadExcept.throw failure) (MonadExcept.throw failure) values
  bind : ∀ {Value Next : Type} {twins : Twins} {values : Twins → Value → Value → Prop}
    {final : Twins → Next → Next → Prop} {step step' : Lower Value}
    {next next' : Value → Lower Next},
      Relates twins step step' values → Twins.Total values →
        (∀ more value value', twins ⊆ more → values more value value' →
          Relates more (next value) (next' value') final) →
        Relates twins (step >>= next) (step' >>= next') final
  checked : ∀ {Value : Type} {twins : Twins} {values : Twins → Value → Value → Prop}
    {step step' : Lower Value} (node : OperatorNode) (primitive : String),
      Relates twins step step' values →
        Relates twins (Lower.checked node primitive step) (Lower.checked node primitive step')
          values
  event : ∀ {twins : Twins} (event event' : TraceEvent),
    Relates twins (Lower.traceEvent event) (Lower.traceEvent event') fun _ _ _ => True
  associate : ∀ {twins : Twins} (value : String) {tensor tensor' : Handle},
    twins.Like tensor tensor' →
      Relates twins (Lower.associate value tensor) (Lower.associate value tensor') Twins.Like
  matmul : ∀ {twins : Twins} {a a' b b' : Handle} (transposeA transposeB : Bool),
    twins.Like a a' → twins.Like b b' → Factors a a' → Factors b b' →
      Relates twins (Lower.build (Build.matmul a b transposeA transposeB))
        (Lower.build (Build.matmul a' b' transposeA transposeB)) Twins.Like
  elementwise : ∀ {twins : Twins} {a a' b b' : Handle} (op : Elementwise),
    twins.Like a a' → twins.Like b b' →
      Relates twins (Lower.build (Build.elementwise a b op))
        (Lower.build (Build.elementwise a' b' op)) Twins.Like
  slice : ∀ {twins : Twins} {a a' : Handle} (offsets : List (Option Int))
    (sizes : List SizeRequest) (strides : List (Option Int)), twins.Like a a' →
      Relates twins (Lower.build (Build.slice a offsets sizes strides))
        (Lower.build (Build.slice a' offsets sizes strides)) Twins.Like
  activation : ∀ {twins : Twins} {a a' : Handle} (kind : Activation), twins.Like a a' →
    Relates twins (Lower.build (Build.activation a kind)) (Lower.build (Build.activation a' kind))
      Twins.Like
  reshape : ∀ {twins : Twins} {a a' : Handle} (shape : Shape), twins.Like a a' →
    Relates twins (Lower.build (Build.reshape a shape)) (Lower.build (Build.reshape a' shape))
      Twins.Like

namespace StepRelation

variable (relation : StepRelation) {twins : Twins}

/-! ### Biases -/

theorem reconcile {primary primary' secondary secondary' : Handle}
    (likePrimary : twins.Like primary primary') (likeSecondary : twins.Like secondary secondary')
    (name : String) :
    relation.Relates twins (Lower.reconcile primary secondary name)
      (Lower.reconcile primary' secondary' name) Twins.Like := by
  unfold Lower.reconcile
  rw [← likePrimary.shape, ← likeSecondary.shape, ← likePrimary.rank, ← likeSecondary.rank]
  split
  · exact relation.pure likeSecondary
  · split
    · exact relation.throw _
    · split
      · exact relation.pure likeSecondary
      · refine relation.bind (relation.event _ _) Twins.total_true ?_
        intro more _ _ subset _
        exact relation.reshape _ (likeSecondary.mono subset)

/-- An elementwise combination on behalf of a node. -/
theorem combine {a a' b b' : Handle} (likeA : twins.Like a a') (likeB : twins.Like b b')
    (node : OperatorNode) (primitive : String) (op : Elementwise) :
    relation.Relates twins
      (Lower.checked node primitive (Lower.build (Build.elementwise a b op)))
      (Lower.checked node primitive (Lower.build (Build.elementwise a' b' op))) Twins.Like :=
  relation.checked node primitive (relation.elementwise op likeA likeB)

/-- **A bias** that is added to a tensor. -/
theorem addBias {a a' b b' : Handle} (likeA : twins.Like a a') (likeB : twins.Like b b')
    (name : String) (node : OperatorNode) :
    relation.Relates twins (Lower.addBias a b name node) (Lower.addBias a' b' name node)
      Twins.Like := by
  unfold Lower.addBias
  rw [← likeA.shape, ← likeB.shape]
  refine relation.bind (relation.event _ _) Twins.total_true ?_
  intro more _ _ subset _
  replace likeA := likeA.mono subset
  replace likeB := likeB.mono subset
  split
  · exact relation.throw _
  · split
    · exact relation.combine likeA likeB node _ .sum
    · refine relation.bind (relation.checked node "reshape"
        (relation.reconcile likeA likeB name)) Twins.total_like ?_
      intro further padded padded' later likePadded
      exact relation.combine (likeA.mono later) likePadded node _ .sum

/-! ### Cells -/

theorem outputAt (node : OperatorNode) (position : Nat) :
    relation.Relates twins (Lower.outputAt node position) (Lower.outputAt node position)
      fun _ value value' => value = value' := by
  unfold Lower.outputAt
  cases node.outputs[position]? with
  | some value => exact relation.pure rfl
  | none => exact relation.throw _

theorem gateWidth {gates gates' : Handle} (like : twins.Like gates gates') (node : OperatorNode) :
    relation.Relates twins (Lower.gateWidth gates node) (Lower.gateWidth gates' node)
      fun _ width width' => width = width' := by
  unfold Lower.gateWidth
  rw [← like.shape]
  split
  · split
    · exact relation.pure rfl
    · exact relation.throw _
  · exact relation.throw _
  · exact relation.throw _

theorem gate {gates gates' : Handle} (like : twins.Like gates gates') (node : OperatorNode)
    (width : Int) (index : Nat) (kind : Activation) :
    relation.Relates twins (Lower.gate node gates width index kind)
      (Lower.gate node gates' width index kind) Twins.Like := by
  unfold Lower.gate
  rw [← like.shape, ← like.rank]
  refine relation.bind (relation.checked node "slice" (relation.slice _ _ _ like))
    Twins.total_like ?_
  intro more chunk chunk' subset likeChunk
  exact relation.checked node _ (relation.activation kind likeChunk)

end StepRelation

/-- Four gates are twins of four gates. -/
structure TwinGates (twins : Twins) (gates gates' : GateTensors) : Prop where
  input : twins.Like gates.input gates'.input
  forget : twins.Like gates.forget gates'.forget
  cell : twins.Like gates.cell gates'.cell
  output : twins.Like gates.output gates'.output

theorem TwinGates.mono {twins more : Twins} {gates gates' : GateTensors}
    (are : TwinGates twins gates gates') (subset : twins ⊆ more) : TwinGates more gates gates' :=
  ⟨are.input.mono subset, are.forget.mono subset, are.cell.mono subset, are.output.mono subset⟩

theorem TwinGates.total : Twins.Total TwinGates := fun twins gates =>
  ⟨Twins.diagonal [gates.input, gates.forget, gates.cell, gates.output] ++ twins, gates,
    List.subset_append_right _ _,
    { input := Twins.like_diagonal (by simp)
      forget := Twins.like_diagonal (by simp)
      cell := Twins.like_diagonal (by simp)
      output := Twins.like_diagonal (by simp) }⟩

/-- Operands of one step are twins of operands. -/
structure TwinOperands (relation : StepRelation) (twins : Twins)
    (operands operands' : CellOperands) : Prop where
  input : twins.Like operands.input operands'.input
  hidden : twins.Like operands.state.hidden operands'.state.hidden
  cell : twins.Like operands.state.cell operands'.state.cell
  inputWeights : twins.Like operands.inputWeights operands'.inputWeights
  hiddenWeights : twins.Like operands.hiddenWeights operands'.hiddenWeights
  inputBias : Option.Rel twins.Like operands.inputBias operands'.inputBias
  hiddenBias : Option.Rel twins.Like operands.hiddenBias operands'.hiddenBias
  fromInput : relation.Factors operands.input operands'.input ∧
    relation.Factors operands.inputWeights operands'.inputWeights
  fromHidden : relation.Factors operands.state.hidden operands'.state.hidden ∧
    relation.Factors operands.hiddenWeights operands'.hiddenWeights

theorem TwinOperands.mono {relation : StepRelation} {twins more : Twins}
    {operands operands' : CellOperands} (are : TwinOperands relation twins operands operands')
    (subset : twins ⊆ more) : TwinOperands relation more operands operands' where
  input := are.input.mono subset
  hidden := are.hidden.mono subset
  cell := are.cell.mono subset
  inputWeights := are.inputWeights.mono subset
  hiddenWeights := are.hiddenWeights.mono subset
  inputBias := Twins.option_mono are.inputBias subset
  hiddenBias := Twins.option_mono are.hiddenBias subset
  fromInput := are.fromInput
  fromHidden := are.fromHidden

/-- Outputs of a step are twins of outputs. -/
structure TwinOutputs (twins : Twins) (outputs outputs' : CellOutputs) : Prop where
  hidden : twins.Like outputs.hidden outputs'.hidden
  cell : twins.Like outputs.cell outputs'.cell

namespace StepRelation

variable (relation : StepRelation) {twins : Twins}

theorem splitGates {gates gates' : Handle} (like : twins.Like gates gates') (node : OperatorNode) :
    relation.Relates twins (Lower.splitGates node gates) (Lower.splitGates node gates')
      TwinGates := by
  unfold Lower.splitGates
  refine relation.bind (relation.gateWidth like node) Twins.total_eq ?_
  rintro one width _ subset rfl
  replace like := like.mono subset
  refine relation.bind (relation.gate like node width 0 .sigmoid) Twins.total_like ?_
  intro two input input' subset likeInput
  replace like := like.mono subset
  refine relation.bind (relation.gate like node width 1 .sigmoid) Twins.total_like ?_
  intro three forget forget' subset likeForget
  replace like := like.mono subset
  replace likeInput := likeInput.mono subset
  refine relation.bind (relation.gate like node width 2 .tanh) Twins.total_like ?_
  intro four cell cell' subset likeCell
  replace like := like.mono subset
  replace likeInput := likeInput.mono subset
  replace likeForget := likeForget.mono subset
  refine relation.bind (relation.gate like node width 3 .sigmoid) Twins.total_like ?_
  intro five output output' subset likeOutput
  exact relation.pure ⟨likeInput.mono subset, likeForget.mono subset, likeCell.mono subset,
    likeOutput⟩

/-- Half of the pre-activations. -/
theorem weighted {operand operand' weights weights' : Handle} {bias bias' : Option Handle}
    (likeOperand : twins.Like operand operand') (likeWeights : twins.Like weights weights')
    (factors : relation.Factors operand operand' ∧ relation.Factors weights weights')
    (likeBias : Option.Rel twins.Like bias bias') (node : OperatorNode) (name : String) :
    relation.Relates twins (Lower.weighted node operand weights bias name)
      (Lower.weighted node operand' weights' bias' name) Twins.Like := by
  unfold Lower.weighted
  refine relation.bind (relation.checked node "matrix multiplication"
    (relation.matmul false true likeOperand likeWeights factors.1 factors.2)) Twins.total_like ?_
  intro more gates gates' subset likeGates
  cases likeBias with
  | none => exact relation.pure likeGates
  | some like => exact relation.addBias likeGates (like.mono subset) name node

/-- **One step of a cell**, of twins of its operands. -/
theorem lstmCell {operands operands' : CellOperands}
    (are : TwinOperands relation twins operands operands') (node : OperatorNode) :
    relation.Relates twins (Lower.lstmCell node operands) (Lower.lstmCell node operands')
      TwinOutputs := by
  unfold Lower.lstmCell
  refine relation.bind (relation.weighted are.input are.inputWeights are.fromInput are.inputBias
    node "b_ih") Twins.total_like ?_
  intro one fromInput fromInput' subsetOne likeInput
  replace are := are.mono subsetOne
  refine relation.bind (relation.weighted are.hidden are.hiddenWeights are.fromHidden are.hiddenBias
    node "b_hh") Twins.total_like ?_
  intro two fromHidden fromHidden' subsetTwo likeHidden
  refine relation.bind (relation.combine (likeInput.mono subsetTwo) likeHidden node _ .sum)
    Twins.total_like ?_
  intro three all all' subsetThree likeAll
  refine relation.bind (relation.splitGates likeAll node) TwinGates.total ?_
  intro four gates gates' subsetFour areGates
  have likeState := ((are.cell.mono subsetTwo).mono subsetThree).mono subsetFour
  refine relation.bind (relation.combine areGates.forget likeState node _ .product)
    Twins.total_like ?_
  intro five kept kept' subset likeKept
  replace areGates := areGates.mono subset
  refine relation.bind (relation.combine areGates.input areGates.cell node _ .product)
    Twins.total_like ?_
  intro six entered entered' subset likeEntered
  replace areGates := areGates.mono subset
  refine relation.bind (relation.combine (likeKept.mono subset) likeEntered node _ .product)
    Twins.total_like ?_
  intro seven updated updated' subset likeUpdated
  replace areGates := areGates.mono subset
  refine relation.bind (relation.outputAt node 1) Twins.total_eq ?_
  rintro eight cellName _ subset rfl
  replace areGates := areGates.mono subset
  refine relation.bind (relation.associate cellName (likeUpdated.mono subset))
    Twins.total_like ?_
  intro nine cell cell' subset likeCell
  replace areGates := areGates.mono subset
  refine relation.bind (relation.checked node "tanh activation"
    (relation.activation .tanh likeCell)) Twins.total_like ?_
  intro ten squashed squashed' subset likeSquashed
  replace areGates := areGates.mono subset
  replace likeCell := likeCell.mono subset
  refine relation.bind (relation.combine areGates.output likeSquashed node _ .product)
    Twins.total_like ?_
  intro eleven exposed exposed' subset likeExposed
  replace likeCell := likeCell.mono subset
  refine relation.bind (relation.outputAt node 0) Twins.total_eq ?_
  rintro twelve hiddenName _ subset rfl
  replace likeCell := likeCell.mono subset
  refine relation.bind (relation.associate hiddenName (likeExposed.mono subset))
    Twins.total_like ?_
  intro last hidden hidden' subset likeHidden
  exact relation.pure ⟨likeHidden, likeCell.mono subset⟩

end StepRelation

end OperatorLowering
