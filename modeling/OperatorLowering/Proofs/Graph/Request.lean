/-
**Requests for a primitive.**

A request names a primitive and its operands. What an operand is depends on the use: the tensors of
a graph (`Request.build` asks the graph for the primitive), their types alone (`Request.type?` gives
the type of the result, if there is one), or places in a plan that are yet to be filled.

* `Request.type?`: shapes and element types decide alone what becomes of a request of owned tensors;
* `Request.Adds`: the additions that an accepted request makes;
* `Request.layers_of_adds`: exactly one of them is a layer, the one that was asked for.
-/

import OperatorLowering.Graph.Arithmetic
import OperatorLowering.Proofs.Graph.Indices
import OperatorLowering.Proofs.Graph.Steps
import OperatorLowering.Proofs.Shape.Broadcast

namespace OperatorLowering

/-- What a graph declares about a tensor. -/
structure TensorType where
  shape : Shape
  dtype : ElementType
  deriving DecidableEq

/-- The declared shape and element type of a tensor. -/
def Handle.type (tensor : Handle) : TensorType :=
  ⟨tensor.shape, tensor.dtype⟩

/-- A primitive asked for, with its operands. -/
inductive Request (Operand : Type) where
  | matmul (a b : Operand) (transposeA transposeB : Bool)
  | elementwise (a b : Operand) (op : Elementwise)
  | slice (a : Operand) (offsets : List Int) (sizes : Shape) (strides : List Int)
  | activation (a : Operand) (kind : Activation)
  | reshape (a : Operand) (shape : Shape)
  deriving DecidableEq

namespace Request

variable {Operand Other : Type}

/-- The primitive of a request. -/
def primitive : Request Operand → Primitive
  | .matmul _ _ transposeA transposeB => .matmul transposeA transposeB
  | .elementwise _ _ op => .elementwise op
  | .slice _ offsets sizes strides => .slice offsets sizes strides
  | .activation _ kind => .activation kind
  | .reshape _ shape => .reshape shape

/-- The operands of a request, in order. -/
def operands : Request Operand → List Operand
  | .matmul a b _ _ => [a, b]
  | .elementwise a b _ => [a, b]
  | .slice a _ _ _ => [a]
  | .activation a _ => [a]
  | .reshape a _ => [a]

/-- The request of other operands. -/
def map (change : Operand → Other) : Request Operand → Request Other
  | .matmul a b transposeA transposeB => .matmul (change a) (change b) transposeA transposeB
  | .elementwise a b op => .elementwise (change a) (change b) op
  | .slice a offsets sizes strides => .slice (change a) offsets sizes strides
  | .activation a kind => .activation (change a) kind
  | .reshape a shape => .reshape (change a) shape

@[simp] theorem primitive_map (change : Operand → Other) (request : Request Operand) :
    (request.map change).primitive = request.primitive := by
  cases request <;> rfl

@[simp] theorem operands_map (change : Operand → Other) (request : Request Operand) :
    (request.map change).operands = request.operands.map change := by
  cases request <;> rfl

theorem map_map {Final : Type} (change : Operand → Other) (next : Other → Final)
    (request : Request Operand) :
    (request.map change).map next = request.map fun operand => next (change operand) := by
  cases request <;> rfl

theorem map_congr {change other : Operand → Other} {request : Request Operand}
    (same : ∀ operand ∈ request.operands, change operand = other operand) :
    request.map change = request.map other := by
  cases request with
  | matmul a b transposeA transposeB =>
      rw [map, map, same a List.mem_cons_self, same b (List.mem_cons_of_mem _ List.mem_cons_self)]
  | elementwise a b op =>
      rw [map, map, same a List.mem_cons_self, same b (List.mem_cons_of_mem _ List.mem_cons_self)]
  | slice a offsets sizes strides => rw [map, map, same a List.mem_cons_self]
  | activation a kind => rw [map, map, same a List.mem_cons_self]
  | reshape a shape => rw [map, map, same a List.mem_cons_self]

/-- Ask a graph for the primitive. -/
def build : Request Handle → Build Handle
  | .matmul a b transposeA transposeB => Build.matmul a b transposeA transposeB
  | .elementwise a b op => Build.elementwise a b op
  | .slice a offsets sizes strides =>
    Build.slice a (offsets.map some) (sizes.map .dim) (strides.map some)
  | .activation a kind => Build.activation a kind
  | .reshape a shape => Build.reshape a shape

/-- The type of the result, if the backend accepts operands of these types. -/
def type? : Request TensorType → Option TensorType
  | .matmul a b transposeA transposeB => do
    let first ← MatrixShape.ofShape? a.shape
    let second ← MatrixShape.ofShape? b.shape
    if a.dtype = b.dtype then
      let product ←
        ((first.transposeIf transposeA).product (second.transposeIf transposeB)).toOption
      some ⟨product.toShape, a.dtype⟩
    else none
  | .elementwise a b _ =>
    if a.dtype = b.dtype then (a.shape.broadcast? b.shape).map fun shape => ⟨shape, a.dtype⟩
    else none
  | .slice a offsets sizes strides =>
    ((a.shape.spans? offsets sizes strides).bind Span.indices?).map fun _ => ⟨sizes, a.dtype⟩
  | .activation a _ => some a
  | .reshape a shape => (a.shape.targetIndices? shape).map fun _ => ⟨shape, a.dtype⟩

/-- An elementwise combination takes operands of one element type whose shapes broadcast. -/
theorem type?_elementwise {a b type : TensorType} {op : Elementwise} :
    (Request.elementwise a b op).type? = some type ↔
      a.dtype = b.dtype ∧ a.shape.broadcast? b.shape = some type.shape ∧
        type.dtype = a.dtype := by
  have reading : (Request.elementwise a b op).type? = if a.dtype = b.dtype then
      (a.shape.broadcast? b.shape).map fun shape => ⟨shape, a.dtype⟩ else none := rfl
  by_cases same : a.dtype = b.dtype
  · rw [reading, if_pos same, Option.map_eq_some_iff]
    constructor
    · rintro ⟨shape, combined, rfl⟩
      exact ⟨same, combined, rfl⟩
    · rintro ⟨_, combined, dtype⟩
      exact ⟨type.shape, combined, by rw [← dtype]⟩
  · rw [reading, if_neg same]
    exact iff_of_false (by simp) fun holds => same holds.1

/-- Two tensors of one type combine to that type. -/
theorem type?_elementwise_self (type : TensorType) (op : Elementwise) :
    (Request.elementwise type type op).type? = some type :=
  type?_elementwise.mpr ⟨rfl, Shape.broadcast?_self _, rfl⟩

/-- What two types combine to is left as it is by the first of them, on either side. -/
theorem type?_elementwise_again {a b type : TensorType} {op : Elementwise} (other : Elementwise)
    (typed : (Request.elementwise a b op).type? = some type) :
    (Request.elementwise a type other).type? = some type ∧
      (Request.elementwise type a other).type? = some type := by
  obtain ⟨_, combined, dtype⟩ := type?_elementwise.mp typed
  obtain ⟨before, behind⟩ := Shape.broadcast?_again combined
  exact ⟨type?_elementwise.mpr ⟨dtype.symm, before, dtype⟩,
    type?_elementwise.mpr ⟨dtype, behind, rfl⟩⟩

/-- Two stacks of matrices are multiplied if their inner dimensions are the same and their batches
broadcast. -/
theorem product_eq_ok {first second : MatrixShape} {product : ProductShape} :
    first.product second = .ok product ↔
      first.columns = second.rows ∧ ∃ joint, first.batch.broadcast? second.batch = some joint ∧
        product = ⟨first, second, joint⟩ := by
  unfold MatrixShape.product
  by_cases inner : first.columns = second.rows
  · rw [if_neg (not_not_intro inner), and_iff_right inner]
    cases batch : first.batch.broadcast? second.batch with
    | none => exact iff_of_false nofun nofun
    | some joint =>
        constructor
        · rintro ⟨⟩
          exact ⟨joint, rfl, rfl⟩
        · rintro ⟨_, ⟨⟩, rfl⟩
          rfl
  · rw [if_pos inner]
    exact iff_of_false nofun fun holds => inner holds.1

/-- **A product** takes two stacks of matrices of one element type. -/
theorem type?_matmul {a b type : TensorType} {transposeA transposeB : Bool} :
    (Request.matmul a b transposeA transposeB).type? = some type ↔
      a.dtype = b.dtype ∧ type.dtype = a.dtype ∧ ∃ first second joint,
        a.shape = MatrixShape.toShape first ∧ b.shape = MatrixShape.toShape second ∧
          (first.transposeIf transposeA).columns = (second.transposeIf transposeB).rows ∧
            (first.transposeIf transposeA).batch.broadcast? (second.transposeIf transposeB).batch =
              some joint ∧
            type.shape = joint ++ [(first.transposeIf transposeA).rows,
              (second.transposeIf transposeB).columns] := by
  have reading : (Request.matmul a b transposeA transposeB).type? = some type ↔
      ∃ first, MatrixShape.ofShape? a.shape = some first ∧
        ∃ second, MatrixShape.ofShape? b.shape = some second ∧ a.dtype = b.dtype ∧
          ∃ product, (first.transposeIf transposeA).product (second.transposeIf transposeB) =
            .ok product ∧ (⟨product.toShape, a.dtype⟩ : TensorType) = type := by
    simp only [type?, Option.bind_eq_bind, Option.bind_eq_some_iff]
    refine exists_congr fun first => and_congr_right fun _ => exists_congr fun second =>
      and_congr_right fun _ => ?_
    by_cases same : a.dtype = b.dtype
    · rw [if_pos same, and_iff_right same, Option.bind_eq_some_iff]
      refine exists_congr fun product => and_congr ?_ ⟨Option.some.inj, congrArg some⟩
      cases (first.transposeIf transposeA).product (second.transposeIf transposeB) with
      | ok found => exact ⟨fun | rfl => rfl, fun | rfl => rfl⟩
      | error fault => exact iff_of_false nofun nofun
    · rw [if_neg same]
      exact iff_of_false nofun fun holds => same holds.1
  rw [reading]
  simp only [MatrixShape.ofShape?_eq_some, product_eq_ok]
  constructor
  · rintro ⟨first, firstShape, second, secondShape, same, _, ⟨inner, joint, batches, rfl⟩, rfl⟩
    exact ⟨same, rfl, first, second, joint, firstShape, secondShape, inner, batches, rfl⟩
  · rintro ⟨same, dtype, first, second, joint, firstShape, secondShape, inner, batches, shape⟩
    refine ⟨first, firstShape, second, secondShape, same, _, ⟨inner, joint, batches, rfl⟩, ?_⟩
    rw [ProductShape.toShape, ← shape, ← dtype]

/-- An index constant of a request would hold an integer beyond 64 bits, and nothing else speaks
against a result. -/
inductive Oversized : Request TensorType → Prop
  | slice {a : TensorType} {offsets : List Int} {sizes : Shape} {strides : List Int}
      {spans : List Span} (accepted : a.shape.spans? offsets sizes strides = some spans)
      (unfit : Span.indices? spans = none) : Oversized (.slice a offsets sizes strides)
  | reshape {a : TensorType} {shape : Shape} {target : List TargetDim}
      (accepted : a.shape.reshapeTarget shape = .ok target)
      (unfit : (target.map TargetDim.code).all fitsIndex = false) : Oversized (.reshape a shape)

namespace Oversized

variable {request : Request TensorType}

theorem untyped (oversized : request.Oversized) : request.type? = none := by
  cases oversized with
  | slice accepted unfit =>
      simp only [type?, accepted, Option.bind_some, unfit, Option.map_none]
  | reshape accepted unfit =>
      simp only [type?, Shape.targetIndices?, accepted, Except.toOption, Option.bind_eq_bind,
        Option.bind_some, unfit, Bool.false_eq_true, if_false, Option.map_none]

/-- Only slices and reshapes read index constants. -/
theorem indexed (oversized : request.Oversized) :
    request.primitive.kind = .slice ∨ request.primitive.kind = .reshape := by
  cases oversized with
  | slice => exact Or.inl rfl
  | reshape => exact Or.inr rfl

end Oversized

/-! ### Additions -/

/-- The node and the layer that end every request. -/
def ending (layer : String) (primitive : Primitive) (operands : List Handle) (reads : List String)
    (output : Handle) : List Addition :=
  [.node ⟨primitive.op, layer, reads, output.name⟩ output.shape output.dtype,
    .layer ⟨primitive, layer, operands.map Handle.name, output.name⟩]

/-- **The additions of an accepted request** that gives `output`. -/
inductive Adds : Request Handle → Handle → List Addition → Prop
  | matmul (a b output : Handle) (transposeA transposeB : Bool) (first second : MatrixShape)
      (layer firstName secondName : String)
      (firstShape : MatrixShape.ofShape? a.shape = some first)
      (secondShape : MatrixShape.ofShape? b.shape = some second)
      (firstRead : transposeA = false → firstName = a.name)
      (secondRead : transposeB = false → secondName = b.name) :
      Adds (.matmul a b transposeA transposeB) output
        (Build.factorAdditions transposeA a (first.transposeIf transposeA) layer "a" firstName ++
          Build.factorAdditions transposeB b (second.transposeIf transposeB) layer "b" secondName ++
          ending layer (.matmul transposeA transposeB) [a, b] [firstName, secondName] output)
  | elementwise (a b output : Handle) (op : Elementwise) (layer : String) :
      Adds (.elementwise a b op) output
        (ending layer (.elementwise op) [a, b] [a.name, b.name] output)
  | slice (a output : Handle) (offsets : List Int) (sizes : Shape) (strides : List Int)
      (spans : List Span) (indices : SliceIndices) (layer starts ends axes steps : String)
      (accepted : a.shape.spans? offsets sizes strides = some spans)
      (fit : Span.indices? spans = some indices) :
      Adds (.slice a offsets sizes strides) output
        ([.constant ⟨starts, .indices indices.starts⟩, .constant ⟨ends, .indices indices.ends⟩,
            .constant ⟨axes, .indices indices.axes⟩, .constant ⟨steps, .indices indices.steps⟩] ++
          ending layer (.slice offsets sizes strides) [a] [a.name, starts, ends, axes, steps] output)
  | activation (a output : Handle) (kind : Activation) (layer : String) :
      Adds (.activation a kind) output (ending layer (.activation kind) [a] [a.name] output)
  | reshape (a output : Handle) (shape : Shape) (target : List Int) (layer name : String)
      (accepted : a.shape.targetIndices? shape = some target) :
      Adds (.reshape a shape) output
        (.constant ⟨name, .indices target⟩ ::
          ending layer (.reshape shape) [a] [a.name, name] output)

theorem layers_factorAdditions (swap : Bool) (tensor : Handle) (matrix : MatrixShape)
    (layer operand name : String) :
    (Build.factorAdditions swap tensor matrix layer operand name).filterMap Addition.layer? = [] := by
  cases swap <;> rfl

theorem layers_ending (layer : String) (primitive : Primitive) (operands : List Handle)
    (reads : List String) (output : Handle) :
    (ending layer primitive operands reads output).filterMap Addition.layer? =
      [⟨primitive, layer, operands.map Handle.name, output.name⟩] :=
  rfl

/-- **An accepted request adds one layer**, which computes what was asked of the tensors it was
asked of. -/
theorem layers_of_adds {request : Request Handle} {output : Handle} {additions : List Addition}
    (adds : request.Adds output additions) :
    ∃ name, additions.filterMap Addition.layer? =
      [⟨request.primitive, name, request.operands.map Handle.name, output.name⟩] := by
  cases adds with
  | matmul a b _ transposeA transposeB first second layer =>
      refine ⟨layer, ?_⟩
      rw [List.filterMap_append, List.filterMap_append, layers_factorAdditions,
        layers_factorAdditions, layers_ending]
      rfl
  | elementwise a b _ op layer => exact ⟨layer, rfl⟩
  | slice a _ offsets sizes strides spans indices layer => exact ⟨layer, rfl⟩
  | activation a _ kind layer => exact ⟨layer, rfl⟩
  | reshape a _ shape target layer => exact ⟨layer, rfl⟩

theorem mem_ending (layer : String) (primitive : Primitive) (operands : List Handle)
    (reads : List String) (output : Handle) :
    ∃ addition ∈ ending layer primitive operands reads output,
      addition.tensor? = some output :=
  ⟨_, List.mem_cons_self, rfl⟩

/-- The output of a request is the tensor of one of its additions. -/
theorem output_of_adds {request : Request Handle} {output : Handle} {additions : List Addition}
    (adds : request.Adds output additions) :
    ∃ addition ∈ additions, addition.tensor? = some output := by
  cases adds with
  | matmul a b _ transposeA transposeB first second layer firstName secondName =>
      obtain ⟨addition, member, entered⟩ := mem_ending layer (.matmul transposeA transposeB)
        [a, b] [firstName, secondName] output
      exact ⟨addition, List.mem_append_right _ member, entered⟩
  | elementwise a b _ op layer => exact mem_ending _ _ _ _ _
  | slice a _ offsets sizes strides spans indices layer starts ends axes steps =>
      obtain ⟨addition, member, entered⟩ := mem_ending layer (.slice offsets sizes strides)
        [a] [a.name, starts, ends, axes, steps] output
      exact ⟨addition, List.mem_append_right _ member, entered⟩
  | activation a _ kind layer => exact mem_ending _ _ _ _ _
  | reshape a _ shape target layer name =>
      obtain ⟨addition, member, entered⟩ := mem_ending layer (.reshape shape) [a] [a.name, name]
        output
      exact ⟨addition, List.mem_cons_of_mem _ member, entered⟩

end Request

end OperatorLowering
