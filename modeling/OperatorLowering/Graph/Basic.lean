/-
**Primitive graphs.**

A graph is a record of what was appended to it: backend nodes in execution order, constants,
declared inputs, and a log with one layer per accepted primitive. The tensor table holds the handle
of every name that an input, a constant or a node defines. One counter numbers the generated names.

A layer may take several nodes: a product of a transposed operand has a node for the transposition
before its own. The last node of a layer bears the layer's name and defines its output.
-/

import OperatorLowering.NameTable
import OperatorLowering.Tensor.Basic
import OperatorLowering.Tensor.Literal

namespace OperatorLowering

/-- Elementwise combinations of two tensors. -/
inductive Elementwise where
  | sum
  | product
  deriving DecidableEq

namespace Elementwise

/-- The name of a combination in messages and layer attributes. -/
def label : Elementwise → String
  | .sum => "SUM"
  | .product => "PRODUCT"

/-- The stem of the names of its layers. -/
def stem : Elementwise → String
  | .sum => "sum"
  | .product => "product"

end Elementwise

/-- Pointwise activations. -/
inductive Activation where
  | sigmoid
  | tanh
  deriving DecidableEq

namespace Activation

/-- The name of an activation in layer attributes. -/
def label : Activation → String
  | .sigmoid => "SIGMOID"
  | .tanh => "TANH"

/-- The stem of the names of its layers. -/
def stem : Activation → String
  | .sigmoid => "sigmoid"
  | .tanh => "tanh"

end Activation

/-- The kinds of layers. -/
inductive LayerKind where
  | matmul | elementwise | slice | activation | reshape
  deriving DecidableEq

/-- The written form of a kind of layer. -/
def LayerKind.text : LayerKind → String
  | .matmul => "matmul"
  | .elementwise => "elementwise"
  | .slice => "slice"
  | .activation => "activation"
  | .reshape => "reshape"

/-- What a layer computes, with its attributes. -/
inductive Primitive where
  /-- Product of two stacks of matrices, each transposed first if its flag is set. -/
  | matmul (transposeFirst transposeSecond : Bool)
  /-- Elementwise combination of two tensors that broadcast. -/
  | elementwise (op : Elementwise)
  /-- Along each axis `size` elements from `offset` on, `stride` apart. -/
  | slice (offsets : List Int) (sizes : Shape) (strides : List Int)
  /-- The activation of each element. -/
  | activation (kind : Activation)
  /-- The same elements in row-major order under another shape. -/
  | reshape (shape : Shape)
  deriving DecidableEq

/-- The kind of a primitive. -/
def Primitive.kind : Primitive → LayerKind
  | .matmul .. => .matmul
  | .elementwise .. => .elementwise
  | .slice .. => .slice
  | .activation .. => .activation
  | .reshape .. => .reshape

/-- One accepted primitive: what it computes, its name, and the tensors it reads and defines. -/
structure Layer where
  primitive : Primitive
  name : String
  inputs : List String
  output : String
  deriving DecidableEq

/-- The backend's operators. -/
inductive NodeOp where
  | matMul
  | add
  | mul
  | slice
  | reshape
  | sigmoid
  | tanh
  /-- Axis `i` of the result is axis `perm[i]` of the operand. -/
  | transpose (perm : List Nat)
  deriving DecidableEq

/-- The operator's name in exported models. -/
def NodeOp.text : NodeOp → String
  | .matMul => "MatMul"
  | .add => "Add"
  | .mul => "Mul"
  | .slice => "Slice"
  | .reshape => "Reshape"
  | .sigmoid => "Sigmoid"
  | .tanh => "Tanh"
  | .transpose _ => "Transpose"

/-- The operator of a layer's last node. -/
def Primitive.op : Primitive → NodeOp
  | .matmul .. => .matMul
  | .elementwise .sum => .add
  | .elementwise .product => .mul
  | .slice .. => .slice
  | .activation .sigmoid => .sigmoid
  | .activation .tanh => .tanh
  | .reshape .. => .reshape

/-- One backend node; every operator in use defines a single tensor. -/
structure Node where
  op : NodeOp
  name : String
  inputs : List String
  output : String
  deriving DecidableEq

/-- The value of a constant: a list of integers that steers a slice or a reshape, or the contents of
a frozen literal. -/
inductive ConstantValue where
  | indices (values : List Int)
  | elements (dtype : ElementType) (dims : List Nat) (bytes : List UInt8)
  deriving DecidableEq

namespace ConstantValue

/-- The element type of a constant. -/
def dtype : ConstantValue → ElementType
  | .indices _ => .int64
  | .elements dtype _ _ => dtype

/-- The dimensions of a constant. -/
def dims : ConstantValue → List Nat
  | .indices values => [values.length]
  | .elements _ dims _ => dims

/-- The dimensions of a constant as a shape. -/
def shape (value : ConstantValue) : Shape :=
  value.dims.map fun size => .size (Int.ofNat size)

/-- What a graph embeds of a literal. -/
def ofLiteral (value : Literal) : ConstantValue :=
  .elements value.dtype value.dims value.contents

end ConstantValue

/-- A constant under its tensor name. -/
structure Constant where
  name : String
  value : ConstantValue
  deriving DecidableEq

/-- A primitive graph. -/
structure Graph where
  nodes : List Node
  constants : List Constant
  inputs : List Handle
  layers : List Layer
  tensors : NameTable Handle
  counter : Nat

namespace Graph

/-- The graph to which nothing has been appended. -/
def empty : Graph := ⟨[], [], [], [], .empty, 0⟩

/-- The layers of one kind, in order. -/
def layersOf (graph : Graph) (kind : LayerKind) : List Layer :=
  graph.layers.filter fun layer => layer.primitive.kind = kind

/-- The number of layers of one kind. -/
def count (graph : Graph) (kind : LayerKind) : Nat :=
  graph.layers.countP fun layer => layer.primitive.kind = kind

/-- The graph holds a tensor of this name, shape and element type. -/
def owns (graph : Graph) (tensor : Handle) : Bool :=
  graph.tensors.get? tensor.name = some tensor

end Graph

end OperatorLowering
