/-
**Constant tensors.**

A literal is a view of stored elements: each axis has a size and the number of stored elements that
one step along it skips. Permuting exchanges axes and broadcasting gives an axis the step zero, both
without touching the storage. The contents of a literal are the elements of the view in row-major
order; storage that ends early reads as zero.

Not every tensor is such a view. What is sparse has no steps, what is negated or answers for itself
is not what its storage says, and some tensors have dimensions and no storage. Such a literal has an
obstacle, and its elements are never read.

* `Literal.contents`: what is embedded in a graph;
* `Literal.permute`, `Literal.expand`: views of a view;
* `Literal.obstacle`: what keeps the elements from being read.
-/

import OperatorLowering.Tensor.Basic

namespace OperatorLowering

/-- One axis of a view: its size, and how many stored elements one step along it skips. -/
structure Axis where
  size : Nat
  step : Nat

namespace Axis

/-- The axes of a contiguous row-major tensor of the given dimensions. -/
def rowMajor : List Nat → List Axis
  | [] => []
  | size :: rest => ⟨size, rest.foldl (· * ·) 1⟩ :: rowMajor rest

/-- The stored positions that a view reads, in row-major order of the view. -/
def positions : List Axis → List Nat
  | [] => [0]
  | axis :: rest =>
    (List.range axis.size).flatMap fun index => (positions rest).map (index * axis.step + ·)

/-- An axis stretched to a size, if one is given, by repeating its only element. -/
def stretch (axis : Axis) (size : Option Nat) : Axis :=
  match size with
  | none => axis
  | some size => if axis.size = size then axis else ⟨size, 0⟩

end Axis

/-- What keeps the elements of a tensor from being read as an array. -/
inductive Obstacle where
  /-- A layout, such as `Sparse`, in which no fixed step leads from one element to the next. -/
  | layout (name : String)
  /-- The storage holds the elements with their signs turned. -/
  | negated
  /-- There is no storage: the tensor has a type and dimensions alone. -/
  | contentless
  /-- The tensor answers for its elements by code of its own. -/
  | dispatched
  deriving DecidableEq

/-- What is said of a tensor whose elements cannot be read. -/
def Obstacle.message : Obstacle → String
  | .layout name =>
    s!"can't convert {name} layout tensor to numpy. Use Tensor.to_dense() first."
  | .negated =>
    "Can't call numpy() on Tensor that has negative bit set. " ++
      "Use tensor.resolve_neg().numpy() instead."
  | .contentless => "Cannot copy out of meta tensor; no data!"
  | .dispatched => ".numpy() is not supported for tensor subclasses."

/-- A constant tensor: a view of stored bytes, least significant byte of an element first, if
nothing stands in the way of reading it. -/
structure Literal where
  dtype : ElementType
  axes : List Axis
  storage : ByteArray
  obstacle : Option Obstacle := none

namespace Literal

/-- A contiguous literal. -/
def ofRowMajor (dtype : ElementType) (dims : List Nat) (storage : ByteArray) : Literal :=
  { dtype, axes := Axis.rowMajor dims, storage }

/-- The dimensions of the view. -/
def dims (value : Literal) : List Nat :=
  value.axes.map Axis.size

/-- The view whose axis `i` is axis `order[i]` of the given one. -/
def permute (value : Literal) (order : List Nat) : Literal :=
  { value with axes := order.filterMap (value.axes[·]?) }

/-- The view broadcast to the given dimensions; an axis that is given none keeps its own. -/
def expand (value : Literal) (dims : List (Option Nat)) : Literal :=
  let leading := List.replicate (dims.length - value.axes.length) (⟨1, 0⟩ : Axis)
  { value with axes := (leading ++ value.axes).zipWith Axis.stretch dims }

/-- The bytes of as many elements as the view would have if no axis had the size zero. -/
def span (value : Literal) : Nat :=
  (value.dims.filter (· ≠ 0)).foldl (· * ·) value.dtype.width

/-- The number of bytes of the contents. -/
def size (value : Literal) : Nat :=
  value.dims.foldl (· * ·) value.dtype.width

/-- The bytes of the stored element at a position. -/
def element (value : Literal) (position : Nat) : List UInt8 :=
  (List.range value.dtype.width).map fun offset =>
    (value.storage[position * value.dtype.width + offset]?).getD 0

/-- The bytes of the view's elements in row-major order. A view with an axis of size zero has none,
however long its other axes are. -/
def contents (value : Literal) : List UInt8 :=
  if value.axes.any fun axis => axis.size = 0 then []
  else (Axis.positions value.axes).flatMap value.element

end Literal

end OperatorLowering
