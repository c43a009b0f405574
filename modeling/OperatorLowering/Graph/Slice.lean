/-
**Strided slices.**

A slice has an offset, a size and a stride for each axis. A known size reads `size` indices from
`offset` on, `stride` apart, and ends right behind the last of them; on a known dimension that last
index lies inside. A symbolic size takes the whole axis, which must be that very symbol, from its
start with stride one; its end is the greatest index. A size given as a double is held against the
same bounds in floating point.

A size given as a double is no dimension to begin with. The constant of the ends cuts off what
stands behind the point; for the rest, dimensions being integers or symbols here, an accepted double
stands for its integer part in the layer and in the output.

* `Span`: what an accepted axis reads;
* `Graph.sliceSpans`: the axes are checked in order, and the first fault is the answer.
-/

import OperatorLowering.Graph.Build

namespace OperatorLowering

/-- The size that is asked for along one axis: a dimension, a double, or a value that is neither. -/
inductive SizeRequest where
  | dim (size : Dim)
  | real (size : Float)
  | foreign (value : Foreign)

/-- What is asked for along one axis of a tensor. An offset or stride that is not an integer is
absent. -/
structure SpanRequest where
  dim : Dim
  offset : Option Int
  size : SizeRequest
  stride : Option Int

/-- What an accepted slice reads along one axis: from `start` below `stop`, `step` apart. -/
structure Span where
  start : Int
  stop : Number
  step : Int
  size : Dim

namespace SpanRequest

/-- A known size on an axis: at least one, and inside a known dimension. -/
def known (axis : Nat) (dim : Dim) (offset size stride : Int) : Except Fault Span :=
  let last := offset + (size - 1) * stride
  if size < 1 then refuse (.sliceSize axis (.number (.integer size)))
  else
    match dim with
    | .size bound =>
      if bound ≤ last then refuse (.sliceBounds axis (.integer last) bound)
      else .ok ⟨offset, .integer (last + 1), stride, .size size⟩
    | .symbol _ => .ok ⟨offset, .integer (last + 1), stride, .size size⟩

/-- A symbolic size on an axis: the whole of that very dimension. -/
def whole (axis : Nat) (dim : Dim) (offset : Int) (size : String) (stride : Int) :
    Except Fault Span :=
  if dim = .symbol size ∧ offset = 0 ∧ stride = 1 then
    .ok ⟨offset, .integer indexMax, stride, .symbol size⟩
  else refuse (.sliceSymbol axis size dim)

/-- The last index that a size given as a double reaches, in floating point. -/
def measuredLast (offset : Int) (size : Float) (stride : Int) : Float :=
  Float.ofInt offset + (size - 1) * Float.ofInt stride

/-- A double that is not negative lies at or behind an integer. -/
def reaches (value : Float) (bound : Int) : Bool :=
  value.isInf || !value.isNaN && bound ≤ Number.truncate value

/-- A size given as a double: refused by the bounds of a known size, in floating point. -/
def measured (axis : Nat) (dim : Dim) (offset : Int) (size : Float) (stride : Int) :
    Except Fault Span :=
  let last := measuredLast offset size stride
  if size < 1 then refuse (.sliceSize axis (.number (.real size)))
  else if Number.doubleBound ≤ offset ∨ Number.doubleBound ≤ stride then .error .beyondDoubles
  else
    match dim.size?.filter (reaches last) with
    | some bound => refuse (.sliceBounds axis (.real last) bound)
    | none => .ok ⟨offset, .real (last + 1), stride, .size (Number.truncate size)⟩

/-- The span of a request, the `axis`-th of its slice. -/
def toSpan (request : SpanRequest) (axis : Nat) : Except Fault Span :=
  match request.offset.filter (0 ≤ ·), request.stride.filter (1 ≤ ·), request.size with
  | none, _, _ => refuse (.sliceOffset axis)
  | some _, none, _ => refuse (.sliceStride axis)
  | some offset, some stride, .dim (.symbol size) => whole axis request.dim offset size stride
  | some offset, some stride, .dim (.size size) => known axis request.dim offset size stride
  | some offset, some stride, .real size => measured axis request.dim offset size stride
  | some _, some _, .foreign (.truth false) => refuse (.sliceSize axis (.truth false))
  | some offset, some stride, .foreign (.truth true) =>
    known axis request.dim offset 1 stride
  | some _, some _, .foreign value => .error (.sizeNotComparable value)

/-- The spans of a list of requests, the first of them on axis `axis`. -/
def toSpans (axis : Nat) : List SpanRequest → Except Fault (List Span)
  | [] => .ok []
  | request :: rest => do
    let span ← request.toSpan axis
    let spans ← toSpans (axis + 1) rest
    return span :: spans

/-- The requests of a slice, axis by axis. -/
def align : Shape → List (Option Int) → List SizeRequest → List (Option Int) →
    List SpanRequest
  | dim :: shape, offset :: offsets, size :: sizes, stride :: strides =>
    ⟨dim, offset, size, stride⟩ :: align shape offsets sizes strides
  | _, _, _, _ => []

end SpanRequest

/-- The spans of a slice of a tensor of a graph. -/
def Graph.sliceSpans (graph : Graph) (a : Handle) (offsets : List (Option Int))
    (sizes : List SizeRequest) (strides : List (Option Int)) : Except Fault (List Span) := do
  graph.requireOwned a
  if offsets.length = sizes.length ∧ sizes.length = strides.length ∧
      strides.length = a.rank then
    SpanRequest.toSpans 0 (SpanRequest.align a.shape offsets sizes strides)
  else refuse (.sliceArity a.rank offsets.length sizes.length strides.length)

/-- The integer that an index constant holds for a number: a double is cut off at its point. -/
def Number.toIndex : Number → Except Fault Int
  | .integer value => if fitsIndex value then .ok value else .error .constantTooLarge
  | .real value =>
    if value.isNaN then refuse .sliceEnd
    else if value.isInf then .error .constantInfinite
    else if fitsIndex (Number.truncate value) then .ok (Number.truncate value)
    else .error .constantTooLarge

namespace Build

/-- Append a strided slice. -/
def slice (a : Handle) (offsets : List (Option Int)) (sizes : List SizeRequest)
    (strides : List (Option Int)) : Build Handle := do
  let spans ← inspect fun graph => graph.sliceSpans a offsets sizes strides
  let layer ← freshName "slice"
  let starts ← embedIndices layer "starts" (spans.map Span.start)
  let stops ← inspect fun _ => (spans.map Span.stop).mapM Number.toIndex
  let ends ← embedIndices layer "ends" stops
  let axes ← embedIndices layer "axes" ((List.range a.rank).map Int.ofNat)
  let steps ← embedIndices layer "steps" (spans.map Span.step)
  let sizes := spans.map Span.size
  append layer (.slice (spans.map Span.start) sizes (spans.map Span.step)) [a]
    [a.name, starts, ends, axes, steps] sizes a.dtype

end Build

end OperatorLowering
