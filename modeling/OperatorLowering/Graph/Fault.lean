/-
**Why a graph refuses a request.**

Every refusal is a cause with the values it speaks of; the wording is in `Rejection.message` and
`Fault.message` alone. A rejection says that the backend would not accept the request. The other
faults are no verdict on the request: an index constant beyond 64 bits, an integer beyond the
doubles, a size that cannot be compared, a name that no tensor has, a literal that cannot be read or
is too long to be written down.

A message writes integers of at most `Rejection.digitLimit` digits. Dimensions and sizes that a
caller gives are taken to be no longer than that, here and wherever else a shape is written: longer
ones cannot be written down to begin with. An integer that was computed from them may be, and then
the message speaks of its length.
-/

import OperatorLowering.Foreign
import OperatorLowering.Graph.Basic

namespace OperatorLowering

/-- The part of an exported model whose name must not be empty. -/
inductive NamedField where
  | graph
  | valueInfo
  deriving DecidableEq

/-- The written form of a field's owner. -/
def NamedField.text : NamedField → String
  | .graph => "graph"
  | .valueInfo => "value_info"

/-- Why the backend would not accept a request. -/
inductive Rejection where
  | unsupportedType (dtype : ElementType)
  | nameTaken (name : String)
  | foreignTensor (tensor : Handle)
  | matmulRank (first second : Handle)
  | matmulTypes (first second : ElementType)
  | matmulInner (first second : Shape)
  | matmulBatch (first second : Shape)
  | elementwiseTypes (op : Elementwise) (first second : ElementType)
  | elementwiseShapes (op : Elementwise) (first second : Shape)
  | sliceArity (rank offsets sizes strides : Nat)
  | sliceOffset (axis : Nat)
  | sliceStride (axis : Nat)
  | sliceSymbol (axis : Nat) (size : String) (dim : Dim)
  | sliceSize (axis : Nat) (size : Foreign)
  | sliceBounds (axis : Nat) (last : Number) (size : Int)
  | unsupportedActivation (kind : Foreign)
  /-- A slice ends at no number. -/
  | sliceEnd
  | reshapeVolume (shape : Shape) (volume : Int) (newShape : Shape) (newVolume : Int)
  | reshapeDim (axis : Nat)
  | reshapeUnresolved (newShape : Shape)
  | padding (shape : Shape) (rank : Int)
  | literalRank
  | literalSize
  | opset (version : Int)
  | unknownOpset
  | wordRange (value : Int)
  | emptyName (field : NamedField)
  /-- A rule of a caller's own, in the caller's words. -/
  | stated (reason : String)
  deriving DecidableEq

/-- The earliest opset in which every operator in use is stable. -/
def minimumOpset : Int := 13

/-- The most axes that a frozen literal has. -/
def maximumRank : Nat := 64

namespace Rejection

/-- What the model checker says about an empty name. -/
def checkerMessage (field : NamedField) : String :=
  s!"Field 'name' of '{field.text}' is required to be non-empty."

/-- The most decimal digits of an integer that a message writes. -/
def digitLimit : Nat := 4300

/-- The integers that a rejection was not given but computed. -/
def computed : Rejection → List Int
  | .sliceBounds _ (.integer last) _ => [last]
  | .reshapeVolume _ volume _ newVolume => [volume, newVolume]
  | _ => []

/-- What a rejection says when no computed integer is too long. -/
def wording : Rejection → String
  | .unsupportedType dtype => s!"Unsupported tensor dtype for ONNX primitives: {dtype.text}"
  | .nameTaken name => s!"Tensor name '{name}' is already defined in this graph"
  | .foreignTensor tensor => s!"Tensor {tensor.text} does not belong to this graph"
  | .matmulRank first second =>
    s!"Matrix multiplication needs operands of rank >= 2, got {first.text} and {second.text}"
  | .matmulTypes first second =>
    s!"Matrix multiplication dtype mismatch: {first.text} vs {second.text}"
  | .matmulInner first second =>
    s!"Matrix multiplication inner dimensions do not match: {first.text} x {second.text}"
  | .matmulBatch first second =>
    "Matrix multiplication batch dimensions are not broadcastable: " ++
      s!"{first.text} x {second.text}"
  | .elementwiseTypes op first second =>
    s!"Elementwise {op.label} dtype mismatch: {first.text} vs {second.text}"
  | .elementwiseShapes op first second =>
    s!"Elementwise {op.label} operands are not broadcastable: {first.text} and {second.text}"
  | .sliceArity rank offsets sizes strides =>
    s!"Slice of rank-{rank} tensor needs {rank} offsets, sizes and strides, " ++
      s!"got {offsets}, {sizes} and {strides}"
  | .sliceOffset axis => s!"Slice offset on axis {axis} must be a non-negative int"
  | .sliceStride axis => s!"Slice stride on axis {axis} must be a positive int"
  | .sliceSymbol axis size dim =>
    s!"Symbolic slice size '{size}' on axis {axis} must span the whole dimension {dim.text}"
  | .sliceSize axis size => s!"Slice size on axis {axis} must be >= 1, got {size.shown}"
  | .sliceBounds axis last size =>
    s!"Slice on axis {axis} reads index {last.text} outside dimension of size {size}"
  | .sliceEnd => "cannot convert float NaN to integer"
  | .unsupportedActivation kind => s!"Unsupported activation: {kind.shown}"
  | .reshapeVolume shape volume newShape newVolume =>
    s!"Cannot reshape {shape.text} ({volume} elements) to {newShape.text} ({newVolume} elements)"
  | .reshapeDim axis => s!"Reshape dimension on axis {axis} must be >= 1"
  | .reshapeUnresolved newShape =>
    s!"Reshape to {newShape.text} leaves more than one dimension unresolved"
  | .padding shape rank => s!"Cannot pad shape {shape.text} down to rank {rank}"
  | .literalRank => s!"number of dimensions must be within [0, {maximumRank}]"
  | .literalSize =>
    "array is too big; `arr.size * arr.dtype.itemsize` is larger than the maximum possible size."
  | .opset version =>
    s!"Opset {version} is not supported; primitives need opset >= {minimumOpset}"
  | .unknownOpset => "Unsupported opset-version."
  | .wordRange value => s!"Value out of range: {value}"
  | .emptyName field => s!"Invalid primitive graph: {checkerMessage field}"
  | .stated reason => reason

/-- What is said in place of a message that would write too long an integer. -/
def tooLong : String :=
  s!"Exceeds the limit ({digitLimit} digits) for integer string conversion; " ++
    "use sys.set_int_max_str_digits() to increase the limit"

/-- The message of a rejection. -/
def message (rejection : Rejection) : String :=
  if rejection.computed.any fun value => Nat.pow 10 digitLimit ≤ value.natAbs then tooLong
  else rejection.wording

end Rejection

/-- Why a request on a graph fails. -/
inductive Fault where
  | rejected (reason : Rejection)
  /-- An index constant would hold an integer outside 64 bits. -/
  | constantTooLarge
  /-- An index constant would hold an infinite number. -/
  | constantInfinite
  /-- An integer in a calculation with doubles rounds to none of them. -/
  | beyondDoubles
  /-- A slice size is neither a number nor a symbol. -/
  | sizeNotComparable (size : Foreign)
  /-- No tensor of the graph has this name. -/
  | unknownTensor (name : String)
  /-- The elements of a literal cannot be read. -/
  | unreadable (obstacle : Obstacle)
  /-- The bytes of a literal are more than a byte string holds. -/
  | bytesTooMany
  deriving DecidableEq

namespace Fault

/-- The wording of a fault. -/
def message : Fault → String
  | .rejected reason => reason.message
  | .constantTooLarge => "Python int too large to convert to C long"
  | .constantInfinite => "cannot convert float infinity to integer"
  | .beyondDoubles => "int too large to convert to float"
  | .sizeNotComparable size =>
    s!"'<' not supported between instances of '{size.typeName}' and 'int'"
  | .unknownTensor name => Text.quoted name
  | .unreadable obstacle => obstacle.message
  | .bytesTooMany => "byte string is too large"

end Fault

/-- A check that ends in a rejection. -/
def refuse {Value : Type} (reason : Rejection) : Except Fault Value :=
  .error (.rejected reason)

/-- The shape padded with leading ones to exactly `rank`; a rank below its own is refused. -/
def Shape.pad (shape : Shape) (rank : Int) : Except Fault Shape :=
  if rank < shape.length then refuse (.padding shape rank) else .ok (shape.padTo rank.toNat)

end OperatorLowering
