/-
**Element types and handles.**

The graph computes on three floating-point types; the others can be asked for and are refused.
Index constants inside a graph are 64-bit integers, which have a code in an exported model but are
no type of a graph input or of a frozen constant.

A handle refers to a tensor of a graph by name and carries what the graph declared about it. Two
handles are the same when name, shape and element type all are.
-/

import OperatorLowering.Shape.Basic

namespace OperatorLowering

/-- The type of the elements of a tensor. -/
inductive ElementType where
  | float16 | float32 | float64
  | bfloat16
  | int8 | int16 | int32 | int64
  | uint8
  | bool
  | complex64 | complex128
  deriving DecidableEq

namespace ElementType

/-- The written form of an element type in messages. -/
def text : ElementType → String
  | .float16 => "torch.float16"
  | .float32 => "torch.float32"
  | .float64 => "torch.float64"
  | .bfloat16 => "torch.bfloat16"
  | .int8 => "torch.int8"
  | .int16 => "torch.int16"
  | .int32 => "torch.int32"
  | .int64 => "torch.int64"
  | .uint8 => "torch.uint8"
  | .bool => "torch.bool"
  | .complex64 => "torch.complex64"
  | .complex128 => "torch.complex128"

/-- The number of bytes of one element. -/
def width : ElementType → Nat
  | .int8 | .uint8 | .bool => 1
  | .float16 | .bfloat16 | .int16 => 2
  | .float32 | .int32 => 4
  | .float64 | .int64 | .complex64 => 8
  | .complex128 => 16

/-- The code of a type the graph computes on, as exported models write it. -/
def computeCode? : ElementType → Option Nat
  | .float32 => some 1
  | .float16 => some 10
  | .float64 => some 11
  | _ => none

/-- The code of the index constants that slices and reshapes read. -/
def indexCode : Nat := 7

end ElementType

/-- A reference to a tensor of a graph, with its declared shape and element type. -/
structure Handle where
  name : String
  shape : Shape
  dtype : ElementType := .float32
  deriving DecidableEq

namespace Handle

/-- The number of dimensions. -/
def rank (tensor : Handle) : Nat :=
  tensor.shape.length

/-- The written form of a handle, `gates[batch, 12]`. -/
def text (tensor : Handle) : String :=
  tensor.name ++ tensor.shape.text

end Handle

end OperatorLowering
