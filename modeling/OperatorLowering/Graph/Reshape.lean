/-
**Reshapes.**

A reshape keeps the number of elements, so far as both numbers are known. Its target is a list of
integers: a known dimension stands for itself, a symbol that sits at the same axis of the operand is
copied by `0`, and one further symbol is left to the backend by `-1`.
-/

import OperatorLowering.Graph.Build

namespace OperatorLowering

/-- How one dimension of a reshaped tensor is found. -/
inductive TargetDim where
  | fixed (size : Int)
  | copied
  | inferred
  deriving DecidableEq

namespace TargetDim

/-- The integer that the backend reads. -/
def code : TargetDim → Int
  | .fixed size => size
  | .copied => 0
  | .inferred => -1

end TargetDim

namespace Shape

/-- How the dimension `dim` at an axis is found when `old` is the operand's dimension there. -/
def targetDim (axis : Nat) (old : Option Dim) (dim : Dim) : Except Fault TargetDim :=
  match dim with
  | .size size => if size < 1 then refuse (.reshapeDim axis) else .ok (.fixed size)
  | .symbol _ => .ok (if old = some dim then .copied else .inferred)

/-- How the dimensions of the new shape are found, the first of them at axis `axis` of `shape`. -/
def targetDims (shape : Shape) (axis : Nat) : Shape → Except Fault (List TargetDim)
  | [] => .ok []
  | dim :: rest => do
    let first ← targetDim axis shape[axis]? dim
    let others ← targetDims shape (axis + 1) rest
    return first :: others

/-- Two known volumes must be the same. -/
def requireSameVolume (shape newShape : Shape) : Except Fault Unit :=
  match shape.volume, newShape.volume with
  | some old, some new =>
    if old = new then .ok () else refuse (.reshapeVolume shape old newShape new)
  | _, _ => .ok ()

/-- The target of a reshape, with at most one dimension left to the backend. -/
def reshapeTarget (shape newShape : Shape) : Except Fault (List TargetDim) := do
  requireSameVolume shape newShape
  let target ← targetDims shape 0 newShape
  if target.count .inferred > 1 then refuse (.reshapeUnresolved newShape) else return target

end Shape

/-- The target of a reshape of a tensor of a graph. -/
def Graph.reshapeTarget (graph : Graph) (a : Handle) (newShape : Shape) :
    Except Fault (List TargetDim) := do
  graph.requireOwned a
  a.shape.reshapeTarget newShape

namespace Build

/-- Append a reshape. -/
def reshape (a : Handle) (newShape : Shape) : Build Handle := do
  let target ← inspect fun graph => graph.reshapeTarget a newShape
  let layer ← freshName "reshape"
  let shape ← embedIndices layer "shape" (target.map TargetDim.code)
  append layer (.reshape newShape) [a] [a.name, shape] newShape a.dtype

end Build

end OperatorLowering
