/-
**Inputs and frozen constants.**

The tensors a graph starts from are declared inputs and frozen literals, both of a type the graph
computes on. An input keeps the name it was declared with; a frozen literal may be renamed. Its
elements are read once it has its name. A literal with an obstacle, or of too many axes or bytes,
fails there, so its number is spent. Memory is taken to hold whatever a byte string can.
-/

import OperatorLowering.Graph.Build

namespace OperatorLowering

/-- The model's code of an element type; a type the graph does not compute on is refused. -/
def ElementType.requireCode (dtype : ElementType) : Except Fault Nat :=
  match dtype.computeCode? with
  | some code => .ok code
  | none => refuse (.unsupportedType dtype)

/-- The most bytes that are counted, in 64 bits with a sign. -/
def maximumSpan : Nat := 0x7fffffffffffffff

/-- The most bytes of a byte string, which counts the 33 bytes of its header with them. -/
def maximumBytes : Nat := maximumSpan - 33

/-- A literal can be read and has no more axes than allowed. Its bytes can be counted even if axes
of size zero are left out, and they fit a byte string. -/
def Literal.requireEmbeddable (value : Literal) : Except Fault Unit :=
  match value.obstacle with
  | some obstacle => .error (.unreadable obstacle)
  | none =>
    if maximumRank < value.axes.length then refuse .literalRank
    else if maximumSpan < value.span then refuse .literalSize
    else if maximumBytes < value.size then .error .bytesTooMany
    else .ok ()

namespace Build

/-- Declare a graph input. -/
def addInput (name : String) (shape : Shape) (dtype : ElementType := .float32) :
    Build Handle := do
  let _ ← inspect fun _ => dtype.requireCode
  let tensor ← declare name shape dtype
  modify fun graph => { graph with inputs := graph.inputs ++ [tensor] }
  return tensor

/-- Embed a literal; without a name, or with an empty one, it gets a generated name. -/
def freeze (value : Literal) (name : Option String := none) : Build Handle := do
  let _ ← inspect fun _ => value.dtype.requireCode
  let name ← match name.filter (· ≠ "") with
    | some given => pure given
    | none => freshName "const"
  let name ← uniqueName name
  inspect fun _ => value.requireEmbeddable
  embed name (.ofLiteral value)

end Build

end OperatorLowering
