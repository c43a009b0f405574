/-
**Appending to a graph.**

A building step either gives a value or a fault, and in both cases the graph as it then stands: what
was appended before a fault stays. Every request has two parts. A check reads the graph and answers
with what the request needs or with a fault; only then is anything appended.

One counter numbers every generated name. A tensor gets the name it asks for if that is free, else
the first free variant of it above the counter, which then moves there. Of `taken.length + 1`
variants one is always free, so the search ends.

* `Graph.freshName`: the next number behind a stem;
* `Graph.uniqueName`: a name that no tensor has;
* `Build.inspect`: a check, which leaves the graph alone;
* `Build.declare`, `Build.embed`, `Build.append`: the ways to add a tensor.
-/

import OperatorLowering.Graph.Fault

namespace OperatorLowering

/-! ### Names -/

/-- The numbered variant of a stem. -/
def variant (stem : String) (number : Nat) : String :=
  s!"{stem}_{number}"

/-- The least number above `counter` whose variant of `stem` is not taken. -/
def firstFree (taken : List String) (stem : String) (counter : Nat) : Nat :=
  let candidates := List.range' (counter + 1) (taken.length + 1)
  (candidates.find? fun number => !taken.contains (variant stem number)).getD 0

namespace Graph

/-- The next number behind a stem. -/
def freshName (graph : Graph) (stem : String) : String × Graph :=
  (variant stem (graph.counter + 1), { graph with counter := graph.counter + 1 })

/-- The name itself if no tensor has it, else its first free variant above the counter. -/
def uniqueName (graph : Graph) (name : String) : String × Graph :=
  if graph.tensors.contains name then
    let number := firstFree graph.tensors.names name graph.counter
    (variant name number, { graph with counter := number })
  else (name, graph)

end Graph

/-! ### Steps -/

/-- Steps on a graph; a fault keeps the graph as it stands. -/
abbrev Build := EStateM Fault Graph

/-- The least integer that an index constant holds. -/
def indexMin : Int := -0x8000000000000000

/-- The greatest integer that an index constant holds; a slice that ends there runs to the end. -/
def indexMax : Int := 0x7fffffffffffffff

/-- The integer fits an index constant. -/
def fitsIndex (value : Int) : Bool :=
  indexMin ≤ value && value ≤ indexMax

namespace Graph

/-- A tensor that the graph does not hold is refused. -/
def requireOwned (graph : Graph) (tensor : Handle) : Except Fault Unit :=
  if graph.owns tensor then .ok () else refuse (.foreignTensor tensor)

/-- The handle of a name. -/
def tensor (graph : Graph) (name : String) : Except Fault Handle :=
  match graph.tensors.get? name with
  | some tensor => .ok tensor
  | none => .error (.unknownTensor name)

end Graph

namespace Build

variable {Value : Type}

/-- A check: it reads the graph and changes nothing. -/
def inspect (check : Graph → Except Fault Value) : Build Value := fun graph =>
  match check graph with
  | .ok value => .ok value graph
  | .error fault => .error fault graph

/-- The next number behind a stem. -/
def freshName (stem : String) : Build String :=
  modifyGet (·.freshName stem)

/-- The name itself if it is free, else its first free variant. -/
def uniqueName (name : String) : Build String :=
  modifyGet (·.uniqueName name)

/-- Enter a tensor under a name that is free. -/
def declare (name : String) (shape : Shape) (dtype : ElementType) : Build Handle := fun graph =>
  if graph.tensors.contains name then .error (.rejected (.nameTaken name)) graph
  else
    let tensor : Handle := ⟨name, shape, dtype⟩
    .ok tensor { graph with tensors := graph.tensors.insert name tensor }

/-- Enter a tensor under a name or, if that is taken, a variant of it. -/
def declareFresh (name : String) (shape : Shape) (dtype : ElementType) : Build Handle := do
  declare (← uniqueName name) shape dtype

/-- Append a node. -/
def emit (node : Node) : Build Unit :=
  modify fun graph => { graph with nodes := graph.nodes ++ [node] }

/-- Append a layer to the log. -/
def record (layer : Layer) : Build Unit :=
  modify fun graph => { graph with layers := graph.layers ++ [layer] }

/-- Append a constant and its tensor, under a name that is free. -/
def embed (name : String) (value : ConstantValue) : Build Handle := do
  let tensor ← declare name value.shape value.dtype
  modify fun graph => { graph with constants := graph.constants ++ [⟨tensor.name, value⟩] }
  return tensor

/-- Append a constant list of integers that a layer reads; each must fit 64 bits. -/
def embedIndices (layer role : String) (values : List Int) : Build String := do
  inspect fun _ => if values.all fitsIndex then .ok () else .error .constantTooLarge
  let tensor ← embed (← uniqueName s!"{layer}_{role}") (.indices values)
  return tensor.name

/-- Append the last node of a layer, its output and its entry in the log. `reads` names what the
node reads, `operands` what the layer was asked to work on. -/
def append (layer : String) (primitive : Primitive) (operands : List Handle)
    (reads : List String) (shape : Shape) (dtype : ElementType) : Build Handle := do
  let output ← declareFresh s!"{layer}_out" shape dtype
  emit ⟨primitive.op, layer, reads, output.name⟩
  record ⟨primitive, layer, operands.map Handle.name, output.name⟩
  return output

end Build

end OperatorLowering
