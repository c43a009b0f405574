/-
**A backend infers what a graph declares.**

Of a graph that calls have made, the pass of the backend over the nodes comes to its end and gives
every tensor its declared dimensions, whatever sizes in range the symbols stand for. Three things
are asked for: no declared input has a negative dimension, slices find their elements on symbolic
axes, and reshapes keep the number of elements.

* `Graph.Natural.call`: accepted calls keep dimensions from being negative;
* `Graph.Yields.wellShaped`: programs make graphs of well-shaped nodes;
* `inferred_as_declared`: the pass over the nodes of a program.
-/

import Mathlib.Algebra.BigOperators.Group.List.Basic
import Mathlib.Algebra.Ring.Int.Defs
import OperatorLowering.Proofs.Graph.Calls
import OperatorLowering.Proofs.Meaning.Inference

namespace OperatorLowering

variable {sizes : String → Nat} {graph : Graph}

/-! ### Dimensions that are not negative -/

/-- What a dimension stands for, once symbols have sizes. -/
def Dim.assigned (sizes : String → Nat) : Dim → Int
  | .size n => n
  | .symbol name => sizes name

/-- No known dimension is negative. -/
def Shape.Natural (shape : Shape) : Prop :=
  ∀ size, .size size ∈ shape → 0 ≤ size

namespace Shape

variable {shape : Shape}

theorem natural_of_positive (positive : ∀ size, .size size ∈ shape → 1 ≤ size) : shape.Natural :=
  fun size member => Int.le_trans (by decide) (positive size member)

theorem Natural.of_subset {part : Shape} (natural : shape.Natural) (subset : part ⊆ shape) :
    part.Natural :=
  fun size member => natural size (subset member)

/-- Dimensions that are not negative stand for their sizes. -/
theorem Natural.assigned (natural : shape.Natural) :
    shape.map (Dim.assigned sizes) = (shape.under sizes).map Int.ofNat := by
  rw [under, List.map_map]
  refine List.map_congr_left fun dim member => ?_
  cases dim with
  | symbol name => rfl
  | size size => exact (Int.toNat_of_nonneg (natural size member)).symm

/-- The numbers of elements agree as natural numbers if they do as integers. -/
theorem prod_under_eq {other : Shape} (natural : shape.Natural) (otherNatural : other.Natural)
    (same : (shape.map (Dim.assigned sizes)).prod = (other.map (Dim.assigned sizes)).prod) :
    (shape.under sizes).prod = (other.under sizes).prod := by
  rw [natural.assigned, otherNatural.assigned] at same
  have cast (dims : List Nat) : (dims.map Int.ofNat).prod = (dims.prod : Int) :=
    List.prod_hom dims (Nat.castRingHom Int)
  rw [cast, cast] at same
  exact_mod_cast same

/-- What natural shapes combine to is natural. -/
theorem Natural.broadcast? {first second : Shape} (left : first.Natural) (right : second.Natural)
    (combined : first.broadcast? second = some shape) : shape.Natural := by
  intro size member
  by_cases one : Dim.size size = .one
  · cases one
    decide
  · exact (mem_of_broadcast? combined member one).elim (left size) (right size)

end Shape

/-- A transposed stack of matrices has the dimensions of the stack. -/
theorem MatrixShape.toShape_transposeIf_subset (matrix : MatrixShape) (swap : Bool) :
    (matrix.transposeIf swap).toShape ⊆ matrix.toShape := by
  intro dim member
  cases swap with
  | false => exact member
  | true =>
      simp only [transposeIf, if_true, transpose, toShape, List.mem_append, List.mem_cons,
        List.not_mem_nil, or_false] at member ⊢
      exact member.imp_right Or.symm

/-- **The result of a request** of natural shapes has a natural one. -/
theorem Request.natural_of_type? {request : Request TensorType} {type : TensorType}
    (typed : request.type? = some type)
    (operands : ∀ operand ∈ request.operands, operand.shape.Natural) : type.shape.Natural := by
  cases request with
  | matmul a b transposeA transposeB =>
      obtain ⟨_, _, first, second, batch, isA, isB, _, batches, result⟩ := type?_matmul.mp typed
      have left : (first.transposeIf transposeA).toShape.Natural :=
        Shape.Natural.of_subset (isA ▸ operands a List.mem_cons_self)
          (first.toShape_transposeIf_subset transposeA)
      have right : (second.transposeIf transposeB).toShape.Natural :=
        Shape.Natural.of_subset (isB ▸ operands b (List.mem_cons_of_mem _ List.mem_cons_self))
          (second.toShape_transposeIf_subset transposeB)
      have stacked : batch.Natural := Shape.Natural.broadcast?
        (left.of_subset (List.subset_append_left _ _))
        (right.of_subset (List.subset_append_left _ _)) batches
      rw [result]
      intro size member
      rcases List.mem_append.mp member with inBatch | last
      · exact stacked size inBatch
      · rcases List.mem_pair.mp last with isRows | isColumns
        · exact left size (List.mem_append_right _ (by simp [isRows]))
        · exact right size (List.mem_append_right _ (by simp [isColumns]))
  | elementwise a b op =>
      obtain ⟨_, combined, _⟩ := type?_elementwise.mp typed
      exact (operands a List.mem_cons_self).broadcast?
        (operands b (List.mem_cons_of_mem _ List.mem_cons_self)) combined
  | slice a offsets counts strides =>
      obtain ⟨sliced, _, rfl⟩ := type?_slice.mp typed
      exact Shape.natural_of_positive sliced.positive
  | activation a kind =>
      obtain rfl : a = type := Option.some.inj typed
      exact operands a List.mem_cons_self
  | reshape a shape =>
      obtain ⟨codes, target, rfl⟩ := Option.map_eq_some_iff.mp typed
      obtain ⟨_, found, _⟩ := Shape.targetIndices?_eq_some.mp target
      obtain ⟨_, listed, _⟩ := Shape.reshapeTarget_eq_ok.mp found
      exact Shape.natural_of_positive ((Shape.targetDims_isOk a.shape 0).mp ⟨_, listed⟩)

/-- The dimensions of a constant are not negative. -/
theorem Constant.natural (constant : Constant) : constant.tensor.shape.Natural := by
  intro size member
  obtain ⟨dim, _, same⟩ := List.mem_map.mp member
  cases same
  exact Int.natCast_nonneg dim

/-- **What an accepted request adds** to natural operands is natural. -/
theorem Request.natural_of_adds {request : Request Handle} {output : Handle}
    {additions : List Addition} (adds : request.Adds output additions)
    (operands : ∀ tensor ∈ request.operands, tensor.shape.Natural)
    (result : output.shape.Natural) {addition : Addition} (member : addition ∈ additions)
    {tensor : Handle} (entered : addition.tensor? = some tensor) : tensor.shape.Natural := by
  have ended {layer : String} {primitive : Primitive} {operands : List Handle}
      {reads : List String} (member : addition ∈ ending layer primitive operands reads output) :
      tensor.shape.Natural := by
    rcases List.mem_pair.mp member with rfl | rfl
    · cases entered
      exact result
    · cases entered
  have constant {made : Constant} (same : addition = .constant made) : tensor.shape.Natural := by
    subst same
    cases entered
    exact made.natural
  have factor {swap : Bool} {operand : Handle} {matrix : MatrixShape} {layer role name : String}
      (natural : operand.shape.Natural)
      (shaped : MatrixShape.ofShape? operand.shape = some matrix)
      (member : addition ∈
        Build.factorAdditions swap operand (matrix.transposeIf swap) layer role name) :
      tensor.shape.Natural := by
    cases swap with
    | false => cases member
    | true =>
        rw [List.mem_singleton.mp member] at entered
        cases entered
        rw [MatrixShape.ofShape?_eq_some.mp shaped] at natural
        exact natural.of_subset (matrix.toShape_transposeIf_subset true)
  cases adds with
  | matmul a b _ transposeA transposeB first second layer firstName secondName firstShape
      secondShape =>
      rcases List.mem_append.mp member with factors | last
      · rcases List.mem_append.mp factors with inFirst | inSecond
        · exact factor (operands a List.mem_cons_self) firstShape inFirst
        · exact factor (operands b (List.mem_cons_of_mem _ List.mem_cons_self)) secondShape inSecond
      · exact ended last
  | elementwise a b _ op layer => exact ended member
  | slice a _ offsets counts strides spans indices layer starts ends axes steps =>
      rcases List.mem_append.mp member with steering | last
      · simp only [List.mem_cons, List.not_mem_nil, or_false] at steering
        rcases steering with same | same | same | same <;> exact constant same
      · exact ended last
  | activation a _ kind layer => exact ended member
  | reshape a _ shape target layer name =>
      rcases List.mem_cons.mp member with same | last
      · exact constant same
      · exact ended last

namespace Graph

/-- A graph that owns no negative dimension. -/
def Natural (graph : Graph) : Prop :=
  ∀ tensor, graph.owns tensor = true → tensor.shape.Natural

theorem Natural.grow {before after : Graph} {additions : List Addition} (natural : before.Natural)
    (grows : before.Grows additions after)
    (added : ∀ addition ∈ additions, ∀ tensor, addition.tensor? = some tensor →
      tensor.shape.Natural) : after.Natural := by
  intro tensor owned
  rcases grows.owned_cases owned with there | ⟨addition, member, entered⟩
  · exact natural tensor there
  · exact added addition member tensor entered

theorem Natural.empty : Graph.empty.Natural :=
  fun _ owned => absurd owned Bool.false_ne_true

theorem Natural.constants {before after : Graph} {constants : List Constant}
    (natural : before.Natural) (grows : before.Grows (constants.map Addition.constant) after) :
    after.Natural := by
  refine natural.grow grows fun addition member tensor entered => ?_
  obtain ⟨constant, _, rfl⟩ := List.mem_map.mp member
  cases entered
  exact constant.natural

/-- An accepted call without doubles keeps dimensions from being negative, if a declared input is no
exception. -/
theorem Natural.call {before after : Graph} {call : Call} {output : Handle}
    {additions : List Addition} (natural : before.Natural) (exact : call.Exact)
    (owned : ∀ tensor ∈ call.operands, before.owns tensor = true)
    (adds : call.Adds output additions) (grows : before.Grows additions after)
    (inputs : ∀ tensor ∈ after.inputs, tensor.shape.Natural) : after.Natural := by
  refine natural.grow grows fun addition member tensor entered => ?_
  rcases adds.cases_of_exact exact with ⟨input, rfl⟩ | ⟨name, value, rfl⟩ |
    ⟨request, operands, typed, adds⟩
  · rw [List.mem_singleton.mp member] at entered
    cases entered
    refine inputs tensor ?_
    rw [grows.inputs]
    exact List.mem_append_right _ List.mem_cons_self
  · rw [List.mem_singleton.mp member] at entered
    cases entered
    exact Constant.natural _
  · have still : ∀ operand ∈ request.operands, operand.shape.Natural :=
      fun operand listed => natural operand (owned operand (operands ▸ listed))
    refine Request.natural_of_adds adds still ?_ member entered
    refine Request.natural_of_type? typed fun type listed => ?_
    rw [Request.operands_map] at listed
    obtain ⟨operand, isOperand, rfl⟩ := List.mem_map.mp listed
    exact still operand isOperand

end Graph

/-! ### Programs -/

/-- **Sizes suit a layer** that reads a tensor of this shape: a slice finds its elements on symbolic
axes, and a reshape keeps the number of elements. -/
def Primitive.RunsUnder (sizes : String → Nat) (shape : Shape) : Primitive → Prop
  | .slice offsets counts strides => shape.Covers sizes offsets counts strides
  | .reshape newShape =>
    (shape.map (Dim.assigned sizes)).prod = (newShape.map (Dim.assigned sizes)).prod
  | _ => True

/-- Sizes suit the layers of a graph. -/
def Graph.RunsUnder (sizes : String → Nat) (graph : Graph) : Prop :=
  ∀ layer ∈ graph.layers, ∀ tensor, graph.owns tensor = true → layer.inputs = [tensor.name] →
    layer.primitive.RunsUnder sizes tensor.shape

/-- **Sizes that suit the layer** of an accepted request suit the request. -/
theorem Request.runsUnder_of_adds {before after : Graph} {request : Request Handle}
    {output : Handle} {additions : List Addition} (adds : request.Adds output additions)
    (grows : before.Grows additions after)
    (owned : ∀ tensor ∈ request.operands, before.owns tensor = true)
    (typed : (request.map Handle.type).type? = some output.type) (natural : after.Natural)
    (runs : after.RunsUnder sizes) : (request.map Handle.type).RunsUnder sizes := by
  obtain ⟨name, layers⟩ := layers_of_adds adds
  have listed : (⟨request.primitive, name, request.operands.map Handle.name, output.name⟩ : Layer) ∈
      after.layers := by
    rw [grows.layers, layers]
    exact List.mem_append_right _ List.mem_cons_self
  have still {tensor : Handle} (member : tensor ∈ request.operands) : after.owns tensor = true :=
    grows.keeps_owns (owned tensor member)
  cases request with
  | matmul a b transposeA transposeB => trivial
  | elementwise a b op => trivial
  | activation a kind => trivial
  | slice a offsets counts strides => exact runs _ listed a (still List.mem_cons_self) rfl
  | reshape a shape =>
      have source := still List.mem_cons_self
      have result : shape = output.shape := by
        obtain ⟨_, _, same⟩ := Option.map_eq_some_iff.mp typed
        exact congrArg TensorType.shape same
      have made : after.owns output = true := by
        obtain ⟨addition, member, entered⟩ := output_of_adds adds
        exact (grows.enters member entered).2
      exact Shape.prod_under_eq (natural a source) (result ▸ natural output made)
        (runs _ listed a source rfl)

namespace Graph

/-- What a backend has to be told of a graph: no declared input has a negative dimension, and the
sizes suit the layers. -/
structure Suits (sizes : String → Nat) (graph : Graph) : Prop where
  inputs : ∀ tensor ∈ graph.inputs, tensor.shape.Natural
  runs : graph.RunsUnder sizes

/-- Sizes that suit a grown graph suit the one it grew from. -/
theorem Suits.of_grows {before after : Graph} {additions : List Addition}
    (suits : after.Suits sizes) (grows : before.Grows additions after) : before.Suits sizes where
  inputs tensor member := suits.inputs tensor (grows.inputs ▸ List.mem_append_left _ member)
  runs layer member tensor owned :=
    suits.runs layer (grows.layers ▸ List.mem_append_left _ member) tensor (grows.keeps_owns owned)

/-- The nodes of a graph are well-shaped, whatever it grows into. -/
def StaysWellShaped (sizes : String → Nat) (graph : Graph) : Prop :=
  ∀ later, graph.Grown later → later.SingleAssignment →
    ∀ node ∈ graph.nodes, node.WellShaped later sizes

theorem StaysWellShaped.grow {before after : Graph} {additions : List Addition}
    (shaped : before.StaysWellShaped sizes) (grows : before.Grows additions after)
    (added : ∀ later, after.Grown later → later.SingleAssignment →
      ∀ node ∈ additions.filterMap Addition.node?, node.WellShaped later sizes) :
    after.StaysWellShaped sizes := by
  intro later grown single node member
  rw [grows.nodes] at member
  rcases List.mem_append.mp member with old | new
  · exact shaped later (Grown.trans ⟨additions, grows⟩ grown) single node old
  · exact added later grown single node new

/-- **Programs of calls** without doubles make graphs of well-shaped nodes, without negative
dimensions, if the sizes suit the layers. -/
theorem Yields.wellShaped (inRange : SizesInRange sizes)
    (yields : Graph.empty.Yields Call.Exact graph) (suits : graph.Suits sizes) :
    graph.Natural ∧ graph.StaysWellShaped sizes := by
  let holds (graph : Graph) : Prop :=
    graph.Suits sizes → graph.Natural ∧ graph.StaysWellShaped sizes
  have all : holds graph := by
    have start : holds .empty := fun _ => ⟨.empty, nofun⟩
    refine yields.keeps ?_ ?_ start
    · intro call before output additions after exact owned adds grows held suits
      obtain ⟨natural, shaped⟩ := held (suits.of_grows grows)
      have still := natural.call exact owned adds grows suits.inputs
      refine ⟨still, shaped.grow grows fun later grown single => ?_⟩
      rcases adds.cases_of_exact exact with ⟨_, rfl⟩ | ⟨_, _, rfl⟩ |
        ⟨request, operands, typed, requested⟩
      · exact nofun
      · exact nofun
      · rw [← operands] at owned
        exact request.wellShaped_of_adds inRange requested grows grown single owned typed
          (request.runsUnder_of_adds requested grows owned typed still suits.runs)
    · intro before constants after grows held suits
      obtain ⟨natural, shaped⟩ := held (suits.of_grows grows)
      refine ⟨natural.constants grows, shaped.grow grows fun _ _ _ node member => ?_⟩
      obtain ⟨addition, listed, found⟩ := List.mem_filterMap.mp member
      obtain ⟨constant, _, rfl⟩ := List.mem_map.mp listed
      cases found
  exact all suits

end Graph

/-- **What a backend infers is what the graph declares.** Of a graph that calls have made from
inputs without negative dimensions, the pass over all nodes comes to its end and gives every tensor
of the table its declared dimensions, whatever sizes in range the symbols stand for, if these suit
the layers. -/
theorem inferred_as_declared (yields : Graph.empty.Yields Call.Exact graph)
    (natural : ∀ tensor ∈ graph.inputs, tensor.shape.Natural) (inRange : SizesInRange sizes)
    (runs : graph.RunsUnder sizes) :
    ∃ known, graph.infer? sizes = some known ∧
      ∀ name tensor, graph.tensors.get? name = some tensor →
        ∃ extent, known name = some extent ∧
          extent.dims.map Int.ofNat = tensor.shape.map (Dim.assigned sizes) := by
  obtain ⟨additions, grows⟩ := yields.grown
  have single := Graph.SingleAssignment.of_grows grows .empty
  obtain ⟨declared, shaped⟩ := yields.wellShaped inRange ⟨natural, runs⟩
  obtain ⟨known, inferred, knows⟩ :=
    Graph.infer?_wellShaped single (shaped graph (.refl graph) single)
  refine ⟨known, inferred, fun name tensor found => ?_⟩
  have listed := (NameTable.contains_iff graph.tensors name).mp (Graph.contains_of_get? found)
  refine ⟨⟨tensor.shape.under sizes, graph.indices? name⟩, ?_, ?_⟩
  · rw [knows name listed, Graph.extent?, found]
    rfl
  · have named := single.named name tensor found
    have owned : graph.owns tensor = true :=
      (Graph.owns_iff graph tensor).mpr (named.symm ▸ found)
    exact (declared tensor owned).assigned.symm

/-- Two rows of a matrix, and its elements in rows of two. -/
def Graph.rearranged : Graph :=
  Graph.empty.after
    [.addInput "x" [.symbol "n", .size 4] .float32,
      .slice ⟨"x", [.symbol "n", .size 4], .float32⟩ [some 1, some 0]
        [.dim (.size 2), .dim (.size 2)] [some 1, some 2],
      .reshape ⟨"x", [.symbol "n", .size 4], .float32⟩ [.symbol "m", .size 2]]

/-- Three rows of four elements are six rows of two. -/
theorem rearranged_inferred :
    Graph.rearranged.tensors.names = ["x", "slice_1_starts", "slice_1_ends", "slice_1_axes",
        "slice_1_steps", "slice_1_out", "reshape_2_shape", "reshape_2_out"] ∧
      ∃ known, Graph.rearranged.infer? (fun name => if name = "m" then 6 else 3) = some known ∧
        ∀ name tensor, Graph.rearranged.tensors.get? name = some tensor →
          ∃ extent, known name = some extent ∧ extent.dims.map Int.ofNat =
            tensor.shape.map (Dim.assigned fun name => if name = "m" then 6 else 3) := by
  have input : Graph.rearranged.inputs = [⟨"x", [.symbol "n", .size 4], .float32⟩] := by decide
  have layers : Graph.rearranged.layers =
      [⟨.slice [1, 0] [.size 2, .size 2] [1, 2], "slice_1", ["x"], "slice_1_out"⟩,
        ⟨.reshape [.symbol "m", .size 2], "reshape_2", ["x"], "reshape_2_out"⟩] := by decide
  have found : Graph.rearranged.tensors.get? "x" =
      some ⟨"x", [.symbol "n", .size 4], .float32⟩ := by decide
  refine ⟨by decide, inferred_as_declared ?_ ?_ ?_ ?_⟩
  · refine Graph.yields_after _ _ ?_
    simp [Call.Exact]
  · rw [input]
    intro tensor member size there
    rw [List.mem_singleton.mp member] at there
    simp only [List.mem_cons, reduceCtorEq, Dim.size.injEq, List.not_mem_nil, or_false,
      false_or] at there
    omega
  · intro symbol
    by_cases isRows : symbol = "m"
    · simp only [isRows, if_true]
      decide
    · simp only [isRows, if_false]
      decide
  · rw [Graph.RunsUnder, layers]
    intro layer member tensor owned reads
    have isInput : tensor = ⟨"x", [.symbol "n", .size 4], .float32⟩ := by
      have named : tensor.name = "x" := by
        rcases List.mem_pair.mp member with rfl | rfl <;> simpa using reads.symm
      have entry := (Graph.owns_iff _ tensor).mp owned
      rw [named, found] at entry
      exact (Option.some.inj entry).symm
    subst isInput
    rcases List.mem_pair.mp member with rfl | rfl
    · rintro (_ | _ | axis) name count offset stride isName isCount isOffset isStride
      · cases isName
        cases isCount
        cases isOffset
        cases isStride
        decide
      · cases isName
      · cases isName
    · show (3 * (4 * 1) : Int) = 6 * (2 * 1)
      rfl

end OperatorLowering
