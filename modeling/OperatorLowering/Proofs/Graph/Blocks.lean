/-
**The log of layers and the nodes describe one program.**

A graph keeps two lists of what it computes: the layers that were asked for, and the nodes that a
backend runs. The nodes fall into consecutive blocks, one for each layer in order, and each block
computes what its layer says. What a slice or a reshape is steered by stands in constants, which are
looked up by the names that the node reads.

* `Graph.Block`: the nodes of a layer, for each kind of layer;
* `Graph.Described`: all nodes are the blocks of the layers;
* `reachable_described`: so it is after any sequence of calls.
-/

import OperatorLowering.Proofs.Graph.Ranges
import OperatorLowering.Proofs.Lowering.Reachable
import OperatorLowering.Proofs.Meaning.Extents

namespace OperatorLowering

/-! ### Blocks -/

/-- **Where a slice ends** along an axis: behind its last index, or for a symbol at the greatest
index. Only where doubles are among the sizes that were asked for, the last index may be one in
floating point, and the declared size what stands in front of the point. -/
inductive Slice.EndsAt (doubles : Prop) (offset stride : Int) : Dim → Int → Prop
  | known (size : Int) : EndsAt doubles offset stride (.size size) (offset + (size - 1) * stride + 1)
  | whole (name : String) : EndsAt doubles offset stride (.symbol name) indexMax
  | measured (value : Float) (stop : Int) (given : doubles)
      (read : Number.toIndex (.real (SpanRequest.measuredLast offset value stride + 1)) = .ok stop) :
      EndsAt doubles offset stride (.size (Number.truncate value)) stop

/-- The ends of a slice, axis by axis. -/
inductive Slice.Ends (doubles : Prop) : List Int → Shape → List Int → List Int → Prop
  | nil : Ends doubles [] [] [] []
  | cons {offset stride stop : Int} {size : Dim} {offsets strides stops : List Int} {sizes : Shape}
      (first : EndsAt doubles offset stride size stop)
      (rest : Ends doubles offsets sizes strides stops) :
      Ends doubles (offset :: offsets) (size :: sizes) (stride :: strides) (stop :: stops)

/-- The ends of the spans of a slice, as its constants hold them. -/
theorem Slice.ends_of_reads {doubles : Prop} {entries : List (Dim × Nat)} {spans : List Span}
    {stops : List Int}
    (reads : List.Forall₂ (fun entry span => (∃ value, doubles ∧ span.Measured value) ∨
      span.Exact entry.1 entry.2) entries spans)
    (read : (spans.map Span.stop).mapM Number.toIndex = .ok stops) :
    Slice.Ends doubles (spans.map Span.start) (spans.map Span.size) (spans.map Span.step) stops := by
  induction reads generalizing stops with
  | nil =>
      cases read
      exact .nil
  | @cons entry span entries spans first _ ih =>
      rw [List.map_cons, List.mapM_cons] at read
      obtain ⟨stop, readFirst, read⟩ := except_bind_ok read
      obtain ⟨others, readOthers, read⟩ := except_bind_ok read
      cases read
      refine .cons ?_ (ih readOthers)
      rcases first with ⟨value, given, measured⟩ | exact
      · rw [measured.stop] at readFirst
        rw [measured.size]
        exact .measured value stop given readFirst
      · rw [exact.stop, Number.toIndex] at readFirst
        split at readFirst
        · cases readFirst
          cases span.size with
          | size size => exact .known size
          | symbol name => exact .whole name
        · cases readFirst

/-- The integer of a reshape's target for a dimension, where the operand has the dimension `old`: a
known dimension stands for itself, a symbol is copied if the operand has it there and is inferred
otherwise. -/
def Dim.targetCode (old : Option Dim) (dim : Dim) : Int :=
  match dim with
  | .size count => count
  | .symbol _ => if old = some dim then 0 else -1

theorem TargetDim.code_eq_neg_one {entry : TargetDim}
    (fixed : ∀ size, entry = .fixed size → 1 ≤ size) : entry.code = -1 ↔ entry = .inferred := by
  cases entry with
  | fixed size =>
      have large := fixed size rfl
      exact iff_of_false (fun same => by rw [code] at same; omega) nofun
  | copied => exact iff_of_false nofun nofun
  | inferred => exact iff_of_true rfl rfl

namespace Shape

variable {shape newShape : Shape} {codes : List Int}

/-- The integers of a reshape's target, axis by axis. -/
theorem getElem?_targetIndices (accepted : shape.targetIndices? newShape = some codes)
    (axis : Nat) : codes[axis]? = newShape[axis]?.map (Dim.targetCode shape[axis]?) := by
  obtain ⟨target, found, _, rfl⟩ := targetIndices?_eq_some.mp accepted
  obtain ⟨_, listed, _⟩ := reshapeTarget_eq_ok.mp found
  rw [List.getElem?_map, getElem?_targetDims listed, Option.map_map, Nat.zero_add]
  refine Option.map_congr fun dim _ => ?_
  cases dim with
  | size size => rfl
  | symbol name =>
      by_cases stays : shape[axis]? = some (.symbol name)
      · simp [TargetDim.of, Dim.targetCode, TargetDim.code, stays]
      · simp [TargetDim.of, Dim.targetCode, TargetDim.code, stays]

/-- At most one dimension of a target is left to the backend. -/
theorem count_targetIndices (accepted : shape.targetIndices? newShape = some codes) :
    codes.count (-1) ≤ 1 := by
  obtain ⟨target, found, _, rfl⟩ := targetIndices?_eq_some.mp accepted
  obtain ⟨_, listed, few⟩ := reshapeTarget_eq_ok.mp found
  have positive := (targetDims_isOk shape 0).mp ⟨target, listed⟩
  refine Nat.le_trans (Nat.le_of_eq ?_) few
  rw [List.count, List.countP_map, List.count]
  refine List.countP_congr fun entry member => ?_
  have fixed : ∀ size, entry = .fixed size → 1 ≤ size := by
    rintro size rfl
    obtain ⟨axis, there⟩ := List.mem_iff_getElem?.mp member
    rw [getElem?_targetDims listed, Option.map_eq_some_iff] at there
    obtain ⟨dim, isDim, same⟩ := there
    cases dim with
    | size declared =>
        cases same
        exact positive _ (List.mem_of_getElem? isDim)
    | symbol name =>
        rw [TargetDim.of] at same
        split at same <;> cases same
  simpa using TargetDim.code_eq_neg_one fixed

end Shape

namespace Graph

/-- What a product reads of an operand, and the nodes for it: the operand itself, or its transpose
in a node of its own. -/
inductive Factor (graph : Graph) : Bool → String → String → List Node → Prop
  | itself (name : String) : Factor graph false name name []
  | transposed (tensor : Handle) (node output : String) (owned : graph.owns tensor = true)
      (ranked : 2 ≤ tensor.rank) :
      Factor graph true tensor.name output
        [⟨.transpose (swapLastTwoAxes tensor.rank), node, [tensor.name], output⟩]

/-- **The nodes of a layer.** -/
inductive Block (graph : Graph) (doubles : Prop) : Layer → List Node → Prop
  | matmul (transposeA transposeB : Bool) (name a b first second output : String)
      (before between : List Node) (readsA : graph.Factor transposeA a first before)
      (readsB : graph.Factor transposeB b second between) :
      Block graph doubles ⟨.matmul transposeA transposeB, name, [a, b], output⟩
        (before ++ between ++ [⟨.matMul, name, [first, second], output⟩])
  | sum (name a b output : String) :
      Block graph doubles ⟨.elementwise .sum, name, [a, b], output⟩ [⟨.add, name, [a, b], output⟩]
  | product (name a b output : String) :
      Block graph doubles ⟨.elementwise .product, name, [a, b], output⟩
        [⟨.mul, name, [a, b], output⟩]
  | sigmoid (name a output : String) :
      Block graph doubles ⟨.activation .sigmoid, name, [a], output⟩ [⟨.sigmoid, name, [a], output⟩]
  | tanh (name a output : String) :
      Block graph doubles ⟨.activation .tanh, name, [a], output⟩ [⟨.tanh, name, [a], output⟩]
  | slice (name : String) (a : Handle) (output starts ends axes steps : String)
      (offsets : List Int) (sizes : Shape) (strides stops : List Int)
      (owned : graph.owns a = true) (ranked : sizes.length = a.rank)
      (startsAre : graph.indices? starts = some offsets)
      (endsAre : graph.indices? ends = some stops)
      (stopsAre : Slice.Ends doubles offsets sizes strides stops)
      (axesAre : graph.indices? axes = some ((List.range a.rank).map Int.ofNat))
      (stepsAre : graph.indices? steps = some strides) :
      Block graph doubles ⟨.slice offsets sizes strides, name, [a.name], output⟩
        [⟨.slice, name, [a.name, starts, ends, axes, steps], output⟩]
  | reshape (name : String) (a : Handle) (output target : String) (shape : Shape) (codes : List Int)
      (owned : graph.owns a = true) (targetIs : graph.indices? target = some codes)
      (coded : ∀ axis : Nat, codes[axis]? = shape[axis]?.map (Dim.targetCode a.shape[axis]?))
      (inferred : codes.count (-1) ≤ 1) :
      Block graph doubles ⟨.reshape shape, name, [a.name], output⟩
        [⟨.reshape, name, [a.name, target], output⟩]

/-- **All nodes are the blocks of the layers**, in order. The last node of a block has the name and
the output of its layer. -/
def Described (graph : Graph) (doubles : Prop) : Prop :=
  ∃ blocks : List (List Node), graph.nodes = blocks.flatten ∧
    List.Forall₂ (fun layer block => graph.Block doubles layer block ∧
      ∃ last, block.getLast? = some last ∧ last.name = layer.name ∧ last.output = layer.output)
      graph.layers blocks

/-! ### Later graphs -/

variable {graph later : Graph} {doubles : Prop}

/-- A constant that is found is found in every later graph. -/
theorem Grown.keeps_indices (grown : graph.Grown later) {name : String} {values : List Int}
    (found : graph.indices? name = some values) : later.indices? name = some values := by
  obtain ⟨additions, grows⟩ := grown
  unfold indices? at found ⊢
  rw [grows.constants, List.find?_append]
  cases first : graph.constants.find? fun constant => constant.name = name with
  | none =>
      rw [first] at found
      cases found
  | some constant => rwa [first] at found

theorem Factor.keeps {swap : Bool} {name read : String} {nodes : List Node}
    (factor : graph.Factor swap name read nodes) (grown : graph.Grown later) :
    later.Factor swap name read nodes := by
  cases factor with
  | itself => exact .itself name
  | transposed tensor node _ owned ranked =>
      exact .transposed tensor node read (grown.keeps_owns owned) ranked

/-- The nodes of a layer stay so. -/
theorem Block.keeps {layer : Layer} {nodes : List Node} (block : graph.Block doubles layer nodes)
    (grown : graph.Grown later) : later.Block doubles layer nodes := by
  cases block with
  | matmul transposeA transposeB name a b first second output before between readsA readsB =>
      exact .matmul transposeA transposeB name a b first second output before between
        (readsA.keeps grown) (readsB.keeps grown)
  | sum name a b output => exact .sum name a b output
  | product name a b output => exact .product name a b output
  | sigmoid name a output => exact .sigmoid name a output
  | tanh name a output => exact .tanh name a output
  | slice name a output starts ends axes steps offsets sizes strides stops owned ranked startsAre
      endsAre stopsAre axesAre stepsAre =>
      exact .slice name a output starts ends axes steps offsets sizes strides stops
        (grown.keeps_owns owned) ranked (grown.keeps_indices startsAre)
        (grown.keeps_indices endsAre) stopsAre (grown.keeps_indices axesAre)
        (grown.keeps_indices stepsAre)
  | reshape name a output target shape codes owned targetIs coded inferred =>
      exact .reshape name a output target shape codes (grown.keeps_owns owned)
        (grown.keeps_indices targetIs) coded inferred

/-- The last node of a block has the name and the output of the layer. -/
theorem Block.last {layer : Layer} {nodes : List Node} (block : graph.Block doubles layer nodes) :
    ∃ last, nodes.getLast? = some last ∧ last.name = layer.name ∧ last.output = layer.output := by
  cases block with
  | matmul => exact ⟨_, List.getLast?_concat, rfl, rfl⟩
  | sum => exact ⟨_, rfl, rfl, rfl⟩
  | product => exact ⟨_, rfl, rfl, rfl⟩
  | sigmoid => exact ⟨_, rfl, rfl, rfl⟩
  | tanh => exact ⟨_, rfl, rfl, rfl⟩
  | slice => exact ⟨_, rfl, rfl, rfl⟩
  | reshape => exact ⟨_, rfl, rfl, rfl⟩

/-- The integers of a constant that was added are found in the graph. -/
theorem Grows.indices?_added {before : Graph} {additions : List Addition}
    (grows : before.Grows additions later) (single : later.SingleAssignment) {name : String}
    {values : List Int} (member : .constant ⟨name, .indices values⟩ ∈ additions) :
    later.indices? name = some values := by
  refine indices?_of_mem (List.nodup_append.mp (List.nodup_append.mp single.distinct).1).2.1 ?_
  rw [grows.constants]
  exact List.mem_append_right _ (List.mem_filterMap.mpr ⟨_, member, rfl⟩)

/-! ### The block of an accepted call -/

section Accepted

variable {before : Graph} {additions : List Addition}

theorem factor_of_additions (grows : before.Grows additions later) (swap : Bool) {tensor : Handle}
    {matrix read : MatrixShape} {layer operand name : String} (owned : before.owns tensor = true)
    (shaped : MatrixShape.ofShape? tensor.shape = some matrix)
    (unswapped : swap = false → name = tensor.name) :
    later.Factor swap tensor.name name
      ((Build.factorAdditions swap tensor read layer operand name).filterMap Addition.node?) := by
  cases swap with
  | false =>
      rw [unswapped rfl]
      exact .itself tensor.name
  | true =>
      refine .transposed tensor _ name (grows.keeps_owns owned) ?_
      have ranked : (MatrixShape.ofShape? tensor.shape).isSome = true := by rw [shaped]; rfl
      rwa [MatrixShape.ofShape?_isSome, decide_eq_true_eq] at ranked

/-- **The nodes of an accepted call** are the block of its layer; an input or a literal has
neither. -/
theorem block_of_adds {call : Call} {output : Handle} (adds : call.Adds output additions)
    (grows : before.Grows additions later) (single : later.SingleAssignment)
    (owned : ∀ tensor ∈ call.operands, before.owns tensor = true) (exact : call.Exact ∨ doubles) :
    (additions.filterMap Addition.layer? = [] ∧ additions.filterMap Addition.node? = []) ∨
      ∃ layer, additions.filterMap Addition.layer? = [layer] ∧
        later.Block doubles layer (additions.filterMap Addition.node?) := by
  cases adds with
  | input name shape dtype => exact Or.inl ⟨rfl, rfl⟩
  | literal value given name => exact Or.inl ⟨rfl, rfl⟩
  | slice a _ offsets sizes strides spans indices layer starts ends axes steps asked fit typed =>
      have count := Handle.length_spans asked
      obtain ⟨read, ⟨startsAre, axesAre, stepsAre⟩, _⟩ := (Span.indices?_eq_some count).mp fit
      have stops := Slice.ends_of_reads ((Handle.reads_of_spans asked).imp fun _ _ reads =>
        reads.imp_left fun ⟨value, member, measured⟩ =>
          ⟨value, exact.resolve_left fun none => none value member, measured⟩) read
      have found {name : String} {values : List Int} (member : .constant ⟨name, .indices values⟩ ∈
          sliceAdditions a spans indices layer starts ends axes steps output) :=
        grows.indices?_added single member
      refine Or.inr ⟨_, rfl, .slice layer a output.name starts ends axes steps _ _ _ indices.ends
        (grows.keeps_owns (owned a List.mem_cons_self)) ?_ ?_ ?_ stops ?_ ?_⟩
      · rw [List.length_map, count]
      · rw [← startsAre]
        exact found (by simp [sliceAdditions])
      · exact found (by simp [sliceAdditions])
      · rw [← axesAre]
        exact found (by simp [sliceAdditions])
      · rw [← stepsAre]
        exact found (by simp [sliceAdditions])
  | request request _ _ unsliced typed adds =>
      rw [Call.operands_request] at owned
      refine Or.inr ?_
      cases adds with
      | matmul a b _ transposeA transposeB first second layer firstName secondName firstShape
          secondShape firstRead secondRead =>
          refine ⟨⟨.matmul transposeA transposeB, layer, [a.name, b.name], output.name⟩, ?_, ?_⟩
          · rw [List.filterMap_append, List.filterMap_append, Request.layers_factorAdditions,
              Request.layers_factorAdditions]
            rfl
          · rw [List.filterMap_append, List.filterMap_append]
            exact .matmul transposeA transposeB layer a.name b.name firstName secondName output.name
              _ _ (factor_of_additions grows transposeA (owned a List.mem_cons_self) firstShape
                firstRead)
              (factor_of_additions grows transposeB
                (owned b (List.mem_cons_of_mem _ List.mem_cons_self)) secondShape secondRead)
      | elementwise a b _ op layer =>
          cases op with
          | sum => exact ⟨_, rfl, .sum layer a.name b.name output.name⟩
          | product => exact ⟨_, rfl, .product layer a.name b.name output.name⟩
      | activation a _ kind layer =>
          cases kind with
          | sigmoid => exact ⟨_, rfl, .sigmoid layer a.name output.name⟩
          | tanh => exact ⟨_, rfl, .tanh layer a.name output.name⟩
      | slice => exact absurd rfl unsliced
      | reshape a _ shape target layer name accepted =>
          refine ⟨_, rfl, .reshape layer a output.name name shape target
            (grows.keeps_owns (owned a List.mem_cons_self))
            (grows.indices?_added single List.mem_cons_self) ?_ ?_⟩
          · exact Shape.getElem?_targetIndices accepted
          · exact Shape.count_targetIndices accepted

end Accepted

/-! ### Programs -/

theorem Described.empty : Graph.empty.Described doubles :=
  ⟨[], rfl, .nil⟩

/-- Growth by constants alone, or by one more block and its layer. -/
theorem Described.grow {before : Graph} {additions : List Addition}
    (described : before.Described doubles) (grows : before.Grows additions later)
    (block : (additions.filterMap Addition.layer? = [] ∧
        additions.filterMap Addition.node? = []) ∨
      ∃ layer, additions.filterMap Addition.layer? = [layer] ∧
        later.Block doubles layer (additions.filterMap Addition.node?)) :
    later.Described doubles := by
  obtain ⟨blocks, nodes, each⟩ := described
  have still : List.Forall₂ (fun layer block => later.Block doubles layer block ∧
      ∃ last, block.getLast? = some last ∧ last.name = layer.name ∧ last.output = layer.output)
      before.layers blocks :=
    each.imp fun _ _ is => ⟨is.1.keeps ⟨additions, grows⟩, is.2⟩
  unfold Described
  rw [grows.nodes, grows.layers, nodes]
  rcases block with ⟨layers, none⟩ | ⟨layer, layers, is⟩
  · rw [layers, none, List.append_nil, List.append_nil]
    exact ⟨blocks, rfl, still⟩
  · rw [layers]
    refine ⟨blocks ++ [additions.filterMap Addition.node?], ?_, ?_⟩
    · rw [List.flatten_concat]
    · exact List.rel_append still (.cons ⟨is, is.last⟩ .nil)

/-- **Every program of calls** leaves a graph whose nodes are the blocks of its layers. The ends of
slices are exact if no call has doubles. -/
theorem Yields.described {allowed : Call → Prop} (yields : Graph.empty.Yields allowed graph)
    (exact : ∀ call, allowed call → call.Exact ∨ doubles) : graph.Described doubles := by
  let holds (graph : Graph) : Prop := graph.SingleAssignment ∧ graph.Described doubles
  have both : holds graph := by
    refine yields.keeps ?_ ?_ (show holds .empty from ⟨.empty, .empty⟩)
    · rintro call before output additions later permitted owned adds grows ⟨single, described⟩
      have after := SingleAssignment.of_grows grows single
      exact ⟨after, described.grow grows
        (block_of_adds adds grows after owned (exact call permitted))⟩
    · rintro before constants later grows ⟨single, described⟩
      exact ⟨SingleAssignment.of_grows grows single, described.grow grows
        (Or.inl ⟨Grows.filterMap_constants (fun _ => rfl) constants,
          Grows.filterMap_constants (fun _ => rfl) constants⟩)⟩
  exact both.2

end Graph

/-- **The layers and the nodes of every graph** that calls and lowerings make of the empty one,
however each of them ends, describe one program: the nodes are the blocks of the layers, in order.
If no call has doubles among its arguments, each slice ends where its integers and symbols say. -/
theorem reachable_described :
    (∀ graph, Graph.empty.Reaches graph → graph.Described True) ∧
      ∀ graph, Graph.empty.Yields Call.Exact graph → graph.Described False :=
  ⟨fun _ reached => reached.yields.described fun _ _ => Or.inr trivial,
    fun _ yields => yields.described fun _ exact => Or.inl exact⟩

/-- Every other column of a product with transposed weights. -/
def Graph.thinned : Graph :=
  Graph.empty.after
    [.addInput "x" [.symbol "n", .size 3] .float32, .addInput "w" [.size 4, .size 3] .float32,
      .matmul ⟨"x", [.symbol "n", .size 3], .float32⟩ ⟨"w", [.size 4, .size 3], .float32⟩ false true,
      .slice ⟨"matmul_1_out", [.symbol "n", .size 4], .float32⟩ [some 0, some 1]
        [.dim (.symbol "n"), .dim (.size 2)] [some 1, some 2]]

/-- The product has two nodes, and the slice ends behind the last column that it reads. -/
theorem thinned_described :
    Graph.thinned.layers.map Layer.name = ["matmul_1", "slice_2"] ∧
      Graph.thinned.nodes.map Node.name = ["matmul_1_transpose_b", "matmul_1", "slice_2"] ∧
      Graph.thinned.indices? "slice_2_ends" = some [indexMax, 4] ∧
      Graph.thinned.Described True ∧ Graph.thinned.Described False := by
  have yields : Graph.empty.Yields Call.Exact Graph.thinned := by
    refine Graph.yields_after _ _ ?_
    simp [Call.Exact]
  exact ⟨by decide, by decide, by decide, reachable_described.1 _ yields.reaches,
    reachable_described.2 _ yields⟩

end OperatorLowering
