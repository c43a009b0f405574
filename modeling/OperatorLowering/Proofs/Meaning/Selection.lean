/-
**A slice selects what was asked for.**

A slice is steered by constants: its starts, its ends right behind the last positions, or at the
greatest index where the size is a symbol, and its steps. Read as the backend reads them, they give
along each axis as many positions as the size says, from the offset on and a stride apart, all
inside the dimension. A slice is accepted exactly if every axis may be sliced so and the constants
hold all integers:

* `Shape.Sliced.allFit_iff`: when the constants hold their integers;
* `Shape.Sliced.reads`: what is read along each axis;
* `slice_selects`: accepted slices, and what they compute.
-/

import OperatorLowering.Proofs.Lowering.Reachable
import OperatorLowering.Proofs.Meaning.Positions
import OperatorLowering.Proofs.Meaning.Request

namespace OperatorLowering

variable {sizes : String → Nat}

/-! ### Integers that fit -/

theorem all_fitsIndex_iff {values : List Int} (nonneg : ∀ value ∈ values, 0 ≤ value) :
    values.all fitsIndex = true ↔ ∀ value ∈ values, value ≤ indexMax := by
  rw [List.all_eq_true]
  exact forall₂_congr fun value member => fitsIndex_nonneg (nonneg value member)

namespace Shape.Sliced

variable {shape counts : Shape} {offsets strides : List Int}

/-- No integer of an accepted slice is negative. -/
theorem nonneg (sliced : shape.Sliced offsets counts strides) :
    (∀ offset ∈ offsets, 0 ≤ offset) ∧
      (∀ stop ∈ Span.stopsFor offsets counts strides, 0 ≤ stop) ∧
        ∀ stride ∈ strides, 0 ≤ stride := by
  induction sliced with
  | nil => exact ⟨nofun, nofun, nofun⟩
  | cons first _ ih =>
      obtain ⟨starts, stops, steps⟩ := ih
      refine ⟨List.forall_mem_cons.mpr ⟨first.1, starts⟩,
        List.forall_mem_cons.mpr ⟨first.stop_nonneg, stops⟩,
        List.forall_mem_cons.mpr ⟨Int.le_trans (by decide) first.2.1, steps⟩⟩

/-- **The constants of an accepted slice** hold their integers if none of these is too large. -/
theorem allFit_iff (sliced : shape.Sliced offsets counts strides) :
    Span.AllFit offsets counts strides ↔
      (∀ value ∈ offsets ++ strides ++ Span.stopsFor offsets counts strides, value ≤ indexMax) ∧
        ∀ axis : Nat, axis < shape.length → (axis : Int) ≤ indexMax := by
  obtain ⟨starts, stops, steps⟩ := sliced.nonneg
  have axes : ((List.range counts.length).map Int.ofNat).all fitsIndex = true ↔
      ∀ axis : Nat, axis < shape.length → (axis : Int) ≤ indexMax := by
    rw [all_fitsIndex_iff fun axis member => ((axes_inOrder counts.length).2 axis member).1,
      sliced.lengths.2.1, List.forall_mem_map]
    simp only [List.mem_range, Int.ofNat_eq_natCast]
  unfold Span.AllFit
  rw [axes, all_fitsIndex_iff starts, all_fitsIndex_iff stops, all_fitsIndex_iff steps,
    List.forall_mem_append, List.forall_mem_append]
  constructor
  · intro fit
    obtain ⟨one, two, three, four⟩ := fit
    exact ⟨⟨⟨one, four⟩, two⟩, three⟩
  · intro fit
    obtain ⟨⟨⟨one, four⟩, two⟩, three⟩ := fit
    exact ⟨one, two, three, four⟩

end Shape.Sliced

/-! ### Positions -/

/-- **What is read along one axis**: as many positions as the size says, from the offset on, a
stride apart, all inside; the whole axis if the size is a symbol. -/
structure Dim.Selects (sizes : String → Nat) (dim : Dim) (offset : Int) (size : Dim) (stride : Int)
    (read : List Nat) : Prop where
  positions : read.map Int.ofNat =
    (List.range (size.under sizes)).map fun place : Nat => offset + place * stride
  inside : ∀ position ∈ read, position < dim.under sizes
  whole : ∀ name, size = .symbol name → read = List.range (dim.under sizes)

/-- **The positions of an axis** that may be sliced so. -/
theorem Dim.Sliced.selects (inRange : SizesInRange sizes) {dim size : Dim} {offset stride : Int}
    (sliced : dim.Sliced offset size stride)
    (covered : ∀ name count, dim = .symbol name → size = .size count →
      offset + (count - 1) * stride < sizes name) :
    dim.Selects sizes offset size stride
      (List.range' offset.toNat (size.under sizes) stride.toNat) where
  positions := by
    have least := sliced.1
    have positive := sliced.2.1
    refine List.ext_getElem (by simp) fun place _ _ => ?_
    rw [List.getElem_map, List.getElem_map, List.getElem_range', List.getElem_range]
    show ((offset.toNat + stride.toNat * place : Nat) : Int) = offset + place * stride
    rw [Int.natCast_add, Int.natCast_mul, Int.toNat_of_nonneg least,
      Int.toNat_of_nonneg (Int.le_trans (by decide) positive), Int.mul_comm]
  inside position member := by
    obtain ⟨place, found⟩ := List.getElem?_of_mem member
    exact ((Tensor.getElem?_positions? (positions?_under
      (fun name _ => (inRange name).2) sliced covered) place position).mp found).2.2
  whole name isSymbol := by
    subst isSymbol
    obtain ⟨_, _, rfl, rfl, rfl⟩ := sliced
    exact List.range_eq_range'.symm

/-- **The positions of all axes**, one after the other. -/
theorem Shape.Sliced.reads (inRange : SizesInRange sizes) {shape counts : Shape}
    {offsets strides : List Int} (sliced : shape.Sliced offsets counts strides)
    (covers : shape.Covers sizes offsets counts strides) (axis : Nat)
    (inside : axis < shape.length) :
    ∃ dim offset size stride read, shape[axis]? = some dim ∧ offsets[axis]? = some offset ∧
      counts[axis]? = some size ∧ strides[axis]? = some stride ∧
      (Shape.selected sizes offsets counts strides)[axis]? = some read ∧
      dim.Selects sizes offset size stride read := by
  induction sliced generalizing axis with
  | nil => exact absurd inside (Nat.not_lt_zero axis)
  | @cons dim size offset stride shape counts offsets strides first _ ih =>
      cases axis with
      | zero =>
          refine ⟨dim, offset, size, stride, _, rfl, rfl, rfl, rfl, rfl, first.selects inRange ?_⟩
          intro name count isName isCount
          exact covers 0 name count offset stride (congrArg some isName) (congrArg some isCount)
            rfl rfl
      | succ axis => exact ih (fun axis => covers (axis + 1)) axis (Nat.lt_of_succ_lt_succ inside)

/-! ### The slice -/

/-- **What an accepted slice is**, between the graph before and the graph after it. -/
structure Selected (a out : Handle) (offsets : List Int) (counts : Shape) (strides : List Int)
    (before after : Graph) : Prop where
  type : out.type = ⟨counts, a.dtype⟩
  /-- One node was appended, with the constants for what was asked. For all sizes of the symbols by
  which the slice finds its elements, the positions that it reads are those that were asked for along
  each axis; and for all values of the operand, its result is picked at these positions. -/
  node : ∃ node, after.nodes = before.nodes ++ [node] ∧
    after.Slices node a out offsets counts strides ∧
    ∀ sizes, SizesInRange sizes → a.shape.Covers sizes offsets counts strides →
      ∃ positions, after.slicePositions? node (a.shape.under sizes) = some positions ∧
        positions.map List.length = counts.under sizes ∧
        (∀ axis, axis < a.rank → ∃ dim offset size stride read, a.shape[axis]? = some dim ∧
          offsets[axis]? = some offset ∧ counts[axis]? = some size ∧
          strides[axis]? = some stride ∧ positions[axis]? = some read ∧
          dim.Selects sizes offset size stride read) ∧
        ∀ {Element : Type} (arithmetic : Arithmetic Element) (tensor : Tensor Element)
          (environment : Environment Element), environment.read a = some ⟨a.type, tensor⟩ →
          tensor.dims = a.shape.under sizes →
          ∃ final, before.evaluateSince? after arithmetic environment = some final ∧
            final.read out = some ⟨out.type, tensor.pick positions⟩

/-- **An accepted slice** selects what was asked for. -/
theorem Request.Accepted.selected {a out : Handle} {offsets strides : List Int} {counts : Shape}
    {before after : Graph} (single : after.SingleAssignment)
    (accepted : (Request.slice a offsets counts strides).Accepted before out after) :
    Selected a out offsets counts strides before after := by
  obtain ⟨sliced, _, type⟩ := Request.type?_slice.mp accepted.typed
  obtain ⟨node, appended, slices⟩ := Request.slices_of_accepted single accepted
  refine ⟨type, node, appended, slices, fun sizes inRange covers => ?_⟩
  have positions : Tensor.slicePositions? _ _ _ _ (a.shape.under sizes) = _ :=
    Tensor.slicePositions?_under (fun name _ => (inRange name).2) sliced covers
  refine ⟨_, (slices.positions _).trans positions, sliced.length_selected,
    sliced.reads inRange covers, ?_⟩
  intro Element arithmetic tensor environment read dims
  have reads : (Request.slice a offsets counts strides).traverse environment.read =
      some (.slice ⟨a.type, tensor⟩ offsets counts strides) := by
    simp only [Request.traverse, read]
    rfl
  refine accepted.evaluatesSince reads ?_
  show tensor.slice? _ _ _ _ = _
  rw [Tensor.slice?, dims, positions]
  rfl

/-- **A slice selects what was asked for**, in every graph that calls lead to. A slice of an owned
tensor at integers is accepted if and only if it takes symbolic axes whole and reads known ones
inside, and 64 bits hold its offsets, strides, ends and axes. The node of an accepted slice reads
along each axis the positions from its offset on, a stride apart, as many as its size. -/
theorem slice_selects (a : Handle) (offsets : List Int) (counts : Shape) (strides : List Int)
    (graph : Graph) (reached : Graph.empty.Reaches graph) (owned : graph.owns a = true) :
    ((∃ out after, Build.slice a (offsets.map some) (counts.map .dim) (strides.map some) graph =
        .ok out after) ↔
      a.shape.Sliced offsets counts strides ∧
      (∀ value ∈ offsets ++ strides ++ Span.stopsFor offsets counts strides, value ≤ indexMax) ∧
      ∀ axis : Nat, axis < a.rank → (axis : Int) ≤ indexMax) ∧
    ∀ out after, Build.slice a (offsets.map some) (counts.map .dim) (strides.map some) graph =
      .ok out after → Selected a out offsets counts strides graph after := by
  have ends := Request.build_ends (.slice a offsets counts strides) graph
  refine ⟨⟨?_, ?_⟩, fun out after run => ?_⟩
  · intro returns
    obtain ⟨out, after, run⟩ := returns
    obtain ⟨sliced, fit, _⟩ := Request.type?_slice.mp (ends.ok run).typed
    exact ⟨sliced, sliced.allFit_iff.mp fit⟩
  · intro accepted
    obtain ⟨sliced, fit⟩ := accepted
    have typed : ((Request.slice a offsets counts strides).map Handle.type).type? =
        some ⟨counts, a.dtype⟩ :=
      Request.type?_slice.mpr ⟨sliced, sliced.allFit_iff.mpr fit, rfl⟩
    obtain ⟨out, after, run, _⟩ :=
      Request.accepts (fun tensor member => List.mem_singleton.mp member ▸ owned) typed
    exact ⟨out, after, run⟩
  · have accepted := ends.ok run
    refine accepted.selected ?_
    obtain ⟨additions, _, grows⟩ := accepted.grows
    obtain ⟨_, all⟩ := reached.grown.trans ⟨additions, grows⟩
    exact .of_grows all .empty

/-- Nine columns for a batch of symbolic size. -/
def Handle.nine : Handle := ⟨"x", [.symbol "n", .size 9], .float32⟩

/-- A graph that has them as its input. -/
def Graph.nine : Graph :=
  final (Call.addInput "x" [.symbol "n", .size 9] .float32).build .empty

/-- Every third column of five rows, from the second on. -/
theorem slice_selects_thirds :
    ∃ out after node, Build.slice .nine [some 0, some 1] [.dim (.symbol "n"), .dim (.size 3)]
        [some 1, some 3] .nine = .ok out after ∧
      out.shape = [.symbol "n", .size 3] ∧ after.nodes = [node] ∧
      after.slicePositions? node [5, 9] = some [List.range 5, [1, 4, 7]] := by
  have reached : Graph.empty.Reaches .nine :=
    .call .empty (.addInput "x" [.symbol "n", .size 9] .float32) (.start .empty)
  have sliced : Shape.Sliced [.symbol "n", .size 9] [0, 1] [.symbol "n", .size 3] [1, 3] := by
    refine .cons ⟨by decide, by decide, rfl, rfl, rfl⟩ ?_
    refine .cons ⟨by decide, by decide, by decide, ?_⟩ .nil
    rintro _ ⟨⟩
    decide
  have covers : Shape.Covers (fun _ => 5) [.symbol "n", .size 9] [0, 1] [.symbol "n", .size 3]
      [1, 3] := by
    intro axis name count offset stride hasDim hasCount _ _
    match axis with
    | 0 => cases hasCount
    | 1 => cases hasDim
  obtain ⟨accepts, selects⟩ := slice_selects .nine [0, 1] [.symbol "n", .size 3] [1, 3] .nine
    reached (by decide)
  obtain ⟨out, after, run⟩ := accepts.mpr ⟨sliced, by decide, by decide⟩
  obtain ⟨type, node, appended, _, positions⟩ := selects out after run
  obtain ⟨positions, reads, lengths, each, _⟩ :=
    positions (fun _ => 5) (fun _ => ⟨show 1 ≤ 5 by decide, show 5 ≤ indexMax by decide⟩) covers
  refine ⟨out, after, node, run, congrArg TensorType.shape type, appended, ?_⟩
  obtain ⟨_, _, _, _, rows, hasDim, _, hasSize, _, isRows, selected⟩ := each 0 (by decide)
  obtain ⟨_, _, _, _, columns, _, hasOffset, hasSize', hasStride, isColumns, selected'⟩ :=
    each 1 (by decide)
  cases hasDim
  cases hasSize
  cases hasOffset
  cases hasSize'
  cases hasStride
  have rows_eq : rows = List.range 5 := selected.whole "n" rfl
  have columns_eq : columns = [1, 4, 7] :=
    List.map_injective_iff.mpr (fun _ _ => Int.ofNat.inj) selected'.positions
  have two : positions.length = 2 := (List.length_map _).symm.trans (congrArg List.length lengths)
  obtain ⟨first, second, rfl⟩ := List.length_eq_two.mp two
  cases isRows
  cases isColumns
  rw [← rows_eq, ← columns_eq]
  exact reads

end OperatorLowering
