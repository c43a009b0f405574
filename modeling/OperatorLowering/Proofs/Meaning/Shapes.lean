/-
**Declared shapes are inferred ones.**

Shapes with symbols are checked as they stand. Once the symbols have sizes, the shape rules of the
backend have to give the declared shapes again. They do for products of matrices and for transposes;
a slice must find its elements on the axes whose size was not known (`Shape.Covers`), and a reshape
must keep the number of elements.

* `transposeDims?_under`, `matmulDims?_under`: products;
* `Tensor.slicePositions?_under`, `sliceDims?_under`: slices;
* `targetDims?_under`: reshapes.
-/

import Mathlib.Algebra.Order.BigOperators.GroupWithZero.List
import Mathlib.Algebra.Order.Ring.Nat
import Mathlib.Data.List.ReduceOption
import OperatorLowering.Proofs.Graph.Ranges
import OperatorLowering.Proofs.Meaning.Extents

namespace OperatorLowering

/-- Symbols stand for sizes that are not zero and that an index constant holds. -/
def SizesInRange (sizes : String → Nat) : Prop :=
  ∀ symbol, 1 ≤ sizes symbol ∧ (sizes symbol : Int) ≤ indexMax

variable {sizes : String → Nat}

theorem Shape.under_append (first second : Shape) :
    Shape.under sizes (first ++ second) = first.under sizes ++ second.under sizes :=
  List.map_append

/-! ### Products -/

/-- The last two dimensions are exchanged. -/
theorem transposeDims?_swap (batch : List Nat) (rows columns : Nat) :
    transposeDims? (swapLastTwoAxes (batch.length + 2)) (batch ++ [rows, columns]) =
      some (batch ++ [columns, rows]) := by
  have axes : swapLastTwoAxes (batch.length + 2) =
      List.range batch.length ++ [batch.length + 1, batch.length] := rfl
  have exchanges : (swapLastTwoAxes (batch.length + 2)).isPerm
      (List.range (batch ++ [rows, columns]).length) = true := by
    have all : List.range (batch ++ [rows, columns]).length =
        List.range batch.length ++ [batch.length, batch.length + 1] := by
      rw [List.length_append, List.length_cons, List.length_singleton, List.range_succ,
        List.range_succ, List.append_assoc]
      rfl
    rw [List.isPerm_iff, axes, all]
    exact List.Perm.append_left _ (List.Perm.swap _ _ _)
  have front : (List.range batch.length).map (fun axis => (batch ++ [rows, columns]).getD axis 0) =
      batch := by
    refine List.ext_getElem (by rw [List.length_map, List.length_range]) ?_
    intro axis _ inside
    rw [List.getElem_map, List.getElem_range, List.getD_eq_getElem?_getD,
      List.getElem?_append_left inside, List.getElem?_eq_getElem inside]
    rfl
  unfold transposeDims?
  rw [if_pos exchanges, axes, List.map_append, front]
  simp [List.getD_eq_getElem?_getD]

/-- A transposed stack of matrices has the dimensions of its transposed shape. -/
theorem transposeDims?_under (matrix : MatrixShape) :
    transposeDims? (swapLastTwoAxes matrix.toShape.length) (matrix.toShape.under sizes) =
      some (matrix.transpose.toShape.under sizes) := by
  have rank : matrix.toShape.length = (matrix.batch.under sizes).length + 2 := by
    rw [Shape.length_under]
    exact List.length_append
  rw [rank, MatrixShape.toShape, MatrixShape.toShape, Shape.under_append, Shape.under_append]
  exact transposeDims?_swap _ _ _

/-- **Stacks of matrices that multiply** have dimensions that do. -/
theorem matmulDims?_under {first second : MatrixShape} {batch : Shape}
    (inner : first.columns = second.rows)
    (batches : first.batch.broadcast? second.batch = some batch) :
    matmulDims? (first.toShape.under sizes) (second.toShape.under sizes) =
      some (Shape.under sizes (batch ++ [first.rows, second.columns])) := by
  have reversed (matrix : MatrixShape) : (matrix.toShape.under sizes).reverse =
      matrix.columns.under sizes :: matrix.rows.under sizes ::
        (matrix.batch.under sizes).reverse := by
    rw [MatrixShape.toShape, Shape.under_append, List.reverse_append]
    rfl
  unfold matmulDims?
  rw [reversed, reversed]
  simp only [inner, if_true, List.reverse_reverse]
  rw [broadcastDims?_under batches, Shape.under_append]
  rfl

/-! ### Slices -/

/-- An axis has the last position that a slice reads there. -/
theorem Dim.Sliced.last_lt {dim : Dim} {offset count stride : Int}
    (sliced : dim.Sliced offset (.size count) stride)
    (covered : ∀ name, dim = .symbol name → offset + (count - 1) * stride < sizes name) :
    offset + (count - 1) * stride < dim.under sizes := by
  obtain ⟨least, positive, nonempty, bounded⟩ := sliced
  cases dim with
  | symbol name => exact covered name rfl
  | size bound =>
      have inside := bounded bound rfl
      have steps : 0 ≤ (count - 1) * stride := Int.mul_nonneg (by omega) (by omega)
      show _ < (bound.toNat : Int)
      omega

/-- What a slice reads along an axis does not end before the axis begins. -/
theorem Dim.Sliced.stop_nonneg {dim size : Dim} {offset stride : Int}
    (sliced : dim.Sliced offset size stride) : 0 ≤ Span.stopFor offset size stride := by
  cases size with
  | symbol name => exact (show (0 : Int) ≤ indexMax by decide)
  | size count =>
      obtain ⟨least, positive, nonempty, _⟩ := sliced
      have steps : 0 ≤ (count - 1) * stride := Int.mul_nonneg (by omega) (by omega)
      show 0 ≤ offset + (count - 1) * stride + 1
      omega

/-- **The positions in reach** of a slice along one axis are as many as it declares. -/
theorem Dim.Sliced.reach_iff {dim size : Dim} {offset stride : Int}
    (fits : ∀ name, dim = .symbol name → (sizes name : Int) ≤ indexMax)
    (sliced : dim.Sliced offset size stride)
    (covered : ∀ name count, dim = .symbol name → size = .size count →
      offset + (count - 1) * stride < sizes name) {place position : Nat}
    (here : (position : Int) = offset + place * stride) :
    position < Span.stopFor offset size stride ∧ position < dim.under sizes ↔
      place < size.under sizes := by
  cases size with
  | symbol name =>
      obtain ⟨_, _, rfl, rfl, rfl⟩ := sliced
      have most := fits name rfl
      show (position : Int) < indexMax ∧ position < sizes name ↔ place < sizes name
      omega
  | size count =>
      have last := sliced.last_lt fun name isName => covered name count isName rfl
      obtain ⟨_, positive, nonempty, _⟩ := sliced
      have step : (0 : Int) < stride := by omega
      have counted : (place : Int) * stride ≤ (count - 1) * stride ↔ (place : Int) ≤ count - 1 :=
        Int.mul_le_mul_iff_of_pos_right step
      show (position : Int) < offset + (count - 1) * stride + 1 ∧ _ ↔ place < count.toNat
      omega

/-- **Along one axis** a slice reads the positions that it is asked for: as many as it declares,
from its offset on, a stride apart. -/
theorem positions?_under {dim size : Dim} {offset stride : Int}
    (fits : ∀ name, dim = .symbol name → (sizes name : Int) ≤ indexMax)
    (sliced : dim.Sliced offset size stride)
    (covered : ∀ name count, dim = .symbol name → size = .size count →
      offset + (count - 1) * stride < sizes name) :
    Tensor.positions? offset (Span.stopFor offset size stride) stride (dim.under sizes) =
      some (List.range' offset.toNat (size.under sizes) stride.toNat) := by
  have reads : ∃ read, Tensor.positions? offset (Span.stopFor offset size stride) stride
      (dim.under sizes) = some read :=
    ⟨_, if_pos ⟨sliced.1, sliced.stop_nonneg, sliced.2.1⟩⟩
  obtain ⟨read, reads⟩ := reads
  rw [reads, Option.some.injEq]
  apply List.ext_getElem?
  intro place
  ext position
  rw [Tensor.getElem?_positions? reads,
    Tensor.getElem?_steps sliced.1 (Int.le_trans (by decide) sliced.2.1)]
  exact and_congr_right fun here => sliced.reach_iff fits covered here

theorem Span.getElem?_stopsFor {offsets strides : List Int} {counts : Shape} {axis : Nat}
    {offset stride : Int} {size : Dim} (hasOffset : offsets[axis]? = some offset)
    (hasSize : counts[axis]? = some size) (hasStride : strides[axis]? = some stride) :
    (stopsFor offsets counts strides)[axis]? = some (stopFor offset size stride) := by
  induction axis generalizing offsets counts strides with
  | zero =>
      cases offsets <;> cases counts <;> cases strides <;> simp_all [stopsFor]
  | succ axis ih =>
      cases offsets <;> cases counts <;> cases strides <;> simp_all [stopsFor]

/-- Axes in order are distinct, and each is one of the operand's. -/
theorem axes_inOrder (count : Nat) :
    ((List.range count).map Int.ofNat).Nodup ∧
      ∀ axis ∈ (List.range count).map Int.ofNat, 0 ≤ axis ∧ axis < count := by
  refine ⟨List.Nodup.map (fun _ _ => Int.ofNat.inj) List.nodup_range, fun axis member => ?_⟩
  obtain ⟨place, inside, rfl⟩ := List.mem_map.mp member
  exact ⟨Int.natCast_nonneg place, Int.ofNat_lt.mpr (List.mem_range.mp inside)⟩

/-- **Where all axes are listed** in order, each is read by its own offset and stride. -/
theorem axisPositions?_listed {offsets strides : List Int} {counts : Shape} {axis : Nat}
    {offset stride : Int} {size : Dim} (hasOffset : offsets[axis]? = some offset)
    (hasSize : counts[axis]? = some size) (hasStride : strides[axis]? = some stride) (dim : Nat) :
    Tensor.axisPositions? offsets (Span.stopsFor offsets counts strides)
        ((List.range counts.length).map Int.ofNat) strides dim axis =
      Tensor.positions? offset (Span.stopFor offset size stride) stride dim := by
  have inside : axis < counts.length := (List.getElem?_eq_some_iff.mp hasSize).1
  have place : ((List.range counts.length).map Int.ofNat).idxOf? (axis : Int) = some axis := by
    refine List.idxOf?_eq_some_iff.mpr ⟨by simpa using inside, by simp, ?_⟩
    intro other before same
    rw [List.getElem_map, List.getElem_range] at same
    exact absurd (Int.ofNat.inj same) (Nat.ne_of_lt before)
  unfold Tensor.axisPositions?
  simp only [place, hasOffset, hasStride, Span.getElem?_stopsFor hasOffset hasSize hasStride]
  rfl

/-- A slice finds its elements on the axes whose size was not known. -/
def Shape.Covers (sizes : String → Nat) (shape : Shape) (offsets : List Int) (counts : Shape)
    (strides : List Int) : Prop :=
  ∀ (axis : Nat) name count offset stride, shape[axis]? = some (.symbol name) →
    counts[axis]? = some (.size count) → offsets[axis]? = some offset →
      strides[axis]? = some stride → offset + (count - 1) * stride < sizes name

/-- The positions that a slice is asked for along every axis: as many as its size, from the offset
on, a stride apart. -/
def Shape.selected (sizes : String → Nat) : List Int → Shape → List Int → List (List Nat)
  | offset :: offsets, size :: counts, stride :: strides =>
    List.range' offset.toNat (size.under sizes) stride.toNat ::
      selected sizes offsets counts strides
  | _, _, _ => []

/-- Whole axes are read at all their positions, in front of some others. -/
theorem Shape.selected_whole_append (lead counts : Shape) (offsets strides : List Int) :
    selected sizes (List.replicate lead.length 0 ++ offsets) (lead ++ counts)
        (List.replicate lead.length 1 ++ strides) =
      (lead.under sizes).map List.range ++ selected sizes offsets counts strides := by
  induction lead with
  | nil => rfl
  | cons dim lead ih =>
      simp only [List.length_cons, List.replicate_succ, List.cons_append, selected, ih]
      rw [Int.toNat_zero, Int.toNat_one, ← List.range_eq_range']
      rfl

/-- The positions are as many as the slice declares. -/
theorem Shape.Sliced.length_selected {shape counts : Shape} {offsets strides : List Int}
    (sliced : shape.Sliced offsets counts strides) :
    (Shape.selected sizes offsets counts strides).map List.length = counts.under sizes := by
  induction sliced with
  | nil => rfl
  | cons _ _ ih =>
      rw [selected, List.map_cons, List.length_range', ih]
      rfl

/-- The axes of a slice, read one after the other. -/
theorem mapM_positions {read : Nat → Nat → Option (List Nat)} {shape counts : Shape}
    {offsets strides : List Int}
    (fits : ∀ name, .symbol name ∈ shape → (sizes name : Int) ≤ indexMax)
    (sliced : shape.Sliced offsets counts strides)
    (covers : shape.Covers sizes offsets counts strides) (first : Nat)
    (reads : ∀ (axis : Nat) offset size stride dim, offsets[axis]? = some offset →
      counts[axis]? = some size → strides[axis]? = some stride →
        read dim (first + axis) =
          Tensor.positions? offset (Span.stopFor offset size stride) stride dim) :
    ((shape.under sizes).zipIdx first).mapM (fun entry => read entry.1 entry.2) =
      some (Shape.selected sizes offsets counts strides) := by
  induction sliced generalizing first with
  | nil => rfl
  | @cons dim size offset stride shape counts offsets strides one _ ih =>
      have found := positions?_under (fun name isName => fits name (isName ▸ List.mem_cons_self))
        one fun name count isName isCount =>
          covers 0 name count offset stride (congrArg some isName) (congrArg some isCount) rfl rfl
      have rest := ih (fun name member => fits name (List.mem_cons_of_mem _ member))
        (fun axis => covers (axis + 1)) (first + 1)
        fun axis offset size stride dim hasOffset hasSize hasStride => by
          rw [Nat.add_assoc, Nat.add_comm 1]
          exact reads (axis + 1) offset size stride dim hasOffset hasSize hasStride
      have head := (reads 0 offset size stride (dim.under sizes) rfl rfl rfl).trans found
      rw [Nat.add_zero] at head
      show ((dim.under sizes :: shape.under sizes).zipIdx first).mapM _ = _
      rw [List.zipIdx_cons, List.mapM_cons, head, rest]
      rfl

/-- **A slice of an accepted shape** reads the positions that it is asked for. -/
theorem mapM_axisPositions? {shape counts : Shape} {offsets strides : List Int}
    (fits : ∀ name, .symbol name ∈ shape → (sizes name : Int) ≤ indexMax)
    (sliced : shape.Sliced offsets counts strides)
    (covers : shape.Covers sizes offsets counts strides) :
    (shape.under sizes).zipIdx.mapM (fun entry =>
        Tensor.axisPositions? offsets (Span.stopsFor offsets counts strides)
          ((List.range counts.length).map Int.ofNat) strides entry.1 entry.2) =
      some (Shape.selected sizes offsets counts strides) := by
  refine mapM_positions fits sliced covers 0 ?_
  intro axis offset size stride dim hasOffset hasSize hasStride
  rw [Nat.zero_add]
  exact axisPositions?_listed hasOffset hasSize hasStride dim

/-- It lists all axes of its operand. -/
theorem Shape.Sliced.axes {shape counts : Shape} {offsets strides : List Int}
    (sliced : shape.Sliced offsets counts strides) :
    ((List.range counts.length).map Int.ofNat).Nodup ∧
      ∀ axis ∈ (List.range counts.length).map Int.ofNat,
        0 ≤ axis ∧ axis < (shape.under sizes).length := by
  rw [Shape.length_under, ← sliced.lengths.2.1]
  exact axes_inOrder counts.length

/-- **It reads the positions** that it is asked for. -/
theorem Tensor.slicePositions?_under {shape counts : Shape} {offsets strides : List Int}
    (fits : ∀ name, .symbol name ∈ shape → (sizes name : Int) ≤ indexMax)
    (sliced : shape.Sliced offsets counts strides)
    (covers : shape.Covers sizes offsets counts strides) :
    slicePositions? offsets (Span.stopsFor offsets counts strides)
        ((List.range counts.length).map Int.ofNat) strides (shape.under sizes) =
      some (Shape.selected sizes offsets counts strides) := by
  unfold slicePositions?
  rw [if_pos sliced.axes]
  exact mapM_axisPositions? fits sliced covers

/-- It has the declared dimensions. -/
theorem sliceDims?_under (inRange : SizesInRange sizes) {shape counts : Shape}
    {offsets strides : List Int} (sliced : shape.Sliced offsets counts strides)
    (covers : shape.Covers sizes offsets counts strides) :
    sliceDims? offsets (Span.stopsFor offsets counts strides)
        ((List.range counts.length).map Int.ofNat) strides (shape.under sizes) =
      some (counts.under sizes) := by
  rw [sliceDims?, Tensor.slicePositions?_under (fun name _ => (inRange name).2) sliced covers,
    ← sliced.length_selected]
  rfl

/-! ### Reshapes -/

/-- Entries that are all known are left as they are. -/
theorem map_getD_of_known {known : List (Option Nat)} (complete : none ∉ known) (fill : Nat) :
    known.map (fun entry => entry.getD fill) = known.reduceOption := by
  induction known with
  | nil => rfl
  | cons first rest ih =>
      cases first with
      | none => exact absurd List.mem_cons_self complete
      | some value =>
          rw [List.reduceOption_cons_of_some, List.map_cons,
            ih fun later => complete (List.mem_cons_of_mem _ later)]
          rfl

/-- Of some factors at most one is not known. Filled in, the product is the given one. -/
theorem exists_missing {known : List (Option Nat)} {dims : List Nat}
    (agree : List.Forall₂ (fun entry dim => entry = none ∨ entry = some dim) known dims)
    (few : known.count none ≤ 1) :
    ∃ missing, (none ∈ known → dims.prod = missing * known.reduceOption.prod) ∧
      known.map (fun entry => entry.getD missing) = dims := by
  induction agree with
  | nil => exact ⟨0, nofun, rfl⟩
  | @cons entry dim known dims here agree ih =>
      rcases here with rfl | rfl
      · rw [List.count_cons_self] at few
        have complete : none ∉ known := List.count_eq_zero.mp (by omega)
        obtain ⟨other, _, others⟩ := ih (by omega)
        rw [map_getD_of_known complete] at others
        refine ⟨dim, fun _ => ?_, ?_⟩
        · rw [List.reduceOption_cons_of_none, others, List.prod_cons]
        · rw [List.map_cons, map_getD_of_known complete, others]
          rfl
      · rw [List.count_cons_of_ne (by simp)] at few
        obtain ⟨missing, quotient, others⟩ := ih few
        refine ⟨missing, fun member => ?_, ?_⟩
        · rw [List.reduceOption_cons_of_some, List.prod_cons, List.prod_cons,
            quotient ((List.mem_cons.mp member).resolve_left nofun)]
          exact Nat.mul_left_comm _ _ _
        · rw [List.map_cons, others]
          rfl

/-- **The missing factor** is the quotient of the product and the known ones. -/
theorem getD_quotient {known : List (Option Nat)} {dims : List Nat}
    (agree : List.Forall₂ (fun entry dim => entry = none ∨ entry = some dim) known dims)
    (few : known.count none ≤ 1) (positive : ∀ dim ∈ dims, 0 < dim) :
    (none ∈ known → known.reduceOption.prod ≠ 0) ∧
      known.map (fun entry => entry.getD (dims.prod / known.reduceOption.prod)) = dims := by
  obtain ⟨missing, quotient, others⟩ := exists_missing agree few
  have whole : 0 < dims.prod := List.prod_pos positive
  have divides (member : none ∈ known) : known.reduceOption.prod ≠ 0 := by
    intro zero
    rw [quotient member, zero, Nat.mul_zero] at whole
    exact Nat.lt_irrefl 0 whole
  refine ⟨divides, ?_⟩
  conv_rhs => rw [← others]
  refine List.map_congr_left fun entry member => ?_
  cases entry with
  | some value => rfl
  | none =>
      show dims.prod / known.reduceOption.prod = missing
      rw [quotient member, Nat.mul_div_cancel _ (Nat.pos_of_ne_zero (divides member))]

/-- **One dimension of a target** stands for itself, unless it is left to the backend. -/
theorem targetSize?_under {shape : Shape} {axis : Nat} {dim : Dim} {found : TargetDim}
    (passed : Shape.targetDim axis shape[axis]? dim = .ok found) :
    ∃ entry, Tensor.targetSize? (shape.under sizes) axis found.code = some entry ∧
      (entry = none ∨ entry = some (dim.under sizes)) ∧ (entry = none ↔ found = .inferred) := by
  obtain ⟨positive, rfl⟩ := Shape.targetDim_eq_ok.mp passed
  cases dim with
  | size size =>
      have large := positive size rfl
      refine ⟨some size.toNat, ?_, Or.inr rfl, iff_of_false (Option.some_ne_none _) ?_⟩
      · show Tensor.targetSize? _ axis size = _
        unfold Tensor.targetSize?
        rw [if_neg (by omega), if_neg (by omega), if_pos (by omega)]
      · simp [TargetDim.of]
  | symbol name =>
      by_cases stays : shape[axis]? = some (.symbol name)
      · rw [TargetDim.of, if_pos stays]
        refine ⟨some (sizes name), ?_, Or.inr rfl, iff_of_false (Option.some_ne_none _) (by decide)⟩
        show ((shape.under sizes)[axis]?).map some = _
        rw [Shape.under, List.getElem?_map, stays]
        rfl
      · rw [TargetDim.of, if_neg stays]
        exact ⟨none, rfl, Or.inl rfl, iff_of_true rfl rfl⟩

/-- All dimensions of a target. -/
theorem mapM_targetSize? {shape newShape : Shape} {axis : Nat} {target : List TargetDim}
    (passed : shape.targetDims axis newShape = .ok target) :
    ∃ known, ((target.map TargetDim.code).zipIdx axis).mapM
        (fun entry => Tensor.targetSize? (shape.under sizes) entry.2 entry.1) = some known ∧
      List.Forall₂ (fun entry dim => entry = none ∨ entry = some dim) known
        (newShape.under sizes) ∧ known.count none = target.count .inferred := by
  induction newShape generalizing axis target with
  | nil =>
      cases passed
      exact ⟨[], rfl, .nil, rfl⟩
  | cons dim rest ih =>
      obtain ⟨first, others, found, later, rfl⟩ := Shape.targetDims_cons.mp passed
      obtain ⟨entry, read, agrees, left⟩ := @targetSize?_under sizes _ _ _ _ found
      obtain ⟨known, reads, agree, count⟩ := ih later
      refine ⟨entry :: known, ?_, .cons agrees agree, ?_⟩
      · rw [List.map_cons, List.zipIdx_cons, List.mapM_cons]
        simp only [read, reads]
        rfl
      · rw [List.count_cons, List.count_cons, count]
        congr 1
        by_cases inferred : first = .inferred
        · rw [inferred, left.mpr inferred]
          rfl
        · have kept : entry ≠ none := fun none => inferred (left.mp none)
          rw [if_neg (by simpa using kept), if_neg (by simpa using inferred)]

/-- Dimensions are not zero once symbols have sizes, if the known ones are not. -/
theorem under_pos {shape : Shape} (symbols : ∀ name, .symbol name ∈ shape → 0 < sizes name)
    (positive : ∀ size, .size size ∈ shape → 1 ≤ size) :
    ∀ dim ∈ shape.under sizes, 0 < dim := by
  intro dim member
  obtain ⟨declared, listed, rfl⟩ := List.mem_map.mp member
  cases declared with
  | symbol name => exact symbols name listed
  | size size =>
      have large := positive size listed
      show 0 < size.toNat
      omega

/-- The dimensions of an accepted target are not zero once symbols have sizes. -/
theorem under_pos_of_target {shape newShape : Shape} {target : List Int}
    (accepted : shape.targetIndices? newShape = some target)
    (symbols : ∀ name, .symbol name ∈ newShape → 0 < sizes name) :
    ∀ dim ∈ newShape.under sizes, 0 < dim := by
  obtain ⟨_, inRange, _⟩ := Shape.targetIndices?_isSome.mp (Option.isSome_of_eq_some accepted)
  exact under_pos symbols fun size member => (inRange size member).1

/-- **A reshape that keeps the number of elements** has the declared dimensions. -/
theorem targetDims?_under {shape newShape : Shape} {target : List Int}
    (accepted : shape.targetIndices? newShape = some target)
    (positive : ∀ dim ∈ newShape.under sizes, 0 < dim)
    (volumes : (shape.under sizes).prod = (newShape.under sizes).prod) :
    Tensor.targetDims? (shape.under sizes) target = some (newShape.under sizes) := by
  obtain ⟨dims, found, _, rfl⟩ := Shape.targetIndices?_eq_some.mp accepted
  obtain ⟨_, listed, few⟩ := Shape.reshapeTarget_eq_ok.mp found
  obtain ⟨known, reads, agree, count⟩ := @mapM_targetSize? sizes _ _ _ _ listed
  obtain ⟨divides, same⟩ := getD_quotient agree (count ▸ few) positive
  unfold Tensor.targetDims?
  rw [reads, Option.bind_eq_bind, Option.bind_some]
  simp only [volumes, same]
  exact if_pos ⟨count ▸ few, divides, trivial⟩

/-- Leading dimensions of size one stand in front of the sizes. -/
theorem Shape.under_padTo (rank : Nat) (shape : Shape) :
    (shape.padTo rank).under sizes =
      List.replicate (rank - shape.length) 1 ++ shape.under sizes := by
  rw [padTo, under_append]
  exact congrArg (· ++ _) List.map_replicate

/-- Leading dimensions of size one keep the number of elements. -/
theorem Shape.prod_under_padTo (rank : Nat) (shape : Shape) :
    ((shape.padTo rank).under sizes).prod = (shape.under sizes).prod := by
  rw [under_padTo, List.prod_append, List.prod_replicate, one_pow, one_mul]

end OperatorLowering
