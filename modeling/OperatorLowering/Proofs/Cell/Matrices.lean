/-
**Requests of matrices.**

Values that have the dimensions of their declared shapes, once symbols have sizes, can be combined
where the first shape absorbs the second, and a tensor can be padded with ones. The results have the
dimensions of their declared shapes again.

The values in a cell are matrices: their columns are known, their rows are a batch of known or
symbolic size. Each kind of request that a cell makes of matrices gives a matrix again, with entries
that can be written down.

* `Request.compute?_elementwise`, `Request.compute?_padded`: two tensors of which the first absorbs the
  second, and ones in front;
* `IsMatrix.product`, `IsMatrix.combine`, `IsMatrix.activate`, `IsMatrix.gate`: a product with
  transposed weights, two matrices entry by entry, an activation, and a gate.
-/

import OperatorLowering.Proofs.Cell.Types
import OperatorLowering.Proofs.Meaning.Broadcast
import OperatorLowering.Proofs.Meaning.Positions
import OperatorLowering.Proofs.Meaning.Products
import OperatorLowering.Proofs.Meaning.Request
import OperatorLowering.Proofs.Meaning.Shapes

namespace OperatorLowering

/-! ### Declared dimensions -/

variable {Element : Type} {arithmetic : Arithmetic Element} {sizes : String → Nat}

/-- Values have the dimensions that are declared for them. -/
def TypedTensor.Agrees (sizes : String → Nat) (value : TypedTensor Element) : Prop :=
  value.tensor.dims = value.type.shape.under sizes

/-- The values of a tensor under its declared type. -/
def Handle.typed (values : Handle → Tensor Element) (handle : Handle) : TypedTensor Element :=
  ⟨handle.type, values handle⟩

/-! ### Requests -/

namespace Request

/-- **Two tensors of which the first absorbs the second** are combined in the first one's type. -/
theorem compute?_elementwise {a b : TypedTensor Element} (op : Elementwise)
    (absorbed : a.type.shape.absorbs b.type.shape = true) (dtypes : a.type.dtype = b.type.dtype)
    (first : a.Agrees sizes) (second : b.Agrees sizes) :
    ∃ value, (elementwise a b op).compute? arithmetic = some value ∧ value.type = a.type ∧
      value.tensor.dims = a.tensor.dims ∧ ∀ index, Index.Within a.tensor.dims index →
        value.tensor.entry index = op.combine arithmetic (a.tensor.entry index)
          (b.tensor.entry (Index.broadcast b.tensor.dims index)) := by
  obtain ⟨result, combined, dims, entries⟩ :=
    Tensor.combine?_of_absorbs (op.combine arithmetic) absorbed first second
  have typed : ((elementwise a b op).map TypedTensor.type).type? = some a.type :=
    type?_elementwise.mpr ⟨dtypes, Shape.broadcast?_of_absorbs absorbed, rfl⟩
  exact ⟨⟨a.type, result⟩, compute?_eq_some.mpr ⟨typed, combined⟩, rfl, dims, entries⟩

/-- **A tensor is padded with ones** where the backend is given a target for that. -/
theorem compute?_padded {a : TypedTensor Element} {rank : Nat} {target : List Int}
    (accepted : a.type.shape.targetIndices? (a.type.shape.padTo rank) = some target)
    (positive : ∀ dim ∈ (a.type.shape.padTo rank).under sizes, 0 < dim) (agrees : a.Agrees sizes) :
    ∃ value, (reshape a (a.type.shape.padTo rank)).compute? arithmetic = some value ∧
      value.type = ⟨a.type.shape.padTo rank, a.type.dtype⟩ ∧ value.Agrees sizes ∧
      ∀ index, index.length = rank - a.type.shape.length + a.type.shape.length →
        Index.Within a.tensor.dims (Index.broadcast a.tensor.dims index) →
          value.tensor.entry (Index.broadcast value.tensor.dims index) =
            a.tensor.entry (Index.broadcast a.tensor.dims index) := by
  have found : Tensor.targetDims? a.tensor.dims target =
      some (List.replicate (rank - a.type.shape.length) 1 ++ a.tensor.dims) := by
    rw [agrees, ← Shape.under_padTo]
    exact targetDims?_under accepted positive (Shape.prod_under_padTo rank _).symm
  obtain ⟨result, reshaped, dims, entries⟩ := Tensor.reshape?_ones found
  have typed : ((reshape a (a.type.shape.padTo rank)).map TypedTensor.type).type? =
      some ⟨a.type.shape.padTo rank, a.type.dtype⟩ :=
    Option.map_eq_some_iff.mpr ⟨target, accepted, rfl⟩
  have denoted : (reshape a (a.type.shape.padTo rank)).denote? arithmetic = some result := by
    show (a.type.shape.targetIndices? (a.type.shape.padTo rank)).bind _ = _
    rw [accepted]
    exact reshaped
  have length : a.tensor.dims.length = a.type.shape.length := by
    rw [agrees, Shape.length_under]
  refine ⟨⟨_, result⟩, compute?_eq_some.mpr ⟨typed, denoted⟩, rfl, ?_, fun index long within => ?_⟩
  · show result.dims = (a.type.shape.padTo rank).under sizes
    rw [dims, agrees, Shape.under_padTo]
  · exact entries index (by rwa [length]) within

end Request

/-! ### Matrices -/

variable {rows : Dim} {width inner count : Nat} {dtype : ElementType} {a b : TypedTensor Element}
  {first second : Nat → Nat → Element}

theorem Arithmetic.sum_congr {count : Nat} {term other : Nat → Element}
    (same : ∀ position < count, term position = other position) :
    arithmetic.sum count term = arithmetic.sum count other := by
  unfold sum
  induction count with
  | zero => rfl
  | succ count ih =>
      rw [List.range_succ, List.foldl_concat, List.foldl_concat,
        ih fun position inside => same position (Nat.lt_succ_of_lt inside),
        same count (Nat.lt_succ_self count)]

/-- A dimension stands for a size: it is that size, or a symbol for it. -/
def Dim.Stands (sizes : String → Nat) (dim : Dim) (count : Nat) : Prop :=
  dim = .size count ∨ ∃ name, dim = .symbol name ∧ sizes name = count

theorem Dim.Stands.under {dim : Dim} (stands : dim.Stands sizes count) :
    dim.under sizes = count := by
  rcases stands with rfl | ⟨name, rfl, assigned⟩
  · exact Int.toNat_natCast count
  · exact assigned

/-- A symbol that stands for a size in range has a size that index constants hold. -/
theorem Dim.Stands.le_indexMax {dim : Dim} (stands : dim.Stands sizes count)
    (fits : count < 0x8000000000000000) {name : String} (isSymbol : dim = .symbol name) :
    (sizes name : Int) ≤ indexMax := by
  rcases stands with rfl | ⟨_, rfl, assigned⟩
  · cases isSymbol
  · cases isSymbol
    rw [assigned, indexMax]
    omega

theorem Dim.Stands.inRange {dim : Dim} (stands : dim.Stands sizes count) (nonempty : 1 ≤ count)
    (fits : count < 0x8000000000000000) : Shape.InRange [dim] := by
  intro size member
  rcases stands with rfl | ⟨_, rfl, _⟩
  · cases List.mem_singleton.mp member
    rw [indexMax]
    omega
  · cases List.mem_singleton.mp member

/-- A typed tensor is a matrix with these entries. -/
structure TypedTensor.IsMatrix (sizes : String → Nat) (rows : Dim) (width : Nat)
    (dtype : ElementType) (entries : Nat → Nat → Element) (value : TypedTensor Element) :
    Prop where
  type : value.type = ⟨[rows, .size width], dtype⟩
  agrees : value.Agrees sizes
  entry : ∀ row column, row < rows.under sizes → column < width →
    value.tensor.entry [row, column] = entries row column

namespace TypedTensor.IsMatrix

theorem dims (matrix : a.IsMatrix sizes rows width dtype first) :
    a.tensor.dims = [rows.under sizes, width] := by
  rw [matrix.agrees, matrix.type]
  rfl

theorem within (matrix : a.IsMatrix sizes rows width dtype first) {row column : Nat}
    (above : row < rows.under sizes) (left : column < width) :
    Index.Within a.tensor.dims [row, column] := by
  rw [matrix.dims]
  exact .cons above (.cons left .nil)

/-- **Two matrices** are combined entry by entry. -/
theorem combine (one : a.IsMatrix sizes rows width dtype first)
    (two : b.IsMatrix sizes rows width dtype second) (op : Elementwise) :
    ∃ value, (Request.elementwise a b op).compute? arithmetic = some value ∧
      value.IsMatrix sizes rows width dtype fun row column =>
        op.combine arithmetic (first row column) (second row column) := by
  have absorbed : a.type.shape.absorbs b.type.shape = true := by
    rw [one.type, two.type]
    exact Shape.absorbs_self _
  have dtypes : a.type.dtype = b.type.dtype := by rw [one.type, two.type]
  obtain ⟨value, computed, typed, dims, entries⟩ :=
    @Request.compute?_elementwise _ arithmetic _ _ _ op absorbed dtypes one.agrees two.agrees
  refine ⟨value, computed, ⟨typed.trans one.type, ?_, ?_⟩⟩
  · rw [TypedTensor.Agrees, dims, typed]
    exact one.agrees
  · intro row column above left
    rw [entries _ (one.within above left), Index.broadcast_self (two.within above left),
      one.entry row column above left, two.entry row column above left]

/-- **An activation** of a matrix. -/
theorem activate (one : a.IsMatrix sizes rows width dtype first) (kind : Activation) :
    ∃ value, (Request.activation a kind).compute? arithmetic = some value ∧
      value.IsMatrix sizes rows width dtype fun row column =>
        kind.activate arithmetic (first row column) := by
  refine ⟨⟨a.type, a.tensor.map (kind.activate arithmetic)⟩, rfl, one.type, one.agrees,
    ?_⟩
  intro row column above left
  show kind.activate arithmetic (a.tensor.entry [row, column]) = _
  rw [one.entry row column above left]

/-! ### Products -/

/-- The type of a product with transposed weights. -/
theorem product_type (rows : Dim) (inner width : Nat) (dtype : ElementType) :
    (Request.matmul ⟨[rows, .size inner], dtype⟩ ⟨[.size width, .size inner], dtype⟩ false
      true).type? = some ⟨[rows, .size width], dtype⟩ :=
  Request.type?_matmul.mpr ⟨rfl, rfl, ⟨[], rows, .size inner⟩, ⟨[], .size width, .size inner⟩, [],
    rfl, rfl, rfl, rfl, rfl⟩

/-- **A product with transposed weights** sums over the columns of both. -/
theorem product (one : a.IsMatrix sizes rows inner dtype first)
    (two : b.IsMatrix sizes (.size width) inner dtype second) :
    ∃ value, (Request.matmul a b false true).compute? arithmetic = some value ∧
      value.IsMatrix sizes rows width dtype fun row column =>
        arithmetic.sum inner fun position =>
          arithmetic.mul (first row position) (second column position) := by
  have height : Dim.under sizes (.size width) = width := Int.toNat_natCast width
  let left : MatrixShape := ⟨[], rows, .size inner⟩
  let right : MatrixShape := ⟨[], .size width, .size inner⟩
  have isA : a.type.shape = left.toShape := congrArg TensorType.shape one.type
  have isB : b.type.shape = right.toShape := congrArg TensorType.shape two.type
  have typed : ((Request.matmul a b false true).map TypedTensor.type).type? =
      some ⟨[rows, .size width], dtype⟩ := by
    simp only [Request.map, one.type, two.type]
    exact product_type rows inner width dtype
  obtain ⟨result, denoted, dims, entries⟩ := Request.denote?_matmul arithmetic sizes isA isB
    (show (left.transposeIf false).columns = (right.transposeIf true).rows from rfl)
    (show left.batch.broadcast? right.batch = some [] from rfl) one.agrees two.agrees
  refine ⟨⟨⟨[rows, .size width], dtype⟩, result⟩, Request.compute?_eq_some.mpr ⟨typed, denoted⟩,
    rfl, dims, ?_⟩
  intro row column above beside
  obtain ⟨entry, _⟩ := entries [] row column .nil above beside
  refine entry.trans (Arithmetic.sum_congr fun position inside => ?_)
  show arithmetic.mul (a.tensor.entry [row, position]) (b.tensor.entry [column, position]) = _
  rw [one.entry row position above inside, two.entry column position (height ▸ beside) inside]

end TypedTensor.IsMatrix

/-! ### Gates -/

/-- **What the slice of a gate reads**: all other axes whole, and one quarter of the columns. -/
theorem gate_positions {lead : Shape} {width index : Nat}
    (fits : ∀ name, .symbol name ∈ lead → (sizes name : Int) ≤ indexMax)
    (positive : ∀ size, .size size ∈ lead → 1 ≤ size) (wide : 0 < width) (few : index < 4) :
    Tensor.slicePositions? (List.replicate lead.length 0 ++ [(index * width : Int)])
        (Span.stopsFor (List.replicate lead.length 0 ++ [(index * width : Int)])
          (lead ++ [.size width]) (List.replicate lead.length 1 ++ [1]))
        ((List.range (lead ++ [Dim.size width]).length).map Int.ofNat)
        (List.replicate lead.length 1 ++ [1]) (Shape.under sizes (lead ++ [.size (4 * width)])) =
      some ((Shape.under sizes lead).map List.range ++ [List.range' (index * width) width]) := by
  -- Of any element type.
  let whole : TensorType := ⟨lead ++ [.size (4 * width)], .float32⟩
  have sliced := (CellOperands.gate_sliced_iff few).mpr ⟨positive, Int.ofNat_lt.mpr wide⟩
  have covers := @Request.runsUnder_of_steady sizes _
    (@CellOperands.steady_gateRequest whole _ _ rfl index)
  rw [@CellOperands.gateRequest_eq whole _ _ _ rfl] at covers
  have symbols : ∀ name, .symbol name ∈ lead ++ [Dim.size (4 * width)] →
      (sizes name : Int) ≤ indexMax := fun name member =>
    fits name ((List.mem_append.mp member).resolve_right (by simp))
  rw [Tensor.slicePositions?_under symbols sliced covers, Shape.selected_whole_append]
  show some (_ ++ [List.range' (index * width : Int).toNat (width : Int).toNat 1]) = _
  rw [Int.toNat_natCast, ← Int.natCast_mul, Int.toNat_natCast]

namespace TypedTensor.IsMatrix

/-- **A gate** reads one quarter of the columns. -/
theorem gate {size index count : Nat}
    (all : a.IsMatrix sizes rows (4 * size) dtype first) (stands : rows.Stands sizes count)
    (someRows : 1 ≤ count) (fitRows : count < 0x8000000000000000) (nonempty : 1 ≤ size)
    (fits : 4 * size < 0x8000000000000000) (few : index < 4) :
    ∃ value, (Shape.gateRequest [rows, .size (4 * size : Nat)] a index).compute? arithmetic =
        some value ∧
      value.IsMatrix sizes rows size dtype fun row column => first row (index * size + column) := by
  have shape : a.type.shape = [rows, .size (4 * size : Nat)] := by rw [all.type]
  have split : a.type.shape = [rows] ++ [.size (4 * (size : Int))] := by
    rw [shape, Int.natCast_mul]
    rfl
  have leading := stands.inRange someRows fitRows
  have quarter : index * size + size ≤ 4 * size := by
    rw [← Nat.succ_mul]
    exact Nat.mul_le_mul_right size few
  have last : ((index : Int) + 1) * size ≤ indexMax := by
    rw [indexMax, Int.add_mul, Int.one_mul, ← Int.natCast_mul]
    omega
  have typed : (a.type.shape.gateRequest a.type index).type? = some a.type.gate :=
    (CellOperands.gateRequest_type? split few).mpr
      ⟨⟨leading, Int.ofNat_le.mpr nonempty, last, by simp [indexMax]⟩, rfl⟩
  have positions := @gate_positions sizes [rows] size index
    (fun name member => stands.le_indexMax fitRows (List.mem_singleton.mp member).symm)
    (fun size member => (leading size member).1) nonempty few
  rw [← split, ← show a.tensor.dims = a.type.shape.under sizes from all.agrees] at positions
  let columns := List.range' (index * size) size
  have picked : (a.type.shape.gateRequest a index).denote? arithmetic =
      some (a.tensor.pick [List.range (rows.under sizes), columns]) := by
    rw [CellOperands.gateRequest_eq split]
    show a.tensor.slice? _ _ _ _ = _
    rw [Tensor.slice?, positions]
    rfl
  have type : a.type.gate = ⟨[rows, .size size], dtype⟩ := by
    rw [CellOperands.gate_eq split, all.type]
    rfl
  rw [← shape]
  refine ⟨⟨a.type.gate, a.tensor.pick [List.range (rows.under sizes), columns]⟩,
    Request.compute?_eq_some.mpr ⟨typed, picked⟩, type, ?_, ?_⟩
  · rw [TypedTensor.Agrees, type]
    show [(List.range (rows.under sizes)).length, columns.length] =
      [rows.under sizes, (size : Int).toNat]
    rw [List.length_range, List.length_range', Int.toNat_natCast]
  · intro row column above left
    show a.tensor.entry [(List.range (rows.under sizes)).getD row 0, columns.getD column 0] = _
    have readRow : (List.range (rows.under sizes)).getD row 0 = row := by
      rw [List.getD_eq_getElem _ _ (by rwa [List.length_range]), List.getElem_range]
    have readColumn : columns.getD column 0 = index * size + column := by
      rw [List.getD_eq_getElem _ _ (by rwa [List.length_range']), List.getElem_range', Nat.one_mul]
    rw [readRow, readColumn]
    exact all.entry row _ above (by omega)

end TypedTensor.IsMatrix

end OperatorLowering
