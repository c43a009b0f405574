/-
**Dimensions and shapes.**

A dimension is a known size or a symbol for a size that is fixed only when the graph runs. Two
dimensions are the same exactly when they are equal: a symbol stands for itself alone, never for a
number that happens to be written alike.

To combine two shapes they are aligned at their last dimension and the shorter one is padded with
leading ones. Aligned dimensions combine when they are the same or one of them is one. A shape of
rank two or more is a stack of matrices: batch dimensions, then rows, then columns.

* `Shape.volume`: the number of elements, known only when every dimension is;
* `Shape.padTo`: leading dimensions of size one up to a rank;
* `Shape.text`: the written form, `[2, batch]`;
* `Shape.broadcast?`: the combined shape, either side supplying the ones;
* `Shape.absorbs`: the first shape takes the second without changing, or (in both directions) the two
  shapes combine. It answers as soon as the shapes are the same or the second outranks the first;
* `MatrixShape.ofShape?`: the stack of matrices that a shape is.
-/

namespace OperatorLowering

/-- One dimension: a known size, or a symbol for a size fixed when the graph runs. -/
inductive Dim where
  | size (n : Int)
  | symbol (name : String)
  deriving DecidableEq

namespace Dim

/-- The size every shape is padded with. -/
def one : Dim := .size 1

/-- The written form of a dimension: its digits, or the symbol itself. -/
def text : Dim → String
  | .size n => toString n
  | .symbol name => name

/-- The size of a known dimension. -/
def size? : Dim → Option Int
  | .size n => some n
  | .symbol _ => none

end Dim

/-- The dimensions of a tensor, outermost first. -/
abbrev Shape := List Dim

namespace Shape

/-- No dimension is a symbol. -/
def isStatic (shape : Shape) : Bool :=
  shape.all fun dim => dim.size?.isSome

/-- The number of elements, known only when every dimension is. -/
def volume : Shape → Option Int
  | [] => some 1
  | .size n :: rest => (volume rest).map (n * ·)
  | .symbol _ :: _ => none

/-- Leading dimensions of size one up to `rank`; a shape of that rank or more is kept. -/
def padTo (rank : Nat) (shape : Shape) : Shape :=
  List.replicate (rank - shape.length) Dim.one ++ shape

/-- The written form of a shape, `[2, batch]`. -/
def text (shape : Shape) : String :=
  "[" ++ String.intercalate ", " (shape.map Dim.text) ++ "]"

/-! ### Small facts -/

@[simp] theorem length_padTo (rank : Nat) (shape : Shape) :
    (padTo rank shape).length = max rank shape.length := by
  simp only [padTo, List.length_append, List.length_replicate]
  omega

theorem padTo_of_length_le {rank : Nat} {shape : Shape} (longEnough : rank ≤ shape.length) :
    padTo rank shape = shape := by
  simp [padTo, Nat.sub_eq_zero_of_le longEnough]

end Shape

/-! ### Broadcasting -/

/-- Two aligned dimensions combine when they are the same or one of them is one. -/
def Dim.broadcast? (first second : Dim) : Option Dim :=
  if first = second then some first
  else if first = .one then some second
  else if second = .one then some first
  else none

namespace Shape

/-- The shape that two shapes combine to. -/
def broadcast? (first second : Shape) : Option Shape :=
  let rank := max first.length second.length
  ((padTo rank first).zip (padTo rank second)).mapM fun (left, right) => left.broadcast? right

/-- One aligned pair of dimensions is accepted: they are the same, the second is one, or (in both
directions) the first is one. -/
def absorbsDim (bothWays : Bool) (primary secondary : Dim) : Bool :=
  primary = secondary || secondary = .one || (bothWays && primary = .one)

/-- `primary` takes `secondary` without changing its own shape; with `bothWays` either side may
supply the ones. -/
def absorbs (primary secondary : Shape) (bothWays : Bool := false) : Bool :=
  let rank := max primary.length secondary.length
  primary = secondary ||
    ((bothWays || secondary.length ≤ primary.length) &&
      ((padTo rank primary).zip (padTo rank secondary)).all fun (left, right) =>
        absorbsDim bothWays left right)

end Shape

/-! ### Stacks of matrices -/

/-- A shape of rank two or more. -/
structure MatrixShape where
  batch : Shape
  rows : Dim
  columns : Dim

namespace MatrixShape

/-- The batch, rows and columns of a shape; a shape of rank below two has none. -/
def ofShape? : Shape → Option MatrixShape
  | [] => none
  | [_] => none
  | [rows, columns] => some ⟨[], rows, columns⟩
  | dim :: next :: last :: rest =>
    (ofShape? (next :: last :: rest)).map fun inner => { inner with batch := dim :: inner.batch }

/-- The dimensions in order. -/
def toShape (matrix : MatrixShape) : Shape :=
  matrix.batch ++ [matrix.rows, matrix.columns]

/-- Rows and columns exchanged. -/
def transpose (matrix : MatrixShape) : MatrixShape :=
  ⟨matrix.batch, matrix.columns, matrix.rows⟩

/-- Rows and columns exchanged when `swap` says so. -/
def transposeIf (matrix : MatrixShape) (swap : Bool) : MatrixShape :=
  if swap then matrix.transpose else matrix

/-! ### Small facts -/

theorem toShape_of_ofShape? {shape : Shape} {matrix : MatrixShape}
    (split : ofShape? shape = some matrix) : matrix.toShape = shape := by
  fun_induction ofShape? shape generalizing matrix with
  | case1 => simp at split
  | case2 => simp at split
  | case3 => cases split; rfl
  | case4 dim next last rest ih =>
    obtain ⟨inner, found, rfl⟩ := Option.map_eq_some_iff.1 split
    simpa [toShape] using ih found

theorem ofShape?_isSome (shape : Shape) : (ofShape? shape).isSome = decide (2 ≤ shape.length) := by
  fun_induction ofShape? shape <;> simp_all

/-- A shape is read as the stack that is written as this shape. -/
theorem ofShape?_eq_some {shape : Shape} {matrix : MatrixShape} :
    ofShape? shape = some matrix ↔ shape = matrix.toShape := by
  constructor
  · intro split
    exact (toShape_of_ofShape? split).symm
  · rintro rfl
    have ranked : (ofShape? matrix.toShape).isSome = true := by
      rw [ofShape?_isSome]
      simp [toShape]
    obtain ⟨found, split⟩ := Option.isSome_iff_exists.mp ranked
    obtain ⟨batches, dims⟩ := List.append_inj' (toShape_of_ofShape? split) rfl
    cases found
    cases matrix
    cases batches
    cases dims
    exact split

end MatrixShape

end OperatorLowering
