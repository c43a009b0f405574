/-
**Broadcasting of values.**

Once its symbols have sizes, a declared shape stands for dimensions. Where a shape absorbs another,
values of these shapes combine in the dimensions of the first, and each index vector reads the
second at its last entries. A reshape that puts ones in front of a tensor's dimensions does not
change what is read.

* `broadcastDims?_under`: shapes that combine, once symbols have sizes;
* `broadcastDims?_of_absorbs`, `Index.within_broadcast`: the same for absorbed shapes;
* `Tensor.combine?_of_absorbs`: values of absorbed shapes;
* `Tensor.reshape?_ones`: ones in front.
-/

import Mathlib.Data.List.GetD
import OperatorLowering.Proofs.Meaning.Tensor
import OperatorLowering.Proofs.Shape.Broadcast

namespace OperatorLowering

/-- The size of a dimension, once symbols have sizes. -/
def Dim.under (sizes : String → Nat) : Dim → Nat
  | .size n => n.toNat
  | .symbol name => sizes name

/-- The dimensions of a shape, once symbols have sizes. -/
def Shape.under (sizes : String → Nat) (shape : Shape) : List Nat :=
  shape.map (Dim.under sizes)

variable {sizes : String → Nat} {primary secondary : Shape} {Element : Type}

theorem Shape.length_under (sizes : String → Nat) (shape : Shape) :
    (shape.under sizes).length = shape.length :=
  List.length_map _

theorem fromEnd_under (shape : Shape) (distance : Nat) :
    fromEnd 1 (shape.under sizes) distance = (fromEnd Dim.one shape distance).under sizes := by
  unfold fromEnd Shape.under
  rw [← List.map_reverse]
  exact List.getD_map _ Dim.one (Dim.under sizes)

theorem broadcastSize?_self (size : Nat) : broadcastSize? size size = some size :=
  if_pos rfl

/-- Dimensions that combine have sizes that do. -/
theorem broadcastSize?_under {first second dim : Dim}
    (combined : first.broadcast? second = some dim) :
    broadcastSize? (first.under sizes) (second.under sizes) = some (dim.under sizes) := by
  have oneLeft (size : Nat) : broadcastSize? 1 size = some size := by
    unfold broadcastSize?
    by_cases one : 1 = size
    · rw [if_pos one, one]
    · rw [if_neg one, if_pos rfl]
  have oneRight (size : Nat) : broadcastSize? size 1 = some size := by
    unfold broadcastSize?
    by_cases one : size = 1
    · rw [if_pos one]
    · rw [if_neg one, if_neg one, if_pos rfl]
  unfold Dim.broadcast? at combined
  by_cases same : first = second
  · rw [if_pos same] at combined
    cases combined
    rw [same]
    exact broadcastSize?_self _
  · rw [if_neg same] at combined
    by_cases one : first = .one
    · rw [if_pos one] at combined
      cases combined
      rw [one]
      exact oneLeft _
    · rw [if_neg one] at combined
      by_cases flat : second = .one
      · rw [if_pos flat] at combined
        cases combined
        rw [flat]
        exact oneRight _
      · rw [if_neg flat] at combined
        cases combined

/-- **Shapes that combine** have dimensions that do, whatever sizes the symbols stand for. -/
theorem broadcastDims?_under {first second shape : Shape}
    (combined : first.broadcast? second = some shape) :
    broadcastDims? (first.under sizes) (second.under sizes) = some (shape.under sizes) := by
  obtain ⟨length, dims⟩ := Shape.broadcast?_eq_some.mp combined
  refine (alignMap?_eq_some (broadcastSize?_self 1)).mpr ⟨?_, ?_⟩
  · rw [Shape.length_under, Shape.length_under, Shape.length_under, length]
  · intro distance
    rw [fromEnd_under, fromEnd_under, fromEnd_under]
    exact broadcastSize?_under (dims distance)

/-- **An absorbed shape** leaves the dimensions as they are. -/
theorem broadcastDims?_of_absorbs (absorbed : primary.absorbs secondary = true) :
    broadcastDims? (primary.under sizes) (secondary.under sizes) = some (primary.under sizes) :=
  broadcastDims?_under (Shape.broadcast?_of_absorbs absorbed)

namespace Index

/-- A tensor is read at the index vector itself within its own dimensions. -/
theorem broadcast_self {dims index : List Nat} (within : Within dims index) :
    broadcast dims index = index := by
  unfold broadcast
  rw [within.length_eq, Nat.sub_self, List.drop_zero]
  induction within with
  | nil => rfl
  | @cons position dim index dims inside _ ih =>
      rw [List.zipWith_cons_cons, ih]
      by_cases one : dim = 1
      · rw [if_pos one]
        congr 1
        omega
      · rw [if_neg one]

/-- **An absorbed tensor** is read within its dimensions. -/
theorem within_broadcast (absorbed : primary.absorbs secondary = true) {index : List Nat}
    (within : Within (primary.under sizes) index) :
    Within (secondary.under sizes) (broadcast (secondary.under sizes) index) := by
  obtain ⟨shorter, dims⟩ := Shape.absorbs_iff.mp absorbed
  have long : index.length = primary.length := by
    rw [within.length_eq, Shape.length_under]
  have short := secondary.length_under sizes
  have primaryLong := primary.length_under sizes
  have count : (broadcast (secondary.under sizes) index).length = secondary.length := by
    rw [broadcast, List.length_zipWith, List.length_drop, short]
    omega
  refine List.forall₂_iff_get.mpr ⟨count.trans short.symm, ?_⟩
  intro place inside inside'
  rw [short] at inside'
  simp only [List.get_eq_getElem, broadcast, List.getElem_zipWith, List.getElem_drop]
  by_cases one : (secondary.under sizes)[place] = 1
  · rw [if_pos one, one]
    exact Nat.zero_lt_one
  · rw [if_neg one]
    -- The dimension is that of the absorbing shape at the same distance from the end.
    let distance := secondary.length - 1 - place
    let position := index.length - secondary.length + place
    have here := fromEnd_getElem 1 (show place < (secondary.under sizes).length by omega)
      (show place + distance + 1 = (secondary.under sizes).length by omega)
    have there := fromEnd_getElem 1 (show position < (primary.under sizes).length by omega)
      (show position + distance + 1 = (primary.under sizes).length by omega)
    have inside := (List.forall₂_iff_get.mp within).2 position (by omega) (by omega)
    simp only [List.get_eq_getElem] at inside
    rcases dims distance with same | flat
    · rw [← here, fromEnd_under, same, ← fromEnd_under, there]
      simpa only [short] using inside
    · rw [← here, fromEnd_under, flat] at one
      exact absurd rfl one

end Index

/-! ### Values -/

namespace Tensor

/-- **Values of absorbed shapes** combine entry by entry. -/
theorem combine?_of_absorbs {a b : Tensor Element} (combine : Element → Element → Element)
    (absorbed : primary.absorbs secondary = true) (first : a.dims = primary.under sizes)
    (second : b.dims = secondary.under sizes) :
    ∃ result, a.combine? combine b = some result ∧ result.dims = a.dims ∧
      ∀ index, Index.Within a.dims index →
        result.entry index = combine (a.entry index) (b.entry (Index.broadcast b.dims index)) := by
  have dims : broadcastDims? a.dims b.dims = some a.dims := by
    rw [first, second]
    exact broadcastDims?_of_absorbs absorbed
  unfold combine?
  rw [dims]
  refine ⟨_, rfl, rfl, ?_⟩
  intro index within
  show combine (a.entry (Index.broadcast a.dims index)) _ = _
  rw [Index.broadcast_self within]

/-- **Ones in front** of a tensor's dimensions change nothing for those who read it. -/
theorem reshape?_ones {tensor : Tensor Element} {count : Nat} {target : List Int}
    (found : targetDims? tensor.dims target = some (List.replicate count 1 ++ tensor.dims)) :
    ∃ result, tensor.reshape? target = some result ∧
      result.dims = List.replicate count 1 ++ tensor.dims ∧
      ∀ index, index.length = count + tensor.dims.length →
        Index.Within tensor.dims (Index.broadcast tensor.dims index) →
          result.entry (Index.broadcast result.dims index) =
            tensor.entry (Index.broadcast tensor.dims index) := by
  unfold reshape?
  rw [found]
  refine ⟨_, rfl, rfl, ?_⟩
  intro index long within
  show tensor.entry (Index.atRowMajor tensor.dims (Index.rowMajor _ (Index.broadcast _ index))) = _
  rw [Index.broadcast_ones count _ _ long, Index.rowMajor_ones, Index.atRowMajor_rowMajor within]

end Tensor

end OperatorLowering
