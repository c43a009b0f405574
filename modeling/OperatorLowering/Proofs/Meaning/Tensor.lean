/-
**Tensors of values.**

A tensor has dimensions and an entry at every index vector; only those within the dimensions count.
The operators of the backend have their published meaning over any elements that can be added,
multiplied and activated, of which nothing is assumed. An operator that its operands' dimensions do
not allow gives nothing.

* `Index.broadcast`: where a broadcast tensor is read;
* `Index.rowMajor`, `Index.atRowMajor`: index vectors in row-major order;
* `Tensor.transpose?`, `Tensor.matmul?`, `Tensor.combine?`, `Tensor.slice?`, `Tensor.reshape?`,
  `Tensor.map`: the operators.
-/

import Mathlib.Algebra.BigOperators.Group.List.Basic
import OperatorLowering.Proofs.Shape.Alignment

namespace OperatorLowering

/-- What the backend's operators do with single elements. -/
structure Arithmetic (Element : Type) where
  zero : Element
  add : Element → Element → Element
  mul : Element → Element → Element
  sigmoid : Element → Element
  tanh : Element → Element

/-- Some terms, added to zero one after the other. -/
def Arithmetic.sum {Element : Type} (arithmetic : Arithmetic Element) (count : Nat)
    (term : Nat → Element) : Element :=
  (List.range count).foldl (fun total position => arithmetic.add total (term position))
    arithmetic.zero

/-- The values of a tensor. -/
structure Tensor (Element : Type) where
  dims : List Nat
  entry : List Nat → Element

/-! ### Index vectors -/

/-- Aligned sizes combine when they are the same or one of them is one. -/
def broadcastSize? (first second : Nat) : Option Nat :=
  if first = second then some first
  else if first = 1 then some second
  else if second = 1 then some first
  else none

/-- The dimensions that two lists of dimensions combine to. -/
def broadcastDims? (first second : List Nat) : Option (List Nat) :=
  alignMap? 1 broadcastSize? first second

namespace Index

/-- An index vector within some dimensions. -/
def Within (dims index : List Nat) : Prop :=
  List.Forall₂ (· < ·) index dims

/-- Where a tensor of these dimensions is read for an index vector that is at least as long: at its
last entries, and at zero along dimensions of size one. -/
def broadcast (dims index : List Nat) : List Nat :=
  List.zipWith (fun dim position => if dim = 1 then 0 else position) dims
    (index.drop (index.length - dims.length))

/-- The place of an index vector in row-major order. -/
def rowMajor : List Nat → List Nat → Nat
  | _ :: dims, position :: index => position * dims.prod + rowMajor dims index
  | _, _ => 0

/-- The index vector at a place in row-major order. -/
def atRowMajor : List Nat → Nat → List Nat
  | [], _ => []
  | _ :: dims, place => place / dims.prod :: atRowMajor dims (place % dims.prod)

theorem rowMajor_lt {dims index : List Nat} (within : Within dims index) :
    rowMajor dims index < dims.prod := by
  induction within with
  | nil => exact Nat.zero_lt_one
  | @cons position dim index dims inside _ ih =>
      rw [rowMajor, List.prod_cons]
      calc position * dims.prod + rowMajor dims index
          < position * dims.prod + dims.prod := Nat.add_lt_add_left ih _
        _ = (position + 1) * dims.prod := (Nat.succ_mul position dims.prod).symm
        _ ≤ dim * dims.prod := Nat.mul_le_mul_right _ inside

/-- **Row-major order** loses no index vector. -/
theorem atRowMajor_rowMajor {dims index : List Nat} (within : Within dims index) :
    atRowMajor dims (rowMajor dims index) = index := by
  induction within with
  | nil => rfl
  | @cons position dim index dims inside within ih =>
      have behind := rowMajor_lt within
      have positive : 0 < dims.prod := Nat.zero_lt_of_lt behind
      rw [rowMajor, atRowMajor, Nat.add_comm, Nat.add_mul_div_right _ _ positive,
        Nat.div_eq_of_lt behind, Nat.zero_add, Nat.add_mul_mod_self_right,
        Nat.mod_eq_of_lt behind, ih]

/-- Leading dimensions of size one do not move a place in row-major order. -/
theorem rowMajor_ones (count : Nat) (dims index : List Nat) :
    rowMajor (List.replicate count 1 ++ dims) (List.replicate count 0 ++ index) =
      rowMajor dims index := by
  induction count with
  | zero => rfl
  | succ count ih =>
      rw [List.replicate_succ, List.replicate_succ, List.cons_append, List.cons_append, rowMajor,
        Nat.zero_mul, Nat.zero_add, ih]

/-- Along leading dimensions of size one a broadcast tensor is read at zero. -/
theorem broadcast_ones (count : Nat) (dims index : List Nat)
    (long : index.length = count + dims.length) :
    broadcast (List.replicate count 1 ++ dims) index =
      List.replicate count 0 ++ broadcast dims index := by
  unfold broadcast
  rw [List.length_append, List.length_replicate, ← long, Nat.sub_self, List.drop_zero,
    show index.length - dims.length = count by omega]
  have front : (index.take count).length = (List.replicate count 1).length := by
    rw [List.length_take, List.length_replicate]
    omega
  conv_lhs => rw [← List.take_append_drop count index]
  rw [List.zipWith_append front.symm]
  congr 1
  refine List.eq_replicate_iff.mpr ⟨?_, ?_⟩
  · rw [List.length_zipWith, front, List.length_replicate, Nat.min_self]
  · intro position member
    obtain ⟨place, inside, rfl⟩ := List.getElem_of_mem member
    rw [List.getElem_zipWith, List.getElem_replicate, if_pos rfl]

end Index

/-! ### Operators -/

namespace Tensor

variable {Element : Type}

/-- Axis `i` of the result is axis `perm[i]` of the operand. -/
def transpose? (perm : List Nat) (tensor : Tensor Element) : Option (Tensor Element) :=
  if perm.isPerm (List.range tensor.dims.length) then
    some {
      dims := perm.map fun axis => tensor.dims.getD axis 0
      entry := fun index => tensor.entry ((List.range tensor.dims.length).map fun axis =>
        index.getD (perm.idxOf axis) 0) }
  else none

/-- Products of matrices, stacked along the leading axes, which broadcast. -/
def matmul? (arithmetic : Arithmetic Element) (a b : Tensor Element) : Option (Tensor Element) :=
  match a.dims.reverse, b.dims.reverse with
  | inner :: rows :: first, columns :: inner' :: second =>
    if inner = inner' then
      (broadcastDims? first.reverse second.reverse).map fun batch => {
        dims := batch ++ [rows, columns]
        entry := fun index =>
          let stacked := index.take batch.length
          let row := index.getD batch.length 0
          let column := index.getD (batch.length + 1) 0
          arithmetic.sum inner fun position => arithmetic.mul
            (a.entry (Index.broadcast first.reverse stacked ++ [row, position]))
            (b.entry (Index.broadcast second.reverse stacked ++ [position, column])) }
    else none
  | _, _ => none

/-- Two tensors that broadcast, combined entry by entry. -/
def combine? (combine : Element → Element → Element) (a b : Tensor Element) :
    Option (Tensor Element) :=
  (broadcastDims? a.dims b.dims).map fun dims => {
    dims := dims
    entry := fun index =>
      combine (a.entry (Index.broadcast a.dims index)) (b.entry (Index.broadcast b.dims index)) }

/-- The positions that a slice reads along one axis: `start`, `start + step` and so on, below `stop`
and within the dimension. -/
def positions? (start stop step : Int) (dim : Nat) : Option (List Nat) :=
  if 0 ≤ start ∧ 0 ≤ stop ∧ 1 ≤ step then
    let count := (min stop.toNat dim - start.toNat + (step.toNat - 1)) / step.toNat
    some (List.range' start.toNat count step.toNat)
  else none

/-- A position stands at a place of a list of steps if it is that many steps behind the start. -/
theorem getElem?_steps {start step : Int} (least : 0 ≤ start) (forward : 0 ≤ step)
    (count place position : Nat) :
    (List.range' start.toNat count step.toNat)[place]? = some position ↔
      (position : Int) = start + place * step ∧ place < count := by
  obtain ⟨start, rfl⟩ := Int.eq_ofNat_of_zero_le least
  obtain ⟨step, rfl⟩ := Int.eq_ofNat_of_zero_le forward
  rw [Int.toNat_natCast, Int.toNat_natCast]
  by_cases inside : place < count
  · rw [List.getElem?_range' inside, Option.some.injEq, Nat.mul_comm, eq_comm, and_iff_left inside]
    norm_cast
  · rw [List.getElem?_eq_none (by simpa using inside)]
    exact iff_of_false nofun fun found => inside found.2

/-- **What is read along an axis**: at each place the start and as many steps, while this is below
the stop and within the dimension. -/
theorem getElem?_positions? {start stop step : Int} {dim : Nat} {read : List Nat}
    (reads : positions? start stop step dim = some read) (place position : Nat) :
    read[place]? = some position ↔
      (position : Int) = start + place * step ∧ position < stop ∧ position < dim := by
  unfold positions? at reads
  split at reads
  case isFalse => cases reads
  case isTrue valid =>
    cases reads
    rw [getElem?_steps valid.1 (by omega)]
    refine and_congr_right fun here => ?_
    obtain ⟨start, rfl⟩ := Int.eq_ofNat_of_zero_le valid.1
    obtain ⟨stop, rfl⟩ := Int.eq_ofNat_of_zero_le valid.2.1
    obtain ⟨step, rfl⟩ := Int.eq_ofNat_of_zero_le (Int.le_trans (by decide) valid.2.2)
    have positive : 0 < step := by omega
    have here : position = start + place * step := by exact_mod_cast here
    -- The count is the quotient rounded up, so a place is counted if its position is in reach.
    simp only [Int.toNat_natCast]
    rw [← Nat.succ_le_iff, Nat.le_div_iff_mul_le positive, Nat.succ_mul]
    omega

/-- The positions that a slice reads along an axis that it may list or not. -/
def axisPositions? (starts stops axes steps : List Int) (dim axis : Nat) : Option (List Nat) :=
  match axes.idxOf? (axis : Int) with
  | none => some (List.range dim)
  | some place => do positions? (← starts[place]?) (← stops[place]?) (← steps[place]?) dim

/-- The entries at some positions of each axis. -/
def pick (positions : List (List Nat)) (tensor : Tensor Element) : Tensor Element :=
  ⟨positions.map List.length, fun index =>
    tensor.entry (List.zipWith (fun read place => read.getD place 0) positions index)⟩

/-- The positions that a slice reads along every axis, where its axes are listed at most once. -/
def slicePositions? (starts stops axes steps : List Int) (dims : List Nat) :
    Option (List (List Nat)) :=
  if axes.Nodup ∧ ∀ axis ∈ axes, 0 ≤ axis ∧ axis < dims.length then
    dims.zipIdx.mapM fun entry => axisPositions? starts stops axes steps entry.1 entry.2
  else none

/-- The entries at the positions that a slice reads. -/
def slice? (starts stops axes steps : List Int) (tensor : Tensor Element) :
    Option (Tensor Element) :=
  (slicePositions? starts stops axes steps tensor.dims).map fun positions => tensor.pick positions

/-- What an integer of a reshape's target stands for at an axis: the operand's dimension there, a
dimension that is inferred, or a size. -/
def targetSize? (dims : List Nat) (axis : Nat) (code : Int) : Option (Option Nat) :=
  if code = 0 then dims[axis]?.map some
  else if code = -1 then some none
  else if 0 < code then some (some code.toNat)
  else none

/-- The dimensions of a reshaped tensor. The one that is inferred keeps the number of entries. -/
def targetDims? (dims : List Nat) (target : List Int) : Option (List Nat) := do
  let sizes ← target.zipIdx.mapM fun entry => targetSize? dims entry.2 entry.1
  let known := sizes.reduceOption.prod
  let found := sizes.map fun size => size.getD (dims.prod / known)
  if sizes.count none ≤ 1 ∧ (none ∈ sizes → known ≠ 0) ∧ found.prod = dims.prod then some found
  else none

/-- The same entries in row-major order under other dimensions. -/
def reshape? (target : List Int) (tensor : Tensor Element) : Option (Tensor Element) :=
  (targetDims? tensor.dims target).map fun dims => {
    dims := dims
    entry := fun index =>
      tensor.entry (Index.atRowMajor tensor.dims (Index.rowMajor dims index)) }

/-- Every entry on its own. -/
def map (change : Element → Element) (tensor : Tensor Element) : Tensor Element :=
  ⟨tensor.dims, fun index => change (tensor.entry index)⟩

end Tensor

end OperatorLowering
