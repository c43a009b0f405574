/-
**Shapes in order.**

A shape lies below another one that absorbs it. This is a partial order, decided by the ranks and by
the dimensions at every distance from the end. What two shapes combine to is the least shape above
both of them, and shapes that do not combine have no shape above both. So broadcasting is a join,
though not of all shapes, and its laws follow from the order:

* `Shape.absorbs_antisymm`, `Shape.absorbs_trans`: the order;
* `Shape.bddAbove_iff`, `Shape.broadcast?_eq_some_iff`: the join;
* `Shape.broadcast?_comm`, `Shape.broadcast?_assoc`: the laws;
* `Shape.broadcast_joins`: a partial join-semilattice.
-/

import Mathlib.Order.Bounds.Basic
import OperatorLowering.Proofs.Shape.Broadcast

namespace OperatorLowering

/-! ### One dimension -/

namespace Dim

variable {first second dim upper : Dim}

theorem broadcast?_comm (first second : Dim) :
    first.broadcast? second = second.broadcast? first := by
  unfold broadcast?
  by_cases same : first = second
  · rw [same]
  · rw [if_neg same, if_neg (Ne.symm same)]
    by_cases one : first = .one
    · rw [if_pos one, if_pos one, if_neg fun flat => same (one.trans flat.symm)]
    · rw [if_neg one, if_neg one]

/-- Dimensions that lie below a third one combine. -/
theorem isSome_broadcast?_of_below (left : first = upper ∨ first = .one)
    (right : second = upper ∨ second = .one) : (first.broadcast? second).isSome = true := by
  cases left with
  | inr one => rw [broadcast?_eq_right.mpr (Or.inr one), Option.isSome_some]
  | inl isUpper =>
      cases right with
      | inr one => rw [one, broadcast?_one, Option.isSome_some]
      | inl same => rw [isUpper, same, broadcast?_self, Option.isSome_some]

/-- Dimensions combine in the cases in which one takes the other in both directions. -/
theorem isSome_broadcast?_iff :
    (first.broadcast? second).isSome = true ↔ Shape.absorbsDim true first second = true := by
  unfold broadcast? Shape.absorbsDim
  split
  · simp_all
  · split
    · simp_all
    · split <;> simp_all

end Dim

namespace Shape

variable {first second third shape upper : Shape}

/-! ### The order -/

theorem absorbs_trans (lower : second.absorbs first = true) (higher : third.absorbs second = true) :
    third.absorbs first = true := by
  obtain ⟨shorter, dims⟩ := absorbs_iff.mp lower
  obtain ⟨longer, others⟩ := absorbs_iff.mp higher
  refine absorbs_iff.mpr ⟨Nat.le_trans shorter longer, fun distance => ?_⟩
  cases dims distance with
  | inr one => exact Or.inr one
  | inl same =>
      rw [same]
      exact others distance

/-- Shapes that absorb each other have the same rank and the same dimensions, ones or not. -/
theorem absorbs_antisymm (lower : second.absorbs first = true)
    (higher : first.absorbs second = true) : first = second := by
  obtain ⟨shorter, dims⟩ := absorbs_iff.mp lower
  obtain ⟨longer, others⟩ := absorbs_iff.mp higher
  refine eq_of_fromEnd Dim.one (Nat.le_antisymm shorter longer) fun distance => ?_
  cases dims distance with
  | inl same => exact same
  | inr one =>
      cases others distance with
      | inl same => exact same.symm
      | inr flat => rw [one, flat]

/-- **The order of shapes**: below a shape are those that it absorbs. -/
instance : PartialOrder Shape where
  le lower upper := upper.absorbs lower = true
  le_refl := absorbs_self
  le_trans _ _ _ := absorbs_trans
  le_antisymm _ _ := absorbs_antisymm

/-- The shape without axes is below all others. -/
theorem nil_le (shape : Shape) : ([] : Shape) ≤ shape :=
  absorbs_iff.mpr ⟨Nat.zero_le _, fun _ => Or.inr rfl⟩

/-! ### The join -/

theorem broadcast?_comm (first second : Shape) :
    first.broadcast? second = second.broadcast? first := by
  ext shape
  rw [broadcast?_eq_some, broadcast?_eq_some, Nat.max_comm]
  simp only [Dim.broadcast?_comm (fromEnd Dim.one first _)]

/-- **What two shapes combine to** is above both of them. -/
theorem le_of_broadcast? (combined : first.broadcast? second = some shape) :
    first ≤ shape ∧ second ≤ shape := by
  have exchanged := broadcast?_comm first second ▸ combined
  exact ⟨broadcast?_eq_right.mp (broadcast?_again combined).1,
    broadcast?_eq_right.mp (broadcast?_again exchanged).1⟩

/-- It is below every shape that is above both. -/
theorem broadcast?_le (combined : first.broadcast? second = some shape) (left : first ≤ upper)
    (right : second ≤ upper) : shape ≤ upper := by
  obtain ⟨length, dims⟩ := broadcast?_eq_some.mp combined
  obtain ⟨shorter, lefts⟩ := absorbs_iff.mp left
  obtain ⟨shorter', rights⟩ := absorbs_iff.mp right
  refine absorbs_iff.mpr ⟨by omega, fun distance => ?_⟩
  cases Dim.eq_of_broadcast? (dims distance) with
  | inl same =>
      rw [← same]
      exact lefts distance
  | inr same =>
      rw [← same]
      exact rights distance

theorem isLUB_of_broadcast? (combined : first.broadcast? second = some shape) :
    IsLUB {first, second} shape := by
  constructor
  · rw [upperBounds_insert, upperBounds_singleton]
    exact le_of_broadcast? combined
  · intro upper above
    rw [upperBounds_insert, upperBounds_singleton] at above
    exact broadcast?_le combined above.1 above.2

/-- **Shapes that combine** are those that some shape is above. -/
theorem bddAbove_iff : BddAbove {first, second} ↔ (first.broadcast? second).isSome = true := by
  constructor
  · intro bounded
    obtain ⟨upper, above⟩ := bounded
    rw [upperBounds_insert, upperBounds_singleton] at above
    obtain ⟨_, lefts⟩ := absorbs_iff.mp above.1
    obtain ⟨_, rights⟩ := absorbs_iff.mp above.2
    exact isSome_broadcast?.mpr fun distance =>
      Dim.isSome_broadcast?_of_below (lefts distance) (rights distance)
  · intro combines
    obtain ⟨shape, combined⟩ := Option.isSome_iff_exists.mp combines
    exact ⟨shape, (isLUB_of_broadcast? combined).1⟩

/-- **What two shapes combine to** is the least shape above both. -/
theorem broadcast?_eq_some_iff :
    first.broadcast? second = some shape ↔ IsLUB {first, second} shape := by
  constructor
  · exact isLUB_of_broadcast?
  · intro least
    obtain ⟨joint, combined⟩ := Option.isSome_iff_exists.mp (bddAbove_iff.mp ⟨shape, least.1⟩)
    rw [combined, (isLUB_of_broadcast? combined).unique least]

/-! ### Three shapes -/

theorem nil_broadcast? (shape : Shape) : broadcast? [] shape = some shape :=
  broadcast?_eq_right.mpr (nil_le shape)

/-- Three shapes combine, two of them first, to the least shape above all three. -/
theorem bind_broadcast?_eq_some_iff :
    (first.broadcast? second).bind (fun joint => joint.broadcast? third) = some shape ↔
      IsLUB {first, second, third} shape := by
  have regroup : ({first, second, third} : Set Shape) = {first, second} ∪ {third} := by
    ext other
    simp only [Set.mem_insert_iff, Set.mem_singleton_iff, Set.mem_union]
    exact or_assoc.symm
  rw [regroup]
  cases combined : first.broadcast? second with
  | none =>
      rw [Option.bind_none]
      refine iff_of_false nofun fun least => ?_
      have bounded : BddAbove {first, second} := ⟨shape, fun _ member => least.1 (Or.inl member)⟩
      rw [bddAbove_iff, combined] at bounded
      cases bounded
  | some joint =>
      rw [Option.bind_some, broadcast?_eq_some_iff]
      -- The shapes above the two are those above what they combine to.
      refine isLUB_congr ?_
      rw [upperBounds_insert, upperBounds_union, (isLUB_of_broadcast? combined).upperBounds_eq]

/-- **Broadcasting is associative**, and shapes that do not combine do not in either grouping. -/
theorem broadcast?_assoc (first second third : Shape) :
    (first.broadcast? second).bind (fun joint => joint.broadcast? third) =
      (second.broadcast? third).bind fun joint => first.broadcast? joint := by
  have rotate : ({second, third, first} : Set Shape) = {first, second, third} := by
    rw [Set.pair_comm third first, Set.insert_comm]
  ext shape
  simp only [broadcast?_comm first]
  rw [broadcast?_comm second first, bind_broadcast?_eq_some_iff, bind_broadcast?_eq_some_iff,
    rotate]

/-! ### Absorption as broadcasting -/

/-- **A shape absorbs** exactly the shapes that it combines with to itself. -/
theorem absorbs_iff_broadcast? {primary secondary : Shape} :
    primary.absorbs secondary = true ↔ primary.broadcast? secondary = some primary := by
  rw [broadcast?_comm, broadcast?_eq_right]

/-- **Shapes absorb each other in both directions** exactly if they combine. -/
theorem absorbs_bothWays (primary secondary : Shape) :
    primary.absorbs secondary true = true ↔ (primary.broadcast? secondary).isSome = true := by
  let fits (left right : Dim) : Prop := absorbsDim true left right = true
  have aligned := forall_aligned (show fits .one .one from rfl) primary secondary
  unfold absorbs
  by_cases same : primary = secondary
  · simp [same, broadcast?_self]
  · simp only [same, decide_false, Bool.false_or, Bool.true_or, Bool.true_and, List.all_eq_true]
    refine aligned.trans ?_
    simp only [isSome_broadcast?, Dim.isSome_broadcast?_iff, fits]

/-! ### The semilattice -/

/-- **Broadcasting is a partial join** of all shapes. It is commutative, idempotent and associative,
with shapes that do not combine in one grouping not combining in the other, and the shape without
axes is neutral. Absorption is a partial order; what two shapes combine to is the least shape that
absorbs both, and they do not combine exactly if no shape absorbs both. -/
theorem broadcast_joins (first second third : Shape) :
    first.broadcast? second = second.broadcast? first ∧
    first.broadcast? first = some first ∧
    broadcast? [] first = some first ∧ first.broadcast? [] = some first ∧
    (first.broadcast? second).bind (fun joint => joint.broadcast? third) =
      (second.broadcast? third).bind (fun joint => first.broadcast? joint) ∧
    IsPartialOrder Shape (fun lower upper => upper.absorbs lower = true) ∧
    (∀ shape, first.broadcast? second = some shape ↔
      shape.absorbs first = true ∧ shape.absorbs second = true ∧
        ∀ upper : Shape, upper.absorbs first = true → upper.absorbs second = true →
          upper.absorbs shape = true) ∧
    (first.broadcast? second = none ↔
      ¬ ∃ upper : Shape, upper.absorbs first = true ∧ upper.absorbs second = true) := by
  refine ⟨broadcast?_comm first second, broadcast?_self first, nil_broadcast? first,
    broadcast?_comm first [] ▸ nil_broadcast? first, broadcast?_assoc first second third,
    ?order, ?least, ?unbounded⟩
  case order => exact inferInstanceAs (IsPartialOrder Shape (· ≤ ·))
  case least =>
    intro shape
    rw [broadcast?_eq_some_iff, IsLUB, upperBounds_insert, upperBounds_singleton]
    constructor
    · intro least
      exact ⟨least.1.1, least.1.2, fun _ left right => least.2 ⟨left, right⟩⟩
    · intro least
      exact ⟨⟨least.1, least.2.1⟩, fun _ above => least.2.2 _ above.1 above.2⟩
  case unbounded =>
    rw [← Option.not_isSome_iff_eq_none, ← bddAbove_iff, BddAbove, upperBounds_insert,
      upperBounds_singleton]
    exact Iff.rfl

end Shape

end OperatorLowering
