/-
**Broadcasting, dimension by dimension.**

Shapes combine, and a shape absorbs another, exactly if their dimensions do at every distance from
the end (`broadcast?_eq_some`, `absorbs_iff`). What follows for single dimensions then follows for
shapes:

* `broadcast?_self`: a shape combines with itself to itself;
* `broadcast?_again`: what two shapes combine to absorbs each of them;
* `broadcast?_of_absorbs`: a shape that absorbs another is what they combine to, and the other may
  be padded.
-/

import OperatorLowering.Proofs.Shape.Alignment
import OperatorLowering.Shape.Basic

namespace OperatorLowering

namespace Dim

theorem broadcast?_self (dim : Dim) : dim.broadcast? dim = some dim :=
  if_pos rfl

theorem broadcast?_one (dim : Dim) : dim.broadcast? .one = some dim := by
  unfold broadcast?
  by_cases same : dim = .one
  · rw [if_pos same]
  · rw [if_neg same, if_neg same, if_pos rfl]

/-- What two dimensions combine to combines with either of them to itself. -/
theorem broadcast?_again {first second dim : Dim} (combined : first.broadcast? second = some dim) :
    first.broadcast? dim = some dim ∧ dim.broadcast? first = some dim := by
  unfold broadcast? at combined
  by_cases same : first = second
  · rw [if_pos same, Option.some.injEq] at combined
    rw [← combined]
    exact ⟨broadcast?_self first, broadcast?_self first⟩
  · rw [if_neg same] at combined
    by_cases one : first = .one
    · rw [if_pos one, Option.some.injEq] at combined
      rw [← combined, one]
      refine ⟨?_, broadcast?_one second⟩
      rw [one] at same
      unfold broadcast?
      rw [if_neg same, if_pos rfl]
    · rw [if_neg one] at combined
      by_cases flat : second = .one
      · rw [if_pos flat, Option.some.injEq] at combined
        rw [← combined]
        exact ⟨broadcast?_self first, broadcast?_self first⟩
      · rw [if_neg flat] at combined
        cases combined

/-- A dimension leaves another one as it is if they are the same or it is one. -/
theorem broadcast?_eq_right {first second : Dim} :
    first.broadcast? second = some second ↔ first = second ∨ first = .one := by
  unfold broadcast?
  by_cases same : first = second
  · simp [same]
  · rw [if_neg same]
    by_cases one : first = .one
    · simp [one]
    · rw [if_neg one]
      refine iff_of_false (fun combined => ?_) (not_or.mpr ⟨same, one⟩)
      split at combined
      · exact same (Option.some.inj combined)
      · cases combined

/-- Two dimensions combine to one of them. -/
theorem eq_of_broadcast? {first second dim : Dim} (combined : first.broadcast? second = some dim) :
    first = dim ∨ second = dim := by
  unfold broadcast? at combined
  split at combined
  · exact Or.inl (Option.some.inj combined)
  · split at combined
    · exact Or.inr (Option.some.inj combined)
    · split at combined
      · exact Or.inl (Option.some.inj combined)
      · cases combined

end Dim

namespace Shape

theorem broadcast?_eq_some {first second shape : Shape} :
    first.broadcast? second = some shape ↔
      shape.length = max first.length second.length ∧
        ∀ distance, (fromEnd Dim.one first distance).broadcast? (fromEnd Dim.one second distance) =
          some (fromEnd Dim.one shape distance) :=
  alignMap?_eq_some (Dim.broadcast?_self .one)

/-- Shapes combine if their dimensions do at every distance from the end. -/
theorem isSome_broadcast? {first second : Shape} :
    (first.broadcast? second).isSome = true ↔ ∀ distance,
      ((fromEnd Dim.one first distance).broadcast? (fromEnd Dim.one second distance)).isSome =
        true :=
  isSome_alignMap? (by rw [Dim.broadcast?_self]; rfl)

theorem length_of_broadcast? {first second shape : Shape}
    (combined : first.broadcast? second = some shape) :
    shape.length = max first.length second.length :=
  (broadcast?_eq_some.mp combined).1

/-- **What two shapes combine to** has, apart from ones, dimensions of either shape. -/
theorem mem_of_broadcast? {first second shape : Shape} {dim : Dim}
    (combined : first.broadcast? second = some shape) (member : dim ∈ shape) (other : dim ≠ .one) :
    dim ∈ first ∨ dim ∈ second := by
  obtain ⟨distance, rfl⟩ := exists_fromEnd Dim.one member
  rcases Dim.eq_of_broadcast? ((broadcast?_eq_some.mp combined).2 distance) with same | same
  · rw [← same] at other ⊢
    exact Or.inl (fromEnd_mem other)
  · rw [← same] at other ⊢
    exact Or.inr (fromEnd_mem other)

/-- A shape combines with itself to itself. -/
theorem broadcast?_self (shape : Shape) : shape.broadcast? shape = some shape :=
  broadcast?_eq_some.mpr ⟨(Nat.max_self _).symm, fun _ => Dim.broadcast?_self _⟩

/-- **What two shapes combine to** combines with the first of them to itself, on either side. -/
theorem broadcast?_again {first second shape : Shape}
    (combined : first.broadcast? second = some shape) :
    first.broadcast? shape = some shape ∧ shape.broadcast? first = some shape := by
  obtain ⟨length, dims⟩ := broadcast?_eq_some.mp combined
  refine ⟨broadcast?_eq_some.mpr ⟨by omega, ?_⟩, broadcast?_eq_some.mpr ⟨by omega, ?_⟩⟩
  · intro distance
    exact (Dim.broadcast?_again (dims distance)).1
  · intro distance
    exact (Dim.broadcast?_again (dims distance)).2

/-! ### Absorption -/

theorem fromEnd_padTo (rank : Nat) (shape : Shape) (distance : Nat) :
    fromEnd Dim.one (shape.padTo rank) distance = fromEnd Dim.one shape distance :=
  fromEnd_padFront rank shape distance

/-- **A shape absorbs another** that is no longer and whose dimensions are its own or one. -/
theorem absorbs_iff {primary secondary : Shape} :
    primary.absorbs secondary = true ↔ secondary.length ≤ primary.length ∧
      ∀ distance, fromEnd Dim.one secondary distance = fromEnd Dim.one primary distance ∨
        fromEnd Dim.one secondary distance = .one := by
  let fits (left right : Dim) : Prop := right = left ∨ right = .one
  have aligned := forall_aligned (show fits .one .one from Or.inl rfl) primary secondary
  unfold absorbs
  by_cases same : primary = secondary
  · rw [same]
    simp
  · simp only [same, decide_false, Bool.false_or, Bool.and_eq_true, decide_eq_true_eq,
      List.all_eq_true]
    refine and_congr_right fun _ => Iff.trans (forall₂_congr fun pair _ => ?_) aligned
    simp only [absorbsDim, Bool.false_and, Bool.or_false, Bool.or_eq_true, decide_eq_true_eq, fits]
    exact or_congr_left eq_comm

theorem absorbs_self (shape : Shape) : shape.absorbs shape = true :=
  absorbs_iff.mpr ⟨Nat.le_refl _, fun _ => Or.inl rfl⟩

/-- A shape is what it combines to with a shape that it absorbs. -/
theorem broadcast?_of_absorbs {primary secondary : Shape}
    (absorbed : primary.absorbs secondary = true) :
    primary.broadcast? secondary = some primary := by
  obtain ⟨shorter, dims⟩ := absorbs_iff.mp absorbed
  refine broadcast?_eq_some.mpr ⟨(Nat.max_eq_left shorter).symm, ?_⟩
  intro distance
  rcases dims distance with same | one
  · rw [same]
    exact Dim.broadcast?_self _
  · rw [one]
    exact Dim.broadcast?_one _

/-- A shape leaves another one as it is exactly if that one absorbs it. -/
theorem broadcast?_eq_right {first second : Shape} :
    first.broadcast? second = some second ↔ second.absorbs first = true := by
  rw [broadcast?_eq_some, absorbs_iff]
  simp only [Dim.broadcast?_eq_right]
  refine and_congr_left' ?_
  omega

/-- Padding the absorbed shape changes nothing. -/
theorem absorbs_padTo {primary secondary : Shape} (absorbed : primary.absorbs secondary = true) :
    primary.absorbs (secondary.padTo primary.length) = true := by
  obtain ⟨shorter, dims⟩ := absorbs_iff.mp absorbed
  refine absorbs_iff.mpr ⟨?_, ?_⟩
  · rw [length_padTo]
    omega
  · intro distance
    rw [fromEnd_padTo]
    exact dims distance

end Shape

end OperatorLowering
