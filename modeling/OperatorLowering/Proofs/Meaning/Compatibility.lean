/-
**Symbolic broadcasting is broadcasting for all sizes.**

Two shapes combine exactly if their dimensions do whatever sizes the symbols stand for. If the
shapes combine, so do the dimensions (`broadcastDims?_under`). If they do not, they fail at some
distance from the end, and sizes that separate the two dimensions there make the dimensions fail as
well:

* `Dim.separating`: sizes under which two dimensions that do not combine differ and neither is one;
* `Shape.exists_separating`: so the dimensions of two shapes that do not combine do not;
* `Shape.broadcast_exact`: both directions, and shapes of known dimensions.
-/

import OperatorLowering.Proofs.Meaning.Programs

namespace OperatorLowering

variable {sizes : String → Nat}

/-! ### Separating sizes -/

/-- Sizes that differ and of which neither is one do not combine. -/
theorem broadcastSize?_eq_none {first second : Nat} (different : first ≠ second)
    (left : first ≠ 1) (right : second ≠ 1) : broadcastSize? first second = none := by
  unfold broadcastSize?
  rw [if_neg different, if_neg left, if_neg right]

namespace Dim

/-- **Sizes that separate two dimensions.** Every symbol is larger than both known sizes, and the
symbol in the first place is smaller than all others. -/
def separating (first second : Dim) (name : String) : Nat :=
  let large := first.under (fun _ => 0) + second.under (fun _ => 0) + 2
  if first = .symbol name then large else large + 1

theorem separating_pos (first second : Dim) (name : String) :
    0 < separating first second name := by
  simp only [separating]
  split <;> exact Nat.succ_pos _

/-- Dimensions that do not combine differ and neither is one. -/
theorem ne_of_broadcast?_eq_none {first second : Dim} (apart : first.broadcast? second = none) :
    first ≠ second ∧ first ≠ .one ∧ second ≠ .one := by
  unfold broadcast? at apart
  by_cases same : first = second
  · rw [if_pos same] at apart
    cases apart
  · rw [if_neg same] at apart
    by_cases one : first = .one
    · rw [if_pos one] at apart
      cases apart
    · rw [if_neg one] at apart
      refine ⟨same, one, fun flat => ?_⟩
      rw [if_pos flat] at apart
      cases apart

theorem toNat_ne_one {n : Int} (other : size n ≠ one) : n.toNat ≠ 1 := by
  intro isOne
  exact other (congrArg size (by omega : n = 1))

/-- **Dimensions that do not combine** have sizes that do not. -/
theorem broadcastSize?_separating {first second : Dim} (left : ∀ n, first = size n → 0 ≤ n)
    (right : ∀ n, second = size n → 0 ≤ n) (apart : first.broadcast? second = none) :
    broadcastSize? (first.under (separating first second))
      (second.under (separating first second)) = none := by
  obtain ⟨different, notOne, notFlat⟩ := ne_of_broadcast?_eq_none apart
  cases first with
  | size n =>
      have nonnegative := left n rfl
      have n_ne := toNat_ne_one notOne
      cases second with
      | size m =>
          have nonnegative' := right m rfl
          have n_ne_m : n ≠ m := fun same => different (congrArg size same)
          refine broadcastSize?_eq_none ?_ n_ne (toNat_ne_one notFlat)
          show n.toNat ≠ m.toNat
          omega
      | symbol name =>
          refine broadcastSize?_eq_none ?_ n_ne ?_ <;>
            simp only [under, separating, reduceCtorEq, if_false] <;> omega
  | symbol name =>
      cases second with
      | size m =>
          refine broadcastSize?_eq_none ?_ ?_ (toNat_ne_one notFlat) <;>
            simp only [under, separating, if_true] <;> omega
      | symbol other =>
          refine broadcastSize?_eq_none ?_ ?_ ?_ <;>
            simp only [under, separating, different, if_true, if_false] <;> omega

end Dim

namespace Shape

variable {first second shape : Shape}

theorem isSome_broadcastDims? :
    (broadcastDims? (first.under sizes) (second.under sizes)).isSome = true ↔ ∀ distance,
      (broadcastSize? ((fromEnd Dim.one first distance).under sizes)
        ((fromEnd Dim.one second distance).under sizes)).isSome = true := by
  simp only [← fromEnd_under]
  exact isSome_alignMap? (by rw [broadcastSize?_self]; rfl)

theorem Natural.fromEnd_nonneg (natural : shape.Natural) (distance : Nat) (n : Int)
    (known : fromEnd Dim.one shape distance = .size n) : 0 ≤ n := by
  by_cases one : fromEnd Dim.one shape distance = .one
  · cases one.symm.trans known
    decide
  · exact natural n (known ▸ fromEnd_mem one)

/-- **Shapes that do not combine** have dimensions that do not for some sizes of the symbols. -/
theorem exists_separating (left : first.Natural) (right : second.Natural)
    (apart : first.broadcast? second = none) :
    ∃ sizes, (∀ name, 0 < sizes name) ∧
      broadcastDims? (first.under sizes) (second.under sizes) = none := by
  have failing : ¬ (first.broadcast? second).isSome = true := by simp [apart]
  rw [isSome_broadcast?, not_forall] at failing
  obtain ⟨distance, here⟩ := failing
  let dim := fromEnd Dim.one first distance
  let dim' := fromEnd Dim.one second distance
  refine ⟨Dim.separating dim dim', Dim.separating_pos dim dim', ?_⟩
  have clash := Dim.broadcastSize?_separating (left.fromEnd_nonneg distance)
    (right.fromEnd_nonneg distance) (Option.not_isSome_iff_eq_none.mp here)
  refine Option.not_isSome_iff_eq_none.mp fun combined => ?_
  rw [isSome_broadcastDims?] at combined
  exact Option.not_isSome_iff_eq_none.mpr clash (combined distance)

/-! ### Known dimensions -/

/-- A shape of known dimensions. -/
def ofSizes (dims : List Nat) : Shape :=
  dims.map fun dim : Nat => .size dim

theorem under_eq_of_isStatic (known : shape.isStatic = true) (sizes other : String → Nat) :
    shape.under sizes = shape.under other := by
  refine List.map_congr_left fun dim member => ?_
  cases dim with
  | size n => rfl
  | symbol name => cases List.all_eq_true.mp known _ member

/-- A shape of known dimensions is read off its sizes. -/
theorem ofSizes_under (natural : shape.Natural) (known : shape.isStatic = true) :
    ofSizes (shape.under sizes) = shape := by
  unfold ofSizes under
  rw [List.map_map]
  refine (List.map_congr_left fun dim member => ?_).trans (List.map_id shape)
  cases dim with
  | size n => exact congrArg Dim.size (Int.toNat_of_nonneg (natural n member))
  | symbol name => cases List.all_eq_true.mp known _ member

theorem isStatic_broadcast? (left : first.isStatic = true) (right : second.isStatic = true)
    (combined : first.broadcast? second = some shape) : shape.isStatic = true := by
  refine List.all_eq_true.mpr fun dim member => ?_
  by_cases one : dim = .one
  · rw [one]
    rfl
  · exact (mem_of_broadcast? combined member one).elim (List.all_eq_true.mp left dim)
      (List.all_eq_true.mp right dim)

/-- **Shapes of known dimensions** combine exactly as their dimensions do. -/
theorem broadcast?_of_isStatic (left : first.Natural) (right : second.Natural)
    (known : first.isStatic = true) (known' : second.isStatic = true) (sizes : String → Nat) :
    first.broadcast? second =
      (broadcastDims? (first.under sizes) (second.under sizes)).map ofSizes := by
  cases found : first.broadcast? second with
  | some shape =>
      rw [broadcastDims?_under found, Option.map_some,
        ofSizes_under (left.broadcast? right found) (isStatic_broadcast? known known' found)]
  | none =>
      obtain ⟨other, _, apart⟩ := exists_separating left right found
      rw [under_eq_of_isStatic known sizes other, under_eq_of_isStatic known' sizes other, apart,
        Option.map_none]

/-- **Broadcasting of shapes is broadcasting of their dimensions for all sizes.** The shape that two
shapes combine to stands for what their dimensions combine to, whatever positive sizes the symbols
have; shapes that do not combine have dimensions that do not for some positive sizes. So two shapes
combine if and only if they are compatible for all sizes, and shapes of known dimensions combine
exactly as their dimensions do. -/
theorem broadcast_exact {first second : Shape} (left : first.Natural) (right : second.Natural) :
    (∀ shape, first.broadcast? second = some shape → ∀ sizes : String → Nat,
      (∀ name, 0 < sizes name) →
        broadcastDims? (first.under sizes) (second.under sizes) = some (shape.under sizes)) ∧
    (first.broadcast? second = none → ∃ sizes : String → Nat, (∀ name, 0 < sizes name) ∧
      broadcastDims? (first.under sizes) (second.under sizes) = none) ∧
    ((first.broadcast? second).isSome = true ↔ ∀ sizes : String → Nat, (∀ name, 0 < sizes name) →
      (broadcastDims? (first.under sizes) (second.under sizes)).isSome = true) ∧
    (first.isStatic = true → second.isStatic = true → ∀ sizes : String → Nat,
      first.broadcast? second =
        (broadcastDims? (first.under sizes) (second.under sizes)).map ofSizes) := by
  refine ⟨?_, exists_separating left right, ⟨?_, ?_⟩, broadcast?_of_isStatic left right⟩
  · intro shape combined sizes _
    exact broadcastDims?_under combined
  · intro combined sizes _
    obtain ⟨shape, found⟩ := Option.isSome_iff_exists.mp combined
    rw [broadcastDims?_under found]
    rfl
  · intro compatible
    by_contra failing
    obtain ⟨sizes, positive, apart⟩ :=
      exists_separating left right (Option.not_isSome_iff_eq_none.mp failing)
    exact Option.not_isSome_iff_eq_none.mpr apart (compatible sizes positive)

/-- Zero, ones and symbols: `[n, 1, 2]` and `[m, 2]` combine for all sizes, `[n, 1, 2]` and `[m, 0]`
do not for some. -/
theorem broadcast_exact_mixed :
    let first : Shape := [.symbol "n", .size 1, .size 2]
    let second : Shape := [.symbol "m", .size 2]
    let third : Shape := [.symbol "m", .size 0]
    first.Natural ∧ second.Natural ∧ third.Natural ∧
      (∀ sizes : String → Nat, (∀ name, 0 < sizes name) →
        broadcastDims? (first.under sizes) (second.under sizes) =
          some [sizes "n", sizes "m", 2]) ∧
      ∃ sizes : String → Nat, (∀ name, 0 < sizes name) ∧
        broadcastDims? (first.under sizes) (third.under sizes) = none := by
  intro first second third
  have left : first.Natural := by simp [Natural, first]
  have right : second.Natural := by simp [Natural, second]
  have other : third.Natural := by simp [Natural, third]
  have combined : first.broadcast? second = some [.symbol "n", .symbol "m", .size 2] := by decide
  have apart : first.broadcast? third = none := by decide
  exact ⟨left, right, other, (broadcast_exact left right).1 _ combined,
    (broadcast_exact left other).2.1 apart⟩

end Shape

end OperatorLowering
