/-
**Which slices and reshapes are accepted.**

A slice is accepted axis by axis: an offset and a stride in range, and a size that reads inside the
dimension, or the whole of a symbolic one. A reshape to a shape of the same number of elements is
accepted if its known dimensions are in range and at most one symbol has moved to an axis where the
operand does not have it, for the backend finds only one dimension by itself.

* `Shape.spans?_isSome`: the slices whose axes are all accepted;
* `Shape.targetIndices?_isSome`: the reshapes that the backend is given a target for;
* `Shape.targetIndices?_padTo_isSome`: the same for leading dimensions of size one.
-/

import Mathlib.Data.List.NodupEquivFin
import Mathlib.Tactic.Push
import OperatorLowering.Proofs.Graph.Request

namespace OperatorLowering

theorem fitsIndex_iff {value : Int} :
    fitsIndex value = true ↔ indexMin ≤ value ∧ value ≤ indexMax := by
  rw [fitsIndex, Bool.and_eq_true, decide_eq_true_eq, decide_eq_true_eq]

/-- Integers that are not negative fit if they are not too large. -/
theorem fitsIndex_nonneg {value : Int} (least : 0 ≤ value) :
    fitsIndex value = true ↔ value ≤ indexMax := by
  have above : indexMin ≤ value := Int.le_trans (by decide) least
  rw [fitsIndex_iff, and_iff_right above]

theorem replicate_fits (count : Nat) {value : Int} (fits : fitsIndex value = true) :
    (List.replicate count value).all fitsIndex = true := by
  rw [List.all_eq_true]
  intro other member
  rwa [(List.mem_replicate.mp member).2]

/-- The axes of a shape of `rank + 1` dimensions fit if the last of them does. -/
theorem axes_fit_iff (rank : Nat) :
    ((List.range (rank + 1)).map Int.ofNat).all fitsIndex = true ↔ (rank : Int) ≤ indexMax := by
  rw [List.all_map, List.all_eq_true]
  constructor
  · intro all
    exact (fitsIndex_nonneg (Int.natCast_nonneg rank)).mp (all rank List.self_mem_range_succ)
  · intro last axis member
    refine (fitsIndex_nonneg (Int.natCast_nonneg axis)).mpr (Int.le_trans ?_ last)
    exact Int.ofNat_le.mpr (Nat.le_of_lt_succ (List.mem_range.mp member))

/-! ### Slices -/

/-- A dimension may be sliced: a known size reads inside it, a symbolic size is the whole of it. -/
def Dim.Sliced (dim : Dim) (offset : Int) (size : Dim) (stride : Int) : Prop :=
  0 ≤ offset ∧ 1 ≤ stride ∧
    match size with
    | .symbol _ => dim = size ∧ offset = 0 ∧ stride = 1
    | .size count =>
      1 ≤ count ∧ ∀ bound, dim = .size bound → offset + (count - 1) * stride < bound

/-- All axes of a shape may be sliced. -/
inductive Shape.Sliced : Shape → List Int → Shape → List Int → Prop
  | nil : Sliced [] [] [] []
  | cons {dim size : Dim} {offset stride : Int} {shape sizes : Shape} {offsets strides : List Int}
      (first : dim.Sliced offset size stride) (rest : Sliced shape offsets sizes strides) :
      Sliced (dim :: shape) (offset :: offsets) (size :: sizes) (stride :: strides)

namespace SpanRequest

theorem known_isOk (axis : Nat) (dim : Dim) (offset size stride : Int) :
    (∃ span, known axis dim offset size stride = .ok span) ↔
      1 ≤ size ∧ ∀ bound, dim = .size bound → offset + (size - 1) * stride < bound := by
  unfold known
  by_cases least : size < 1
  · rw [if_pos least]
    refine iff_of_false nofun fun holds => ?_
    exact absurd holds.1 (Int.not_le.mpr least)
  · rw [if_neg least]
    cases dim with
    | symbol name => exact iff_of_true ⟨_, rfl⟩ ⟨Int.not_lt.mp least, nofun⟩
    | size bound =>
        by_cases outside : bound ≤ offset + (size - 1) * stride
        · simp only [if_pos outside]
          refine iff_of_false nofun fun holds => ?_
          exact absurd (holds.2 bound rfl) (Int.not_lt.mpr outside)
        · simp only [if_neg outside]
          refine iff_of_true ⟨_, rfl⟩ ⟨Int.not_lt.mp least, ?_⟩
          rintro _ ⟨⟩
          exact Int.not_le.mp outside

theorem whole_isOk (axis : Nat) (dim : Dim) (offset : Int) (size : String) (stride : Int) :
    (∃ span, whole axis dim offset size stride = .ok span) ↔
      dim = .symbol size ∧ offset = 0 ∧ stride = 1 := by
  unfold whole
  by_cases covers : dim = .symbol size ∧ offset = 0 ∧ stride = 1
  · rw [if_pos covers]
    exact iff_of_true ⟨_, rfl⟩ covers
  · rw [if_neg covers]
    exact iff_of_false nofun covers

/-- **One axis** is accepted if its dimension may be sliced so. -/
theorem toSpan_isOk (axis : Nat) (dim size : Dim) (offset stride : Int) :
    (∃ span, toSpan ⟨dim, some offset, .dim size, some stride⟩ axis = .ok span) ↔
      dim.Sliced offset size stride := by
  by_cases inside : 0 ≤ offset ∧ 1 ≤ stride
  · rw [toSpan_inRange axis dim size inside.1 inside.2]
    cases size with
    | size size =>
        exact (known_isOk axis dim offset size stride).trans
          ⟨fun holds => ⟨inside.1, inside.2, holds⟩, fun holds => holds.2.2⟩
    | symbol size =>
        exact (whole_isOk axis dim offset size stride).trans
          ⟨fun holds => ⟨inside.1, inside.2, holds⟩, fun holds => holds.2.2⟩
  · obtain ⟨reason, failed⟩ := toSpan_outOfRange axis dim size inside
    rw [failed]
    exact iff_of_false nofun fun holds => inside ⟨holds.1, holds.2.1⟩

/-- **All axes** are accepted if the shape may be sliced so. -/
theorem toSpans_isOk (axis : Nat) {shape sizes : Shape} {offsets strides : List Int}
    (offsetCount : offsets.length = shape.length) (sizeCount : sizes.length = shape.length)
    (strideCount : strides.length = shape.length) :
    (∃ spans, toSpans axis (align shape (offsets.map some) (sizes.map SizeRequest.dim)
        (strides.map some)) = .ok spans) ↔ shape.Sliced offsets sizes strides := by
  induction shape generalizing sizes offsets strides axis with
  | nil =>
      obtain rfl := List.length_eq_zero_iff.mp offsetCount
      obtain rfl := List.length_eq_zero_iff.mp sizeCount
      obtain rfl := List.length_eq_zero_iff.mp strideCount
      exact iff_of_true ⟨[], rfl⟩ .nil
  | cons dim shape ih =>
      obtain ⟨offset, offsets, rfl⟩ := List.exists_cons_of_length_eq_add_one offsetCount
      obtain ⟨size, sizes, rfl⟩ := List.exists_cons_of_length_eq_add_one sizeCount
      obtain ⟨stride, strides, rfl⟩ := List.exists_cons_of_length_eq_add_one strideCount
      simp only [List.length_cons, Nat.add_right_cancel_iff] at offsetCount sizeCount strideCount
      have first := toSpan_isOk axis dim size offset stride
      have rest := ih (axis + 1) offsetCount sizeCount strideCount
      simp only [List.map_cons, align, toSpans]
      constructor
      · rintro ⟨spans, passed⟩
        obtain ⟨span, firstPassed, passed⟩ := except_bind_ok passed
        obtain ⟨others, restPassed, _⟩ := except_bind_ok passed
        exact .cons (first.mp ⟨span, firstPassed⟩) (rest.mp ⟨others, restPassed⟩)
      · rintro (_ | ⟨firstSliced, restSliced⟩)
        obtain ⟨span, firstPassed⟩ := first.mpr firstSliced
        obtain ⟨others, restPassed⟩ := rest.mpr restSliced
        exact ⟨span :: others, by rw [firstPassed, restPassed]; rfl⟩

end SpanRequest

namespace Shape

theorem Sliced.lengths {shape sizes : Shape} {offsets strides : List Int}
    (sliced : shape.Sliced offsets sizes strides) :
    offsets.length = shape.length ∧ sizes.length = shape.length ∧
      strides.length = shape.length := by
  induction sliced with
  | nil => exact ⟨rfl, rfl, rfl⟩
  | cons first rest ih => simpa using ih

/-- A slice reads something along every axis. -/
theorem Sliced.positive {shape sizes : Shape} {offsets strides : List Int}
    (sliced : shape.Sliced offsets sizes strides) : ∀ size, .size size ∈ sizes → 1 ≤ size := by
  induction sliced with
  | nil => exact nofun
  | cons first rest ih =>
      intro size member
      rcases List.mem_cons.mp member with rfl | later
      · exact first.2.2.1
      · exact ih size later

theorem sliced_cons {dim size : Dim} {offset stride : Int} {shape sizes : Shape}
    {offsets strides : List Int} :
    (Shape.Sliced (dim :: shape) (offset :: offsets) (size :: sizes) (stride :: strides)) ↔
      dim.Sliced offset size stride ∧ shape.Sliced offsets sizes strides :=
  ⟨fun | .cons first rest => ⟨first, rest⟩, fun holds => .cons holds.1 holds.2⟩

/-- Whole axes in front of some others. -/
theorem sliced_whole_append {lead more sizes : Shape} {offsets strides : List Int} :
    (lead ++ more).Sliced (List.replicate lead.length 0 ++ offsets) (lead ++ sizes)
        (List.replicate lead.length 1 ++ strides) ↔
      (∀ size, .size size ∈ lead → 1 ≤ size) ∧ more.Sliced offsets sizes strides := by
  have whole (dim : Dim) : dim.Sliced 0 dim 1 ↔ ∀ size, dim = .size size → 1 ≤ size := by
    cases dim with
    | symbol name => exact iff_of_true ⟨Int.le_refl 0, Int.le_refl 1, rfl, rfl, rfl⟩ nofun
    | size count =>
        constructor
        · rintro ⟨_, _, positive, _⟩ _ ⟨⟩
          exact positive
        · intro positive
          refine ⟨Int.le_refl 0, Int.le_refl 1, positive count rfl, ?_⟩
          rintro _ ⟨⟩
          omega
  induction lead with
  | nil => exact ⟨fun sliced => ⟨nofun, sliced⟩, And.right⟩
  | cons dim lead ih =>
      simp only [List.length_cons, List.replicate_succ, List.cons_append, sliced_cons, ih, whole,
        List.mem_cons, or_imp, forall_and, eq_comm, and_assoc]

/-- **The slices that have spans** are those whose axes are all accepted. -/
theorem spans?_isSome {shape sizes : Shape} {offsets strides : List Int} :
    (shape.spans? offsets sizes strides).isSome = true ↔ shape.Sliced offsets sizes strides := by
  unfold spans?
  by_cases aligned : offsets.length = sizes.length ∧ sizes.length = strides.length ∧
      strides.length = shape.length
  · rw [if_pos aligned, ← SpanRequest.toSpans_isOk 0 (by omega) (by omega) aligned.2.2]
    cases SpanRequest.toSpans 0 (SpanRequest.align shape (offsets.map some)
        (sizes.map SizeRequest.dim) (strides.map some)) with
    | ok spans => exact iff_of_true rfl ⟨spans, rfl⟩
    | error fault => exact iff_of_false nofun nofun
  · rw [if_neg aligned]
    refine iff_of_false nofun fun sliced => aligned ?_
    obtain ⟨offsetCount, sizeCount, strideCount⟩ := sliced.lengths
    omega

end Shape

/-- Whole axes end where they do, in front of some others. -/
theorem Span.stopsFor_whole_append (lead sizes : Shape) (offsets strides : List Int) :
    stopsFor (List.replicate lead.length 0 ++ offsets) (lead ++ sizes)
        (List.replicate lead.length 1 ++ strides) =
      lead.map (fun dim => stopFor 0 dim 1) ++ stopsFor offsets sizes strides := by
  induction lead with
  | nil => rfl
  | cons dim lead ih =>
      simp only [List.length_cons, List.replicate_succ, List.cons_append, stopsFor, ih,
        List.map_cons]

/-- The ends of whole axes fit if their known dimensions do. -/
theorem Span.whole_ends_fit_iff {lead : Shape} (positive : ∀ size, .size size ∈ lead → 1 ≤ size) :
    (lead.map fun dim => stopFor 0 dim 1).all fitsIndex = true ↔
      ∀ size, .size size ∈ lead → size ≤ indexMax := by
  have ends (size : Int) : stopFor 0 (.size size) 1 = size := by
    rw [stopFor]
    omega
  rw [List.all_map, List.all_eq_true]
  constructor
  · intro fit size member
    have fits : fitsIndex (stopFor 0 (.size size) 1) = true := fit _ member
    rw [ends, fitsIndex_nonneg (Int.le_trans (by decide) (positive size member))] at fits
    exact fits
  · intro most dim member
    cases dim with
    | symbol name => rfl
    | size size =>
        show fitsIndex (stopFor 0 (.size size) 1) = true
        rw [ends, fitsIndex_nonneg (Int.le_trans (by decide) (positive size member))]
        exact most size member

/-- The integers of a slice's constants fit: its starts, ends, axes and steps. -/
def Span.AllFit (offsets : List Int) (sizes : Shape) (strides : List Int) : Prop :=
  offsets.all fitsIndex = true ∧ (stopsFor offsets sizes strides).all fitsIndex = true ∧
    ((List.range sizes.length).map Int.ofNat).all fitsIndex = true ∧ strides.all fitsIndex = true

/-- The constants of an accepted slice hold their integers if these fit. -/
theorem Span.indices?_isSome {shape sizes : Shape} {offsets strides : List Int} {spans : List Span}
    (accepted : shape.spans? offsets sizes strides = some spans) :
    (indices? spans).isSome = true ↔ AllFit offsets sizes strides := by
  rw [indices?_of_reads (Shape.reads_of_spans? accepted), Option.isSome_ite]
  rfl

/-- **A slice has a result** if its axes are accepted and its constants hold their integers. -/
theorem Request.type?_slice {a type : TensorType} {offsets : List Int} {sizes : Shape}
    {strides : List Int} :
    (Request.slice a offsets sizes strides).type? = some type ↔
      a.shape.Sliced offsets sizes strides ∧ Span.AllFit offsets sizes strides ∧
        type = ⟨sizes, a.dtype⟩ := by
  have reading : (Request.slice a offsets sizes strides).type? =
      ((a.shape.spans? offsets sizes strides).bind Span.indices?).map
        fun _ => ⟨sizes, a.dtype⟩ := rfl
  rw [reading, ← Shape.spans?_isSome]
  cases spanned : a.shape.spans? offsets sizes strides with
  | none => exact iff_of_false nofun nofun
  | some spans =>
      rw [Option.bind_some, ← Span.indices?_isSome spanned, Option.isSome_some, and_iff_right rfl]
      cases Span.indices? spans with
      | none => exact iff_of_false nofun nofun
      | some indices =>
          rw [Option.map_some, Option.some.injEq, Option.isSome_some, and_iff_right rfl, eq_comm]

/-- **A slice is oversized** if its axes are accepted and its constants do not hold their
integers. -/
theorem Request.oversized_slice {a : TensorType} {offsets : List Int} {sizes : Shape}
    {strides : List Int} (oversized : (Request.slice a offsets sizes strides).Oversized) :
    a.shape.Sliced offsets sizes strides ∧ ¬ Span.AllFit offsets sizes strides := by
  cases oversized with
  | slice accepted unfit =>
      rw [← Shape.spans?_isSome, ← Span.indices?_isSome accepted, accepted, unfit]
      exact ⟨rfl, Bool.false_ne_true⟩

/-! ### Reshapes -/

/-- At an axis of a new shape stands a symbol that the old shape does not have there. -/
def Shape.Moved (shape newShape : Shape) (axis : Nat) : Prop :=
  ∃ name, newShape[axis]? = some (.symbol name) ∧ shape[axis]? ≠ some (.symbol name)

/-- The known dimensions of a shape are in the range of index constants, and not empty. -/
def Shape.InRange (shape : Shape) : Prop :=
  ∀ size, .size size ∈ shape → 1 ≤ size ∧ size ≤ indexMax

/-- How a dimension is found where the operand has the dimension `old`. -/
def TargetDim.of (old : Option Dim) (dim : Dim) : TargetDim :=
  match dim with
  | .size size => .fixed size
  | .symbol _ => if old = some dim then .copied else .inferred

/-- One value stands at two places of a list if it is there more than once. -/
theorem count_le_one_iff {Item : Type} [DecidableEq Item] {items : List Item} {item : Item} :
    items.count item ≤ 1 ↔ ∀ (i j : Nat), items[i]? = some item → items[j]? = some item → i = j := by
  have twice : ¬ items.count item ≤ 1 ↔ items.Duplicate item := by
    rw [List.duplicate_iff_two_le_count]
    omega
  rw [← not_iff_not, twice, List.duplicate_iff_exists_distinct_get]
  push Not
  constructor
  · rintro ⟨i, j, before, atI, atJ⟩
    exact ⟨i, j, by rw [atI]; exact List.getElem?_eq_getElem i.isLt,
      by rw [atJ]; exact List.getElem?_eq_getElem j.isLt, Nat.ne_of_lt before⟩
  · rintro ⟨i, j, atI, atJ, different⟩
    obtain ⟨insideI, isI⟩ := List.getElem?_eq_some_iff.mp atI
    obtain ⟨insideJ, isJ⟩ := List.getElem?_eq_some_iff.mp atJ
    rcases Nat.lt_or_gt_of_ne different with before | behind
    · exact ⟨⟨i, insideI⟩, ⟨j, insideJ⟩, before, isI.symm, isJ.symm⟩
    · exact ⟨⟨j, insideJ⟩, ⟨i, insideI⟩, behind, isJ.symm, isI.symm⟩

namespace Shape

theorem targetDim_eq_ok {axis : Nat} {old : Option Dim} {dim : Dim} {found : TargetDim} :
    targetDim axis old dim = .ok found ↔
      (∀ size, dim = .size size → 1 ≤ size) ∧ TargetDim.of old dim = found := by
  cases dim with
  | symbol name =>
      rw [and_iff_right nofun]
      exact ⟨Except.ok.inj, congrArg Except.ok⟩
  | size size =>
      by_cases least : size < 1
      · have refused : targetDim axis old (.size size) = refuse (.reshapeDim axis) := if_pos least
        rw [refused]
        exact iff_of_false nofun fun holds => absurd (holds.1 size rfl) (Int.not_le.mpr least)
      · have passed : targetDim axis old (.size size) = .ok (.fixed size) := if_neg least
        have positive : ∀ other, Dim.size size = .size other → 1 ≤ other := by
          rintro _ ⟨⟩
          exact Int.not_lt.mp least
        rw [passed, and_iff_right positive]
        exact ⟨Except.ok.inj, congrArg Except.ok⟩

theorem targetDims_cons {shape newShape : Shape} {axis : Nat} {dim : Dim}
    {target : List TargetDim} :
    shape.targetDims axis (dim :: newShape) = .ok target ↔
      ∃ first others, targetDim axis shape[axis]? dim = .ok first ∧
        shape.targetDims (axis + 1) newShape = .ok others ∧ first :: others = target := by
  constructor
  · intro passed
    obtain ⟨first, found, passed⟩ := except_bind_ok passed
    obtain ⟨others, rest, passed⟩ := except_bind_ok passed
    exact ⟨first, others, found, rest, Except.ok.inj passed⟩
  · rintro ⟨first, others, found, rest, rfl⟩
    rw [targetDims, found, rest]
    rfl

/-- The dimensions of a new shape are found if the known ones are not empty. -/
theorem targetDims_isOk (shape : Shape) {newShape : Shape} (axis : Nat) :
    (∃ target, shape.targetDims axis newShape = .ok target) ↔
      ∀ size, .size size ∈ newShape → 1 ≤ size := by
  induction newShape generalizing axis with
  | nil => exact iff_of_true ⟨[], rfl⟩ nofun
  | cons dim rest ih =>
      simp only [targetDims_cons]
      constructor
      · rintro ⟨_, first, others, found, passed, _⟩ size member
        rcases List.mem_cons.mp member with same | later
        · exact (targetDim_eq_ok.mp found).1 size same.symm
        · exact (ih (axis + 1)).mp ⟨others, passed⟩ size later
      · intro positive
        obtain ⟨others, passed⟩ := (ih (axis + 1)).mpr fun size later =>
          positive size (List.mem_cons_of_mem dim later)
        have first := fun size (same : dim = .size size) => positive size (same ▸ List.mem_cons_self)
        exact ⟨_, _, others, targetDim_eq_ok.mpr ⟨first, rfl⟩, passed, rfl⟩

theorem getElem?_targetDims {shape newShape : Shape} {axis : Nat} {target : List TargetDim}
    (passed : shape.targetDims axis newShape = .ok target) (index : Nat) :
    target[index]? = newShape[index]?.map (TargetDim.of shape[axis + index]?) := by
  induction newShape generalizing axis target index with
  | nil =>
      cases passed
      rfl
  | cons dim rest ih =>
      obtain ⟨first, others, found, later, rfl⟩ := targetDims_cons.mp passed
      cases index with
      | zero =>
          rw [List.getElem?_cons_zero, List.getElem?_cons_zero, Option.map_some, Nat.add_zero,
            (targetDim_eq_ok.mp found).2]
      | succ index =>
          rw [List.getElem?_cons_succ, List.getElem?_cons_succ, ih later,
            Nat.add_assoc, Nat.add_comm 1]

/-- What is left to the backend are the symbols that have moved. -/
theorem inferred_iff {shape newShape : Shape} {target : List TargetDim}
    (passed : shape.targetDims 0 newShape = .ok target) (index : Nat) :
    target[index]? = some .inferred ↔ shape.Moved newShape index := by
  rw [getElem?_targetDims passed, Nat.zero_add, Option.map_eq_some_iff]
  constructor
  · rintro ⟨dim, there, inferred⟩
    cases dim with
    | size size => cases inferred
    | symbol name =>
        refine ⟨name, there, fun same => ?_⟩
        rw [same, TargetDim.of, if_pos rfl] at inferred
        cases inferred
  · rintro ⟨name, there, gone⟩
    exact ⟨_, there, if_neg gone⟩

/-- All integers of a target fit if its known dimensions do. -/
theorem codes_fit_iff {shape newShape : Shape} {target : List TargetDim}
    (passed : shape.targetDims 0 newShape = .ok target) :
    (target.map TargetDim.code).all fitsIndex = true ↔
      ∀ size, .size size ∈ newShape → size ≤ indexMax := by
  have positive := (targetDims_isOk shape 0).mp ⟨target, passed⟩
  rw [List.all_map, List.all_eq_true]
  constructor
  · intro fit size member
    obtain ⟨index, there⟩ := List.mem_iff_getElem?.mp member
    have found := getElem?_targetDims passed index
    rw [there, Option.map_some] at found
    exact (fitsIndex_iff.mp (fit _ (List.mem_of_getElem? found))).2
  · intro most code member
    obtain ⟨index, there⟩ := List.mem_iff_getElem?.mp member
    rw [getElem?_targetDims passed, Option.map_eq_some_iff] at there
    obtain ⟨dim, listed, rfl⟩ := there
    have old := List.mem_of_getElem? listed
    cases dim with
    | size size =>
        refine fitsIndex_iff.mpr ⟨Int.le_trans ?_ (positive size old), most size old⟩
        decide
    | symbol name =>
        by_cases stays : shape[0 + index]? = some (.symbol name)
        · rw [TargetDim.of, if_pos stays]
          rfl
        · rw [TargetDim.of, if_neg stays]
          rfl

theorem reshapeTarget_eq_ok {shape newShape : Shape} {target : List TargetDim} :
    shape.reshapeTarget newShape = .ok target ↔
      shape.requireSameVolume newShape = .ok () ∧ shape.targetDims 0 newShape = .ok target ∧
        target.count .inferred ≤ 1 := by
  constructor
  · intro passed
    obtain ⟨_, volumes, passed⟩ := except_bind_ok passed
    obtain ⟨found, dims, passed⟩ := except_bind_ok passed
    by_cases many : found.count .inferred > 1
    · rw [if_pos many] at passed
      cases passed
    · rw [if_neg many] at passed
      cases passed
      exact ⟨volumes, dims, Nat.le_of_not_lt many⟩
  · rintro ⟨volumes, dims, few⟩
    rw [reshapeTarget, volumes, dims]
    exact if_neg (Nat.not_lt.mpr few)

/-- **A reshape is oversized** for a known dimension beyond 64 bits. -/
theorem oversized_reshape {type : TensorType} {newShape : Shape}
    (oversized : (Request.reshape type newShape).Oversized) :
    ∃ size, .size size ∈ newShape ∧ indexMax < size := by
  cases oversized with
  | reshape accepted unfit =>
      obtain ⟨_, dims, _⟩ := reshapeTarget_eq_ok.mp accepted
      by_contra small
      push Not at small
      rw [(codes_fit_iff dims).mpr small] at unfit
      cases unfit

/-- A target is given if the integers of its dimensions fit. -/
theorem targetIndices?_eq_some {shape newShape : Shape} {indices : List Int} :
    shape.targetIndices? newShape = some indices ↔
      ∃ target, shape.reshapeTarget newShape = .ok target ∧
        (target.map TargetDim.code).all fitsIndex = true ∧ target.map TargetDim.code = indices := by
  unfold targetIndices?
  cases shape.reshapeTarget newShape with
  | error fault => exact iff_of_false nofun nofun
  | ok target =>
      show (if (target.map TargetDim.code).all fitsIndex = true then
        some (target.map TargetDim.code) else none) = some indices ↔ _
      by_cases fits : (target.map TargetDim.code).all fitsIndex = true
      · rw [if_pos fits, Option.some.injEq]
        constructor
        · intro same
          exact ⟨target, rfl, fits, same⟩
        · rintro ⟨_, ⟨⟩, _, same⟩
          exact same
      · rw [if_neg fits]
        refine iff_of_false nofun ?_
        rintro ⟨_, ⟨⟩, others, _⟩
        exact fits others

/-- **The reshapes that the backend is given a target for.** -/
theorem targetIndices?_isSome {shape newShape : Shape} :
    (shape.targetIndices? newShape).isSome = true ↔
      shape.requireSameVolume newShape = .ok () ∧ newShape.InRange ∧
        ∀ i j, shape.Moved newShape i → shape.Moved newShape j → i = j := by
  simp only [Option.isSome_iff_exists, targetIndices?_eq_some]
  constructor
  · rintro ⟨_, target, passed, fits, _⟩
    obtain ⟨volumes, dims, few⟩ := reshapeTarget_eq_ok.mp passed
    refine ⟨volumes, fun size member => ⟨(targetDims_isOk shape 0).mp ⟨target, dims⟩ size member,
      (codes_fit_iff dims).mp fits size member⟩, fun i j movedI movedJ => ?_⟩
    exact count_le_one_iff.mp few i j ((inferred_iff dims i).mpr movedI)
      ((inferred_iff dims j).mpr movedJ)
  · rintro ⟨volumes, inRange, single⟩
    obtain ⟨target, dims⟩ := (targetDims_isOk shape 0).mpr fun size member => (inRange size member).1
    refine ⟨_, target, reshapeTarget_eq_ok.mpr ⟨volumes, dims, count_le_one_iff.mpr ?_⟩,
      (codes_fit_iff dims).mpr fun size member => (inRange size member).2, rfl⟩
    intro i j atI atJ
    exact single i j ((inferred_iff dims i).mp atI) ((inferred_iff dims j).mp atJ)

/-- Leading dimensions of size one keep the number of elements. -/
theorem volume_padTo (rank : Nat) (shape : Shape) : (shape.padTo rank).volume = shape.volume := by
  unfold padTo
  induction rank - shape.length with
  | zero => rfl
  | succ count ih =>
      rw [List.replicate_succ, List.cons_append, Dim.one, volume]
      show (volume (List.replicate count Dim.one ++ shape)).map (1 * ·) = _
      rw [ih]
      cases shape.volume with
      | none => rfl
      | some old => exact congrArg some (Int.one_mul old)

/-- Padding is no change of the volume that a reshape refuses. -/
theorem requireSameVolume_padTo (rank : Nat) (shape : Shape) :
    shape.requireSameVolume (shape.padTo rank) = .ok () := by
  unfold requireSameVolume
  rw [volume_padTo]
  cases shape.volume with
  | none => rfl
  | some old => exact if_pos rfl

/-- The ones that a shape is padded with are in range. -/
theorem inRange_padTo {rank : Nat} {shape : Shape} :
    (shape.padTo rank).InRange ↔ shape.InRange := by
  constructor
  · intro padded size member
    exact padded size (List.mem_append_right _ member)
  · intro inside size member
    rcases List.mem_append.mp member with one | old
    · cases (List.mem_replicate.mp one).2
      exact ⟨Int.le_refl 1, by decide⟩
    · exact inside size old

/-- **Leading dimensions of size one** may be added if the known dimensions are in range and at most
one symbol moves to an axis where it was not. -/
theorem targetIndices?_padTo_isSome {rank : Nat} {shape : Shape} :
    (shape.targetIndices? (shape.padTo rank)).isSome = true ↔
      shape.InRange ∧ ∀ i j, shape.Moved (shape.padTo rank) i → shape.Moved (shape.padTo rank) j →
        i = j := by
  rw [targetIndices?_isSome, and_iff_right (requireSameVolume_padTo rank shape), inRange_padTo]

/-- Nothing but symbols that move speaks against leading dimensions of size one. -/
theorem reshapeTarget_padTo_refused {rank : Nat} {shape : Shape} {fault : Fault}
    (inRange : shape.InRange) (refused : shape.reshapeTarget (shape.padTo rank) = .error fault) :
    fault = .rejected (.reshapeUnresolved (shape.padTo rank)) := by
  obtain ⟨target, dims⟩ := (targetDims_isOk shape 0).mpr fun size member =>
    (inRange_padTo.mpr inRange size member).1
  rw [reshapeTarget, requireSameVolume_padTo, dims] at refused
  by_cases many : target.count .inferred > 1
  · exact (Except.error.inj ((if_pos many).symm.trans refused)).symm
  · cases (if_neg many).symm.trans refused

end Shape

/-- A request is steady if it takes symbolic axes whole and adds only ones in front: then its result
has the declared shape whatever sizes the symbols stand for. -/
def Request.steady : Request TensorType → Bool
  | .slice a _ sizes _ => (a.shape.zip sizes).all fun axis => axis.1.size?.isSome || axis.1 = axis.2
  | .reshape a shape => shape = a.shape.padTo shape.length
  | _ => true

end OperatorLowering
