/-
**The integers of slices and reshapes.**

A slice of integers and dimensions asks each axis for exactly its offset, size and stride; an axis
gives a span with these, or a rejection. The integers that steer an accepted slice are therefore its
own offsets and strides, the ends that its spans compute, and the axes in order.

* `SpanRequest.toSpans_cases`: the spans of a slice, or a rejection;
* `Span.indices?`: the constants that a slice reads, if 64 bits hold them;
* `Shape.targetIndices?`: the constant that a reshape reads.
-/

import OperatorLowering.Graph.Reshape
import OperatorLowering.Graph.Slice

namespace OperatorLowering

/-- The integers of the constants that a slice reads, in their order. -/
structure SliceIndices where
  starts : List Int
  ends : List Int
  axes : List Int
  steps : List Int

/-- The spans of a slice given by integers and dimensions, if every axis is accepted. -/
def Shape.spans? (shape : Shape) (offsets : List Int) (sizes : Shape) (strides : List Int) :
    Option (List Span) :=
  if offsets.length = sizes.length ∧ sizes.length = strides.length ∧
      strides.length = shape.length then
    (SpanRequest.toSpans 0 (SpanRequest.align shape (offsets.map some)
      (sizes.map SizeRequest.dim) (strides.map some))).toOption
  else none

/-- The integers of the constants for some spans, if all of them fit. -/
def Span.indices? (spans : List Span) : Option SliceIndices := do
  let starts := spans.map Span.start
  let axes := (List.range spans.length).map Int.ofNat
  let steps := spans.map Span.step
  let ends ← ((spans.map Span.stop).mapM Number.toIndex).toOption
  if starts.all fitsIndex ∧ ends.all fitsIndex ∧ axes.all fitsIndex ∧ steps.all fitsIndex then
    some ⟨starts, ends, axes, steps⟩
  else none

/-- The integers of the target of a reshape, if it is accepted and all of them fit. -/
def Shape.targetIndices? (shape newShape : Shape) : Option (List Int) := do
  let target ← (shape.reshapeTarget newShape).toOption
  if (target.map TargetDim.code).all fitsIndex then some (target.map TargetDim.code) else none

/-! ### Spans -/

/-- Where an accepted axis ends: behind its last index, or for a symbol at the greatest index. -/
def Span.stopFor (offset : Int) (size : Dim) (stride : Int) : Int :=
  match size with
  | .size size => offset + (size - 1) * stride + 1
  | .symbol _ => indexMax

/-- Where the axes of an accepted slice end. -/
def Span.stopsFor : List Int → Shape → List Int → List Int
  | offset :: offsets, size :: sizes, stride :: strides =>
    Span.stopFor offset size stride :: stopsFor offsets sizes strides
  | _, _, _ => []

/-- Spans that read exactly what was asked for. -/
structure Span.Reads (spans : List Span) (offsets : List Int) (sizes : Shape)
    (strides : List Int) : Prop where
  starts : spans.map Span.start = offsets
  stops : spans.map Span.stop = (Span.stopsFor offsets sizes strides).map Number.integer
  steps : spans.map Span.step = strides
  sizes : spans.map Span.size = sizes

namespace SpanRequest

theorem known_cases (axis : Nat) (dim : Dim) (offset size stride : Int) :
    known axis dim offset size stride =
        .ok ⟨offset, .integer (offset + (size - 1) * stride + 1), stride, .size size⟩ ∨
      ∃ reason, known axis dim offset size stride = .error (.rejected reason) := by
  unfold known
  by_cases least : size < 1
  · exact Or.inr ⟨_, by simp only [least, if_true]; rfl⟩
  · cases dim with
    | size bound =>
        by_cases outside : bound ≤ offset + (size - 1) * stride
        · exact Or.inr ⟨_, by simp only [least, outside, if_true, if_false]; rfl⟩
        · exact Or.inl (by simp only [least, outside, if_false])
    | symbol name => exact Or.inl (by simp only [least, if_false])

theorem whole_cases (axis : Nat) (dim : Dim) (offset : Int) (size : String) (stride : Int) :
    whole axis dim offset size stride = .ok ⟨offset, .integer indexMax, stride, .symbol size⟩ ∨
      ∃ reason, whole axis dim offset size stride = .error (.rejected reason) := by
  unfold whole
  by_cases covers : dim = .symbol size ∧ offset = 0 ∧ stride = 1
  · exact Or.inl (if_pos covers)
  · exact Or.inr ⟨_, if_neg covers⟩

/-- What an axis answers to an offset and a stride that are in range. -/
theorem toSpan_inRange (axis : Nat) (dim size : Dim) {offset stride : Int} (least : 0 ≤ offset)
    (positive : 1 ≤ stride) :
    toSpan ⟨dim, some offset, .dim size, some stride⟩ axis =
      match size with
      | .symbol size => whole axis dim offset size stride
      | .size size => known axis dim offset size stride := by
  have offsetStays : (some offset).filter (0 ≤ ·) = some offset := by
    simp only [Option.filter, least, decide_true, if_true]
  have strideStays : (some stride).filter (1 ≤ ·) = some stride := by
    simp only [Option.filter, positive, decide_true, if_true]
  unfold toSpan
  rw [offsetStays, strideStays]
  cases size <;> rfl

/-- An offset or a stride that is not in range is rejected. -/
theorem toSpan_outOfRange (axis : Nat) (dim size : Dim) {offset stride : Int}
    (outside : ¬(0 ≤ offset ∧ 1 ≤ stride)) :
    ∃ reason, toSpan ⟨dim, some offset, .dim size, some stride⟩ axis =
      .error (.rejected reason) := by
  by_cases least : 0 ≤ offset
  · refine ⟨.sliceStride axis, ?_⟩
    have negative : ¬ 1 ≤ stride := fun positive => outside ⟨least, positive⟩
    have strideGoes : (some stride).filter (1 ≤ ·) = none := by
      simp only [Option.filter, negative, decide_false, Bool.false_eq_true, if_false]
    have offsetStays : (some offset).filter (0 ≤ ·) = some offset := by
      simp only [Option.filter, least, decide_true, if_true]
    unfold toSpan
    rw [offsetStays, strideGoes]
    rfl
  · refine ⟨.sliceOffset axis, ?_⟩
    have offsetGoes : (some offset).filter (0 ≤ ·) = none := by
      simp only [Option.filter, least, decide_false, Bool.false_eq_true, if_false]
    unfold toSpan
    rw [offsetGoes]
    rfl

/-- **One axis** gives a span that reads what was asked for, or a rejection. -/
theorem toSpan_cases (axis : Nat) (dim size : Dim) (offset stride : Int) :
    toSpan ⟨dim, some offset, .dim size, some stride⟩ axis =
        .ok ⟨offset, .integer (Span.stopFor offset size stride), stride, size⟩ ∨
      ∃ reason, toSpan ⟨dim, some offset, .dim size, some stride⟩ axis =
        .error (.rejected reason) := by
  by_cases inside : 0 ≤ offset ∧ 1 ≤ stride
  · rw [toSpan_inRange axis dim size inside.1 inside.2]
    cases size with
    | size size => exact known_cases axis dim offset size stride
    | symbol size => exact whole_cases axis dim offset size stride
  · exact Or.inr (toSpan_outOfRange axis dim size inside)

/-- **All axes**: the spans read what was asked for, or the first rejection is the answer. -/
theorem toSpans_cases (shape sizes : Shape) (offsets strides : List Int) (axis : Nat)
    (offsetCount : offsets.length = shape.length) (sizeCount : sizes.length = shape.length)
    (strideCount : strides.length = shape.length) :
    (∃ spans, toSpans axis (align shape (offsets.map some) (sizes.map SizeRequest.dim)
        (strides.map some)) = .ok spans ∧ Span.Reads spans offsets sizes strides) ∨
      ∃ reason, toSpans axis (align shape (offsets.map some) (sizes.map SizeRequest.dim)
        (strides.map some)) = .error (.rejected reason) := by
  induction shape generalizing sizes offsets strides axis with
  | nil =>
      obtain rfl := List.length_eq_zero_iff.mp offsetCount
      obtain rfl := List.length_eq_zero_iff.mp sizeCount
      obtain rfl := List.length_eq_zero_iff.mp strideCount
      exact Or.inl ⟨[], rfl, ⟨rfl, rfl, rfl, rfl⟩⟩
  | cons dim shape ih =>
      obtain ⟨offset, offsets, rfl⟩ := List.exists_cons_of_length_eq_add_one offsetCount
      obtain ⟨size, sizes, rfl⟩ := List.exists_cons_of_length_eq_add_one sizeCount
      obtain ⟨stride, strides, rfl⟩ := List.exists_cons_of_length_eq_add_one strideCount
      simp only [List.length_cons, Nat.add_right_cancel_iff] at offsetCount sizeCount strideCount
      simp only [List.map_cons, align, toSpans]
      rcases toSpan_cases axis dim size offset stride with passed | ⟨reason, failed⟩
      · rw [passed]
        rcases ih sizes offsets strides (axis + 1) offsetCount sizeCount strideCount with
          ⟨spans, rest, reads⟩ | ⟨reason, rest⟩
        · rw [rest]
          refine Or.inl ⟨_, rfl, ⟨?_, ?_, ?_, ?_⟩⟩
          · rw [List.map_cons, reads.starts]
          · rw [List.map_cons, reads.stops, Span.stopsFor, List.map_cons]
          · rw [List.map_cons, reads.steps]
          · rw [List.map_cons, reads.sizes]
        · rw [rest]
          exact Or.inr ⟨reason, rfl⟩
      · rw [failed]
        exact Or.inr ⟨reason, rfl⟩

end SpanRequest

/-! ### Integers of index constants -/

/-- An index constant takes integers as they are, if all of them fit. -/
theorem toIndex_integers (values : List Int) :
    (values.map Number.integer).mapM Number.toIndex =
      if values.all fitsIndex then .ok values else .error .constantTooLarge := by
  induction values with
  | nil => rfl
  | cons value rest ih =>
      rw [List.map_cons, List.mapM_cons, ih, List.all_cons]
      by_cases first : fitsIndex value = true
      · by_cases others : rest.all fitsIndex = true
        · simp only [Number.toIndex, first, others, if_true, Bool.and_self]
          rfl
        · simp only [Number.toIndex, first, others, if_true, Bool.true_and]
          rfl
      · simp only [Number.toIndex, first, Bool.false_eq_true, if_false, Bool.false_and]
        rfl

/-- The constants of spans that read what was asked for. -/
theorem Span.indices?_of_reads {spans : List Span} {offsets strides : List Int} {sizes : Shape}
    (reads : Span.Reads spans offsets sizes strides) :
    Span.indices? spans =
      if offsets.all fitsIndex ∧ (Span.stopsFor offsets sizes strides).all fitsIndex ∧
          ((List.range sizes.length).map Int.ofNat).all fitsIndex ∧ strides.all fitsIndex then
        some ⟨offsets, Span.stopsFor offsets sizes strides,
          (List.range sizes.length).map Int.ofNat, strides⟩
      else none := by
  have count : sizes.length = spans.length := by rw [← reads.sizes, List.length_map]
  unfold Span.indices?
  rw [reads.starts, reads.stops, reads.steps, toIndex_integers, count]
  by_cases fits : (Span.stopsFor offsets sizes strides).all fitsIndex = true
  · rw [if_pos fits]
    rfl
  · rw [if_neg fits, if_neg fun all => fits all.2.1]
    rfl

/-! ### Accepted slices -/

/-- The spans of an accepted slice read what was asked for. -/
theorem Shape.reads_of_spans? {shape sizes : Shape} {offsets strides : List Int}
    {spans : List Span} (accepted : shape.spans? offsets sizes strides = some spans) :
    Span.Reads spans offsets sizes strides := by
  unfold Shape.spans? at accepted
  by_cases aligned : offsets.length = sizes.length ∧ sizes.length = strides.length ∧
      strides.length = shape.length
  · rw [if_pos aligned] at accepted
    rcases SpanRequest.toSpans_cases shape sizes offsets strides 0 (by omega) (by omega)
      aligned.2.2 with ⟨spans', passed, reads⟩ | ⟨reason, failed⟩
    · rw [passed] at accepted
      cases accepted
      exact reads
    · rw [failed] at accepted
      cases accepted
  · rw [if_neg aligned] at accepted
    cases accepted

/-- The integers that an accepted slice reads. -/
theorem Shape.indices_of_spans? {shape sizes : Shape} {offsets strides : List Int}
    {spans : List Span} {indices : SliceIndices}
    (accepted : shape.spans? offsets sizes strides = some spans)
    (fit : Span.indices? spans = some indices) :
    indices = ⟨offsets, Span.stopsFor offsets sizes strides,
      (List.range sizes.length).map Int.ofNat, strides⟩ := by
  rw [Span.indices?_of_reads (Shape.reads_of_spans? accepted)] at fit
  split at fit
  · exact (Option.some.inj fit).symm
  · cases fit

end OperatorLowering
