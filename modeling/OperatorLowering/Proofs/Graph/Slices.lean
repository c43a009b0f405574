/-
**Slices of any numbers.**

A caller may ask for a slice with doubles and with values that are no numbers. Whatever the
arguments are, a slice asks its tensor for spans, and embeds their integers in four constants. It is
accepted if the graph owns the tensor, every axis gives a span and 64 bits hold all integers; which
graph it is does not matter beyond that.

* `Handle.spans`: the spans that are asked of a tensor, whoever owns it;
* `Handle.spans?_of_exact`: a slice without doubles is one of integers and dimensions;
* `Build.slice_accepts_or_refuses`: how every slice ends.
-/

import OperatorLowering.Proofs.Graph.Request

namespace OperatorLowering

/-- The spans that a slice asks of a tensor, whoever owns it. -/
def Handle.spans (a : Handle) (offsets : List (Option Int)) (sizes : List SizeRequest)
    (strides : List (Option Int)) : Except Fault (List Span) :=
  if offsets.length = sizes.length ∧ sizes.length = strides.length ∧ strides.length = a.rank then
    SpanRequest.toSpans 0 (SpanRequest.align a.shape offsets sizes strides)
  else refuse (.sliceArity a.rank offsets.length sizes.length strides.length)

/-- The additions of an accepted slice: the constants of its spans, its node and its layer. -/
def sliceAdditions (a : Handle) (spans : List Span) (indices : SliceIndices)
    (layer starts ends axes steps : String) (output : Handle) : List Addition :=
  [.constant ⟨starts, .indices indices.starts⟩, .constant ⟨ends, .indices indices.ends⟩,
      .constant ⟨axes, .indices indices.axes⟩, .constant ⟨steps, .indices indices.steps⟩] ++
    Request.ending layer
      (.slice (spans.map Span.start) (spans.map Span.size) (spans.map Span.step)) [a]
      [a.name, starts, ends, axes, steps] output

/-- A graph accepted a slice with `output`. -/
structure SliceAccepted (a : Handle) (offsets : List (Option Int)) (sizes : List SizeRequest)
    (strides : List (Option Int)) (before : Graph) (output : Handle) (after : Graph) : Prop where
  owned : before.owns a = true
  adds : ∃ spans indices, a.spans offsets sizes strides = .ok spans ∧
    Span.indices? spans = some indices ∧ output.type = ⟨spans.map Span.size, a.dtype⟩ ∧
      ∃ layer starts ends axes steps,
        before.Grows (sliceAdditions a spans indices layer starts ends axes steps output) after

/-- A graph refused a slice. -/
inductive SliceRefused (a : Handle) (offsets : List (Option Int)) (sizes : List SizeRequest)
    (strides : List (Option Int)) (before : Graph) : Fault → Graph → Prop
  /-- It does not own the tensor, or an axis is refused. -/
  | checked (fault : Fault) (fails : before.sliceSpans a offsets sizes strides = .error fault) :
      SliceRefused a offsets sizes strides before fault before
  /-- The spans have integers that no constant holds; the constants before them are left. -/
  | unfit (spans : List Span) (fault : Fault) (after : Graph) (constants : List Constant)
      (asked : a.spans offsets sizes strides = .ok spans) (unfit : Span.indices? spans = none)
      (cause : fault = .constantTooLarge ∨
        (spans.map Span.stop).mapM Number.toIndex = .error fault)
      (grows : before.Grows (constants.map Addition.constant) after) :
      SliceRefused a offsets sizes strides before fault after

/-! ### Spans -/

theorem SpanRequest.length_toSpans {requests : List SpanRequest} {axis : Nat} {spans : List Span}
    (passed : toSpans axis requests = .ok spans) : spans.length = requests.length := by
  induction requests generalizing axis spans with
  | nil =>
      cases passed
      rfl
  | cons request rest ih =>
      obtain ⟨span, _, passed⟩ := except_bind_ok passed
      obtain ⟨others, later, passed⟩ := except_bind_ok passed
      cases passed
      rw [List.length_cons, List.length_cons, ih later]

theorem SpanRequest.length_align {shape : Shape} {offsets strides : List (Option Int)}
    {sizes : List SizeRequest} (offsetCount : offsets.length = shape.length)
    (sizeCount : sizes.length = shape.length) (strideCount : strides.length = shape.length) :
    (align shape offsets sizes strides).length = shape.length := by
  induction shape generalizing offsets sizes strides with
  | nil => rfl
  | cons dim shape ih =>
      obtain ⟨offset, offsets, rfl⟩ := List.exists_cons_of_length_eq_add_one offsetCount
      obtain ⟨size, sizes, rfl⟩ := List.exists_cons_of_length_eq_add_one sizeCount
      obtain ⟨stride, strides, rfl⟩ := List.exists_cons_of_length_eq_add_one strideCount
      simp only [List.length_cons, Nat.add_right_cancel_iff] at offsetCount sizeCount strideCount
      rw [align, List.length_cons, List.length_cons, ih offsetCount sizeCount strideCount]

namespace Handle

variable {a : Handle} {offsets strides : List (Option Int)} {sizes : List SizeRequest}
  {spans : List Span}

/-- A slice asks for as many spans as its tensor has axes. -/
theorem lengths_of_spans (asked : a.spans offsets sizes strides = .ok spans) :
    offsets.length = a.rank ∧ sizes.length = a.rank ∧ strides.length = a.rank ∧
      SpanRequest.toSpans 0 (SpanRequest.align a.shape offsets sizes strides) = .ok spans := by
  unfold Handle.spans at asked
  by_cases aligned : offsets.length = sizes.length ∧ sizes.length = strides.length ∧
      strides.length = a.rank
  · rw [if_pos aligned] at asked
    obtain ⟨offsetCount, sizeCount, strideCount⟩ := aligned
    exact ⟨by omega, by omega, strideCount, asked⟩
  · rw [if_neg aligned] at asked
    cases asked

theorem length_spans (asked : a.spans offsets sizes strides = .ok spans) :
    spans.length = a.rank := by
  obtain ⟨offsetCount, sizeCount, strideCount, passed⟩ := lengths_of_spans asked
  rw [SpanRequest.length_toSpans passed,
    SpanRequest.length_align offsetCount sizeCount strideCount, rank]

end Handle

/-- The span of a size given as a double. -/
structure Span.Measured (span : Span) (value : Float) : Prop where
  size : span.size = .size (Number.truncate value)
  stop : span.stop = .real (SpanRequest.measuredLast span.start value span.step + 1)

/-- The span of a size given as an integer or a symbol, on an axis of this dimension. -/
structure Span.Exact (span : Span) (dim : Dim) (axis : Nat) : Prop where
  stop : span.stop = .integer (Span.stopFor span.start span.size span.step)
  asked : SpanRequest.toSpan ⟨dim, some span.start, .dim span.size, some span.step⟩ axis = .ok span

/-- An accepted request has an offset and a stride in range. -/
theorem SpanRequest.inRange_of_toSpan {dim : Dim} {offset stride : Option Int} {size : SizeRequest}
    {axis : Nat} {span : Span} (passed : toSpan ⟨dim, offset, size, stride⟩ axis = .ok span) :
    ∃ start step, offset = some start ∧ 0 ≤ start ∧ stride = some step ∧ 1 ≤ step := by
  unfold toSpan at passed
  cases kept : offset.filter (0 ≤ ·) with
  | none =>
      rw [kept] at passed
      cases passed
  | some start =>
      rw [kept] at passed
      cases keptStride : stride.filter (1 ≤ ·) with
      | none =>
          rw [keptStride] at passed
          cases passed
      | some step =>
          obtain ⟨isOffset, least⟩ := Option.filter_eq_some_iff.mp kept
          obtain ⟨isStride, positive⟩ := Option.filter_eq_some_iff.mp keptStride
          exact ⟨start, step, isOffset, of_decide_eq_true least, isStride,
            of_decide_eq_true positive⟩

/-- **What an accepted axis reads**: its span has the size of the request, unless that was given as
a double. -/
theorem SpanRequest.of_toSpan {dim : Dim} {offset stride : Option Int} {size : SizeRequest}
    {axis : Nat} {span : Span} (passed : toSpan ⟨dim, offset, size, stride⟩ axis = .ok span) :
    (∃ value, size = .real value ∧ span.Measured value) ∨
      (∀ value, size ≠ .real value) ∧ span.Exact dim axis := by
  obtain ⟨start, step, rfl, least, rfl, positive⟩ := inRange_of_toSpan passed
  have exact {size : Dim} (passed : toSpan ⟨dim, some start, .dim size, some step⟩ axis = .ok span) :
      span.Exact dim axis := by
    rcases toSpan_cases axis dim size start step with found | ⟨reason, failed⟩
    · rw [found] at passed
      cases passed
      exact ⟨rfl, found⟩
    · rw [failed] at passed
      cases passed
  have offsetStays : (some start).filter (0 ≤ ·) = some start := by
    simp only [Option.filter, least, decide_true, if_true]
  have strideStays : (some step).filter (1 ≤ ·) = some step := by
    simp only [Option.filter, positive, decide_true, if_true]
  cases size with
  | dim size => exact Or.inr ⟨nofun, exact passed⟩
  | real value =>
      refine Or.inl ⟨value, rfl, ?_⟩
      unfold toSpan at passed
      rw [offsetStays, strideStays] at passed
      simp only [measured] at passed
      split at passed
      · cases passed
      · split at passed
        · cases passed
        · split at passed
          · cases passed
          · cases passed
            exact ⟨rfl, rfl⟩
  | foreign value =>
      refine Or.inr ⟨nofun, @exact (.size 1) ?_⟩
      rw [toSpan_inRange axis dim (.size 1) least positive]
      unfold toSpan at passed
      rw [offsetStays, strideStays] at passed
      split at passed
      · next none => cases none
      · next none => cases none
      · next isSize => cases isSize
      · next isSize => cases isSize
      · next isSize => cases isSize
      · cases passed
      · next isOffset isStride isSize =>
          cases isOffset
          cases isStride
          exact passed
      · cases passed

/-- What an accepted slice reads along each axis of a shape, the first of them at `axis`. -/
theorem SpanRequest.of_toSpans {shape : Shape} {offsets strides : List (Option Int)}
    {sizes : List SizeRequest} (axis : Nat) {spans : List Span}
    (offsetCount : offsets.length = shape.length) (sizeCount : sizes.length = shape.length)
    (strideCount : strides.length = shape.length)
    (passed : toSpans axis (align shape offsets sizes strides) = .ok spans) :
    List.Forall₂ (fun entry span => (∃ value, .real value ∈ sizes ∧ span.Measured value) ∨
      span.Exact entry.1 entry.2) (shape.zipIdx axis) spans := by
  induction shape generalizing offsets sizes strides axis spans with
  | nil =>
      cases passed
      exact .nil
  | cons dim shape ih =>
      obtain ⟨offset, offsets, rfl⟩ := List.exists_cons_of_length_eq_add_one offsetCount
      obtain ⟨size, sizes, rfl⟩ := List.exists_cons_of_length_eq_add_one sizeCount
      obtain ⟨stride, strides, rfl⟩ := List.exists_cons_of_length_eq_add_one strideCount
      simp only [List.length_cons, Nat.add_right_cancel_iff] at offsetCount sizeCount strideCount
      obtain ⟨span, first, passed⟩ := except_bind_ok passed
      obtain ⟨others, rest, passed⟩ := except_bind_ok passed
      cases passed
      refine .cons ?_ ?_
      · rcases of_toSpan first with ⟨value, rfl, measured⟩ | ⟨_, exact⟩
        · exact Or.inl ⟨value, List.mem_cons_self, measured⟩
        · exact Or.inr exact
      · refine (ih (axis + 1) offsetCount sizeCount strideCount rest).imp fun _ _ read => ?_
        exact read.imp_left fun ⟨value, member, measured⟩ =>
          ⟨value, List.mem_cons_of_mem _ member, measured⟩

/-- Spans that all read integers and symbols are asked for by these. -/
theorem SpanRequest.toSpans_of_exact {shape : Shape} (axis : Nat) {spans : List Span}
    (exact : List.Forall₂ (fun entry span => span.Exact entry.1 entry.2) (shape.zipIdx axis)
      spans) :
    toSpans axis (align shape ((spans.map Span.start).map some)
      ((spans.map Span.size).map SizeRequest.dim) ((spans.map Span.step).map some)) = .ok spans := by
  induction shape generalizing axis spans with
  | nil =>
      cases exact
      rfl
  | cons dim shape ih =>
      rw [List.zipIdx_cons] at exact
      obtain _ | ⟨first, rest⟩ := exact
      simp only [List.map_cons, align, toSpans, first.asked, ih (axis + 1) rest]
      rfl

/-- A slice of integers and dimensions asks for the spans of its shape. -/
theorem Shape.spans?_eq_some {a : Handle} {offsets strides : List Int} {sizes : Shape}
    {spans : List Span} :
    a.shape.spans? offsets sizes strides = some spans ↔
      a.spans (offsets.map some) (sizes.map SizeRequest.dim) (strides.map some) = .ok spans := by
  unfold Shape.spans? Handle.spans
  simp only [List.length_map, Handle.rank]
  by_cases aligned : offsets.length = sizes.length ∧ sizes.length = strides.length ∧
      strides.length = a.shape.length
  · rw [if_pos aligned, if_pos aligned]
    cases SpanRequest.toSpans 0 (SpanRequest.align a.shape (offsets.map some)
        (sizes.map SizeRequest.dim) (strides.map some)) with
    | ok found => exact ⟨fun same => by cases same; rfl, fun same => by cases same; rfl⟩
    | error fault => exact iff_of_false nofun nofun
  · rw [if_neg aligned, if_neg aligned]
    exact iff_of_false nofun nofun

/-- **What an accepted slice reads** along each axis of its tensor. -/
theorem Handle.reads_of_spans {a : Handle} {offsets strides : List (Option Int)}
    {sizes : List SizeRequest} {spans : List Span}
    (asked : a.spans offsets sizes strides = .ok spans) :
    List.Forall₂ (fun entry span => (∃ value, .real value ∈ sizes ∧ span.Measured value) ∨
      span.Exact entry.1 entry.2) a.shape.zipIdx spans := by
  obtain ⟨offsetCount, sizeCount, strideCount, passed⟩ := lengths_of_spans asked
  exact SpanRequest.of_toSpans 0 offsetCount sizeCount strideCount passed

/-- **A slice without doubles** is one of integers and dimensions. -/
theorem Handle.spans?_of_exact {a : Handle} {offsets strides : List (Option Int)}
    {sizes : List SizeRequest} {spans : List Span}
    (asked : a.spans offsets sizes strides = .ok spans) (exact : ∀ value, .real value ∉ sizes) :
    a.shape.spans? (spans.map Span.start) (spans.map Span.size) (spans.map Span.step) =
      some spans := by
  have count := length_spans asked
  have reads := (reads_of_spans asked).imp fun _ _ read =>
    read.resolve_left fun ⟨value, member, _⟩ => exact value member
  refine Shape.spans?_eq_some.mpr ?_
  unfold Handle.spans
  simp only [List.length_map, count, and_self, if_true]
  exact SpanRequest.toSpans_of_exact 0 reads

/-- The spans of a slice are those asked of its tensor, if the graph owns it. -/
theorem Graph.sliceSpans_eq_ok {graph : Graph} {a : Handle} {offsets strides : List (Option Int)}
    {sizes : List SizeRequest} {spans : List Span} :
    graph.sliceSpans a offsets sizes strides = .ok spans ↔
      graph.owns a = true ∧ a.spans offsets sizes strides = .ok spans := by
  have reading : graph.sliceSpans a offsets sizes strides =
      graph.requireOwned a >>= fun _ => a.spans offsets sizes strides := rfl
  rw [reading, requireOwned]
  cases graph.owns a with
  | true => exact (and_iff_right rfl).symm
  | false => exact iff_of_false nofun nofun

/-! ### Constants -/

/-- What an index constant takes for a number fits it. -/
theorem fitsIndex_of_toIndex {number : Number} {value : Int}
    (taken : number.toIndex = .ok value) : fitsIndex value = true := by
  cases number with
  | integer given =>
      by_cases fits : fitsIndex given = true
      · rw [Number.toIndex, if_pos fits] at taken
        cases taken
        exact fits
      · rw [Number.toIndex, if_neg fits] at taken
        cases taken
  | real given =>
      rw [Number.toIndex] at taken
      by_cases nothing : given.isNaN = true
      · rw [if_pos nothing] at taken
        cases taken
      · by_cases infinite : given.isInf = true
        · rw [if_neg nothing, if_pos infinite] at taken
          cases taken
        · by_cases fits : fitsIndex (Number.truncate given) = true
          · rw [if_neg nothing, if_neg infinite, if_pos fits] at taken
            rwa [← Except.ok.inj taken]
          · rw [if_neg nothing, if_neg infinite, if_neg fits] at taken
            cases taken

theorem fitsIndex_of_mapM_toIndex {numbers : List Number} {values : List Int}
    (taken : numbers.mapM Number.toIndex = .ok values) : values.all fitsIndex = true := by
  induction numbers generalizing values with
  | nil =>
      cases taken
      rfl
  | cons number rest ih =>
      rw [List.mapM_cons] at taken
      obtain ⟨first, readFirst, taken⟩ := except_bind_ok taken
      obtain ⟨others, readOthers, taken⟩ := except_bind_ok taken
      cases taken
      rw [List.all_cons, fitsIndex_of_toIndex readFirst, ih readOthers]
      rfl

/-- **The integers of some spans**: their starts and steps, the axes in order, and their ends cut
off at the point, if all of these fit. -/
theorem Span.indices?_eq_some {spans : List Span} {indices : SliceIndices} {rank : Nat}
    (count : spans.length = rank) :
    indices? spans = some indices ↔
      (spans.map stop).mapM Number.toIndex = .ok indices.ends ∧
        (indices.starts = spans.map start ∧ indices.axes = (List.range rank).map Int.ofNat ∧
          indices.steps = spans.map step) ∧
        indices.starts.all fitsIndex = true ∧ indices.axes.all fitsIndex = true ∧
          indices.steps.all fitsIndex = true := by
  subst count
  unfold indices?
  cases read : (spans.map stop).mapM Number.toIndex with
  | error fault => exact iff_of_false nofun nofun
  | ok stops =>
      have stopsFit := fitsIndex_of_mapM_toIndex read
      simp only [Except.toOption, Option.bind_eq_bind, Option.bind_some]
      constructor
      · intro found
        split at found
        · next fits =>
            cases found
            exact ⟨rfl, ⟨rfl, rfl, rfl⟩, fits.1, fits.2.2⟩
        · cases found
      · obtain ⟨starts, ends, axes, steps⟩ := indices
        rintro ⟨⟨⟩, ⟨rfl, rfl, rfl⟩, startsFit, axesFit, stepsFit⟩
        exact if_pos ⟨startsFit, stopsFit, axesFit, stepsFit⟩

/-! ### Runs -/

namespace Build

variable {Value : Type} {graph : Graph}

/-- A step embeds one more constant and goes on, unless an integer of it does not fit. -/
theorem embedded_ends {next : String → Build Value} (layer role : String) (values : List Int)
    {before : Graph} (constants : List Constant)
    (grown : graph.Grows (constants.map Addition.constant) before) {done : Value → Graph → Prop}
    {failed : Fault → Graph → Prop}
    (unfit : values.all fitsIndex = false → failed .constantTooLarge before)
    (rest : ∀ name after, values.all fitsIndex = true →
      graph.Grows ((constants ++ [(⟨name, .indices values⟩ : Constant)]).map Addition.constant) after →
      Ends (next name) after done failed) :
    Ends (embedIndices layer role values >>= next) before done failed := by
  cases fits : values.all fitsIndex with
  | true =>
      obtain ⟨name, after, run, grows⟩ := embedIndices_run layer role values before fits
      refine Ends.after_ok run (rest name after fits ?_)
      rw [List.map_append]
      exact grown.trans grows
  | false =>
      exact Ends.of_error (bind_run_error (embedIndices_refused layer role values before fits))
        (unfit fits)

/-- **Every slice**, of whatever numbers, is accepted if the graph owns the tensor, every axis gives
a span and the constants hold their integers. -/
theorem slice_accepts_or_refuses (a : Handle) (offsets : List (Option Int))
    (sizes : List SizeRequest) (strides : List (Option Int)) (graph : Graph) :
    Ends (slice a offsets sizes strides) graph (SliceAccepted a offsets sizes strides graph)
      (SliceRefused a offsets sizes strides graph) := by
  cases passed : graph.sliceSpans a offsets sizes strides with
  | error fault =>
      exact Ends.of_error (bind_run_error (inspect_error passed)) (.checked fault passed)
  | ok spans =>
      obtain ⟨owned, asked⟩ := Graph.sliceSpans_eq_ok.mp passed
      let layer := variant "slice" (graph.counter + 1)
      let starts := spans.map Span.start
      let axes := (List.range a.rank).map Int.ofNat
      let steps := spans.map Span.step
      have indices (found : SliceIndices) :=
        @Span.indices?_eq_some spans found a.rank (Handle.length_spans asked)
      -- Where one of the lists does not fit, there are no constants for the spans at all.
      have tooLarge {after : Graph} (constants : List Constant)
          (grows : graph.Grows (constants.map Addition.constant) after)
          (unfit : ¬(starts.all fitsIndex ∧ axes.all fitsIndex ∧ steps.all fitsIndex)) :
          SliceRefused a offsets sizes strides graph .constantTooLarge after := by
        refine .unfit spans _ after constants asked ?_ (Or.inl rfl) grows
        refine Option.eq_none_iff_forall_ne_some.mpr fun found isFound => unfit ?_
        obtain ⟨_, ⟨isStarts, isAxes, isSteps⟩, fits⟩ := (indices found).mp isFound
        rwa [isStarts, isAxes, isSteps] at fits
      have counted : graph.Grows [] { graph with counter := graph.counter + 1 } :=
        .done graph _ (Nat.le_succ _)
      refine Ends.after_ok (inspect_ok passed) ?_
      refine Ends.after_ok (freshName_run "slice" graph) ?_
      refine embedded_ends layer "starts" starts [] counted
        (fun no => tooLarge [] counted fun all => by simp [no] at all)
        fun startsName one startsFit growsOne => ?_
      cases read : (spans.map Span.stop).mapM Number.toIndex with
      | error fault =>
          refine Ends.of_error (bind_run_error (inspect_error rfl)) ?_
          refine .unfit spans fault one _ asked ?_ (Or.inr read) growsOne
          refine Option.eq_none_iff_forall_ne_some.mpr fun found isFound => ?_
          have ends := ((indices found).mp isFound).1
          rw [read] at ends
          cases ends
      | ok stops =>
          refine Ends.after_ok (inspect_ok rfl) ?_
          have stopsFit := fitsIndex_of_mapM_toIndex read
          refine embedded_ends layer "ends" stops _ growsOne
            (fun no => by rw [stopsFit] at no; cases no) fun ends two _ growsTwo => ?_
          refine embedded_ends layer "axes" axes _ growsTwo
            (fun no => tooLarge _ growsTwo fun all => by simp [no] at all)
            fun axesName three axesFit growsThree => ?_
          refine embedded_ends layer "steps" steps _ growsThree
            (fun no => tooLarge _ growsThree fun all => by simp [no] at all)
            fun stepsName four stepsFit growsFour => ?_
          have known : ∀ name ∈ [a.name, startsName, ends, axesName, stepsName],
              four.tensors.contains name = true := by
            intro name member
            rcases List.mem_cons.mp member with rfl | constant
            · exact growsFour.keeps_contains (Graph.contains_of_owns owned)
            · exact growsFour.knows_constants name (by simpa using constant)
          obtain ⟨output, after, run, shaped, dtyped, grows⟩ :=
            append_run layer (.slice starts (spans.map Span.size) steps) [a]
              [a.name, startsName, ends, axesName, stepsName] (spans.map Span.size) a.dtype four
              known
          refine Ends.of_ok run ⟨owned, spans, ⟨starts, stops, axes, steps⟩, asked,
            (indices _).mpr ⟨read, ⟨rfl, rfl, rfl⟩, startsFit, axesFit, stepsFit⟩, ?_, layer,
            startsName, ends, axesName, stepsName, ?_⟩
          · rw [Handle.type, shaped, dtyped]
          · rw [sliceAdditions, Request.ending, shaped, dtyped]
            exact growsFour.trans grows

end Build

end OperatorLowering
