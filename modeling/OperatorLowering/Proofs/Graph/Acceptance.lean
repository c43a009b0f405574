/-
**What becomes of a request.**

A request of tensors is accepted exactly if the graph owns them and their types allow a result; it
then makes the additions of `Request.Adds`. A refused one leaves the graph as it was and the fault
is a rejection, unless an index constant would hold too large an integer: then constants may be
left.

* `Request.build_ends`: every request ends in one of the two ways;
* `Request.accepts`: owned operands whose types allow a result are accepted.
-/

import OperatorLowering.Proofs.Graph.Slices

namespace OperatorLowering

namespace Request

/-- A graph accepted a request with `output`. -/
structure Accepted (request : Request Handle) (before : Graph) (output : Handle)
    (after : Graph) : Prop where
  owned : ∀ tensor ∈ request.operands, before.owns tensor = true
  typed : (request.map Handle.type).type? = some output.type
  grows : ∃ additions, request.Adds output additions ∧ before.Grows additions after

/-- The graph refused a request: it owns not all of the operands, or their types allow no result. -/
structure Refused (request : Request Handle) (before : Graph) (fault : Fault)
    (after : Graph) : Prop where
  grows : ∃ constants : List Constant, before.Grows (constants.map Addition.constant) after
  cause : (∃ tensor ∈ request.operands, before.owns tensor = false) ∨
    (request.map Handle.type).type? = none
  verdict : (∃ reason, fault = .rejected reason ∧ after = before) ∨
    fault = .constantTooLarge ∧ (request.map Handle.type).Oversized

variable {request : Request Handle} {graph : Graph}

theorem refused_foreign {tensor : Handle} (member : tensor ∈ request.operands)
    (foreign : graph.owns tensor = false) :
    request.Refused graph (.rejected (.foreignTensor tensor)) graph where
  grows := ⟨[], Graph.Grows.refl graph⟩
  cause := Or.inl ⟨tensor, member, foreign⟩
  verdict := Or.inl ⟨_, rfl, rfl⟩

theorem refused_untyped {reason : Rejection} (untyped : (request.map Handle.type).type? = none) :
    request.Refused graph (.rejected reason) graph where
  grows := ⟨[], Graph.Grows.refl graph⟩
  cause := Or.inr untyped
  verdict := Or.inl ⟨reason, rfl, rfl⟩

/-- An index constant that is too large stops a request between its constants. -/
theorem refused_tooLarge {after : Graph} (constants : List Constant)
    (grows : graph.Grows (constants.map Addition.constant) after)
    (oversized : (request.map Handle.type).Oversized) :
    request.Refused graph .constantTooLarge after where
  grows := ⟨constants, grows⟩
  cause := Or.inr oversized.untyped
  verdict := Or.inr ⟨rfl, oversized⟩

/-- What a check of a request answers: what the request needs, or a rejection. -/
def Checks {Value : Type} (request : Request Handle) (graph : Graph)
    (check : Except Fault Value) (passes : Value → Prop) : Prop :=
  (∃ value, check = .ok value ∧ (∀ tensor ∈ request.operands, graph.owns tensor = true) ∧
      passes value) ∨
    ∃ reason, check = .error (.rejected reason) ∧
      request.Refused graph (.rejected reason) graph

end Request

/-! ### Checks -/

namespace Graph

/-- A check that begins with a tensor goes on if the graph owns it and is a rejection otherwise. -/
theorem requireOwned_bind {Value : Type} (graph : Graph) (tensor : Handle)
    (rest : Except Fault Value) :
    graph.owns tensor = true ∧ (graph.requireOwned tensor >>= fun _ => rest) = rest ∨
      graph.owns tensor = false ∧ (graph.requireOwned tensor >>= fun _ => rest) =
        .error (.rejected (.foreignTensor tensor)) := by
  cases owned : graph.owns tensor with
  | true =>
      refine Or.inl ⟨rfl, ?_⟩
      simp only [requireOwned, owned, if_true]
      rfl
  | false =>
      refine Or.inr ⟨rfl, ?_⟩
      simp only [requireOwned, owned, Bool.false_eq_true, if_false]
      rfl

/-- A check that begins with two tensors goes on if the graph owns both, and rejects one of them
otherwise. -/
theorem requireOwned_bind_two {Value : Type} (graph : Graph) (a b : Handle)
    (rest : Except Fault Value) :
    (∀ tensor ∈ [a, b], graph.owns tensor = true) ∧
        (graph.requireOwned a >>= fun _ => graph.requireOwned b >>= fun _ => rest) = rest ∨
      ∃ tensor ∈ [a, b], graph.owns tensor = false ∧
        (graph.requireOwned a >>= fun _ => graph.requireOwned b >>= fun _ => rest) =
          .error (.rejected (.foreignTensor tensor)) := by
  rcases graph.requireOwned_bind a (graph.requireOwned b >>= fun _ => rest) with
    ⟨ownsA, goesOn⟩ | ⟨foreign, fails⟩
  · rw [goesOn]
    rcases graph.requireOwned_bind b rest with ⟨ownsB, goesOn⟩ | ⟨foreign, fails⟩
    · exact Or.inl ⟨by simp [ownsA, ownsB], goesOn⟩
    · exact Or.inr ⟨b, by simp, foreign, fails⟩
  · exact Or.inr ⟨a, by simp, foreign, fails⟩

/-- A check of one owned tensor. -/
theorem checks_one {Value : Type} {request : Request Handle} (graph : Graph) (a : Handle)
    (operands : request.operands = [a]) {rest : Except Fault Value} {passes : Value → Prop}
    (checked : (∃ value, rest = .ok value ∧ passes value) ∨
      ∃ reason, rest = .error (.rejected reason) ∧ (request.map Handle.type).type? = none) :
    request.Checks graph (graph.requireOwned a >>= fun _ => rest) passes := by
  rcases graph.requireOwned_bind a rest with ⟨owned, goesOn⟩ | ⟨foreign, fails⟩
  · rw [goesOn]
    rcases checked with ⟨value, passed, holds⟩ | ⟨reason, failed, untyped⟩
    · refine Or.inl ⟨value, passed, ?_, holds⟩
      intro tensor member
      rw [operands] at member
      rwa [List.mem_singleton.mp member]
    · exact Or.inr ⟨reason, failed, Request.refused_untyped untyped⟩
  · rw [fails]
    exact Or.inr ⟨_, rfl, Request.refused_foreign (by simp [operands]) foreign⟩

/-- A check of two owned tensors. -/
theorem checks_two {Value : Type} {request : Request Handle} (graph : Graph) (a b : Handle)
    (operands : request.operands = [a, b]) {rest : Except Fault Value} {passes : Value → Prop}
    (checked : (∃ value, rest = .ok value ∧ passes value) ∨
      ∃ reason, rest = .error (.rejected reason) ∧ (request.map Handle.type).type? = none) :
    request.Checks graph
      (graph.requireOwned a >>= fun _ => graph.requireOwned b >>= fun _ => rest) passes := by
  rcases graph.requireOwned_bind_two a b rest with ⟨owned, goesOn⟩ | ⟨_, member, foreign, fails⟩
  · rw [goesOn]
    rcases checked with ⟨value, passed, holds⟩ | ⟨reason, failed, untyped⟩
    · exact Or.inl ⟨value, passed, operands ▸ owned, holds⟩
    · exact Or.inr ⟨reason, failed, Request.refused_untyped untyped⟩
  · rw [fails]
    exact Or.inr ⟨_, rfl, Request.refused_foreign (operands ▸ member) foreign⟩

theorem elementwiseShape_checks (graph : Graph) (a b : Handle) (op : Elementwise) :
    (Request.elementwise a b op).Checks graph (graph.elementwiseShape a b op) fun shape =>
      ((Request.elementwise a b op).map Handle.type).type? = some ⟨shape, a.dtype⟩ := by
  refine checks_two graph a b rfl ?_
  by_cases types : a.dtype = b.dtype
  · cases broadcast : a.shape.broadcast? b.shape with
    | some shape =>
        exact Or.inl ⟨shape, by simp [types], by
          simp [Request.map, Request.type?, Handle.type, types, broadcast]⟩
    | none =>
        exact Or.inr ⟨.elementwiseShapes op a.shape b.shape, by simp [types, refuse], by
          simp [Request.map, Request.type?, Handle.type, broadcast]⟩
  · exact Or.inr ⟨.elementwiseTypes op a.dtype b.dtype, by simp [types, refuse], by
      simp [Request.map, Request.type?, Handle.type, types]⟩

theorem activationKind_checks (graph : Graph) (a : Handle) (kind : Activation) :
    (Request.activation a kind).Checks graph (graph.activationKind a kind) fun known =>
      known = kind :=
  checks_one graph a rfl (Or.inl ⟨kind, rfl, rfl⟩)

/-- Two factors combine, or their product is rejected. -/
theorem product_cases (first second : MatrixShape) :
    (∃ product, first.product second = .ok product ∧ product.first = first ∧
        product.second = second) ∨
      ∃ reason, first.product second = .error (.rejected reason) := by
  unfold MatrixShape.product
  by_cases inner : first.columns = second.rows
  · cases batch : first.batch.broadcast? second.batch with
    | some shape => exact Or.inl ⟨⟨first, second, shape⟩, by simp [inner], rfl, rfl⟩
    | none => exact Or.inr ⟨_, by simp only [inner, ne_eq, not_true, if_false]; rfl⟩
  · exact Or.inr ⟨_, by simp only [inner, ne_eq, not_false_eq_true, if_true]; rfl⟩

theorem productShape_checks (graph : Graph) (a b : Handle) (transposeA transposeB : Bool) :
    (Request.matmul a b transposeA transposeB).Checks graph
      (graph.productShape a b transposeA transposeB) fun product =>
        (∃ first, MatrixShape.ofShape? a.shape = some first ∧
          product.first = first.transposeIf transposeA) ∧
        (∃ second, MatrixShape.ofShape? b.shape = some second ∧
          product.second = second.transposeIf transposeB) ∧
        ((Request.matmul a b transposeA transposeB).map Handle.type).type? =
          some ⟨product.toShape, a.dtype⟩ := by
  refine checks_two graph a b rfl ?_
  cases firstShape : MatrixShape.ofShape? a.shape with
  | none => exact Or.inr ⟨.matmulRank a b, rfl, by
      simp [Request.map, Request.type?, Handle.type, firstShape]⟩
  | some first =>
      cases secondShape : MatrixShape.ofShape? b.shape with
      | none => exact Or.inr ⟨.matmulRank a b, rfl, by
          simp [Request.map, Request.type?, Handle.type, firstShape, secondShape]⟩
      | some second =>
          by_cases types : a.dtype = b.dtype
          · rcases product_cases (first.transposeIf transposeA)
                (second.transposeIf transposeB) with
              ⟨product, made, isFirst, isSecond⟩ | ⟨reason, refused⟩
            · exact Or.inl ⟨product, by simp [types, made], ⟨first, rfl, isFirst⟩,
                ⟨second, rfl, isSecond⟩, by
                  simp [Request.map, Request.type?, Handle.type, firstShape, secondShape, types,
                    made, Except.toOption]⟩
            · exact Or.inr ⟨reason, by simp [types, refused], by
                simp [Request.map, Request.type?, Handle.type, firstShape, secondShape, types,
                  refused, Except.toOption]⟩
          · exact Or.inr ⟨.matmulTypes a.dtype b.dtype, by simp [types, refuse], by
              simp [Request.map, Request.type?, Handle.type, firstShape, secondShape, types]⟩

theorem sliceSpans_checks (graph : Graph) (a : Handle) (offsets : List Int) (sizes : Shape)
    (strides : List Int) :
    (Request.slice a offsets sizes strides).Checks graph
      (graph.sliceSpans a (offsets.map some) (sizes.map SizeRequest.dim) (strides.map some))
      fun spans => a.shape.spans? offsets sizes strides = some spans ∧
        Span.Reads spans offsets sizes strides := by
  refine checks_one graph a rfl ?_
  simp only [List.length_map]
  by_cases aligned : offsets.length = sizes.length ∧ sizes.length = strides.length ∧
      strides.length = a.shape.length
  · obtain ⟨offsetCount, sizeCount, strideCount⟩ := aligned
    have spanned : a.shape.spans? offsets sizes strides =
        (SpanRequest.toSpans 0 (SpanRequest.align a.shape (offsets.map some)
          (sizes.map SizeRequest.dim) (strides.map some))).toOption :=
      if_pos ⟨offsetCount, sizeCount, strideCount⟩
    rcases SpanRequest.toSpans_cases a.shape sizes offsets strides 0
        (by omega) (by omega) strideCount with ⟨spans, passed, reads⟩ | ⟨reason, failed⟩
    · refine Or.inl ⟨spans, ?_, ?_, reads⟩
      · rw [if_pos ⟨offsetCount, sizeCount, strideCount⟩]
        exact passed
      · rw [spanned, passed]
        rfl
    · refine Or.inr ⟨reason, ?_, ?_⟩
      · rw [if_pos ⟨offsetCount, sizeCount, strideCount⟩]
        exact failed
      · simp only [Request.map, Request.type?, Handle.type, spanned, failed, Except.toOption,
          Option.bind_none, Option.map_none]
  · have spanless : a.shape.spans? offsets sizes strides = none := if_neg aligned
    refine Or.inr ⟨_, if_neg aligned, ?_⟩
    simp only [Request.map, Request.type?, Handle.type, spanless, Option.bind_none,
      Option.map_none]

/-- A target is found, or a reshape is rejected. -/
theorem targetDims_cases (shape newShape : Shape) (axis : Nat) :
    (∃ target, shape.targetDims axis newShape = .ok target) ∨
      ∃ reason, shape.targetDims axis newShape = .error (.rejected reason) := by
  induction newShape generalizing axis with
  | nil => exact Or.inl ⟨[], rfl⟩
  | cons dim rest ih =>
      have first : (∃ found, Shape.targetDim axis shape[axis]? dim = .ok found) ∨
          ∃ reason, Shape.targetDim axis shape[axis]? dim = .error (.rejected reason) := by
        cases dim with
        | size size =>
            by_cases least : size < 1
            · exact Or.inr ⟨.reshapeDim axis, if_pos least⟩
            · exact Or.inl ⟨.fixed size, if_neg least⟩
        | symbol name => exact Or.inl ⟨_, rfl⟩
      unfold Shape.targetDims
      rcases first with ⟨found, passed⟩ | ⟨reason, failed⟩
      · rcases ih (axis + 1) with ⟨others, rest⟩ | ⟨reason, rest⟩
        · exact Or.inl ⟨found :: others, by rw [passed, rest]; rfl⟩
        · exact Or.inr ⟨reason, by rw [passed, rest]; rfl⟩
      · exact Or.inr ⟨reason, by rw [failed]; rfl⟩

theorem reshapeTarget_cases (shape newShape : Shape) :
    (∃ target, shape.reshapeTarget newShape = .ok target) ∨
      ∃ reason, shape.reshapeTarget newShape = .error (.rejected reason) := by
  have volumes : shape.requireSameVolume newShape = .ok () ∨
      ∃ reason, shape.requireSameVolume newShape = .error (.rejected reason) := by
    unfold Shape.requireSameVolume
    split
    · split
      · exact Or.inl rfl
      · exact Or.inr ⟨_, rfl⟩
    · exact Or.inl rfl
  unfold Shape.reshapeTarget
  rcases volumes with passed | ⟨reason, failed⟩
  · rcases targetDims_cases shape newShape 0 with ⟨target, found⟩ | ⟨reason, missed⟩
    · by_cases unresolved : target.count .inferred > 1
      · exact Or.inr ⟨.reshapeUnresolved newShape, by
          rw [passed, found]
          exact if_pos unresolved⟩
      · exact Or.inl ⟨target, by
          rw [passed, found]
          exact if_neg unresolved⟩
    · exact Or.inr ⟨reason, by rw [passed, missed]; rfl⟩
  · exact Or.inr ⟨reason, by rw [failed]; rfl⟩

theorem reshapeTarget_checks (graph : Graph) (a : Handle) (shape : Shape) :
    (Request.reshape a shape).Checks graph (graph.reshapeTarget a shape) fun target =>
      a.shape.reshapeTarget shape = .ok target := by
  refine checks_one graph a rfl ?_
  rcases reshapeTarget_cases a.shape shape with ⟨target, passed⟩ | ⟨reason, failed⟩
  · exact Or.inl ⟨target, passed, passed⟩
  · refine Or.inr ⟨reason, failed, ?_⟩
    simp only [Request.map, Request.type?, Handle.type, Shape.targetIndices?, failed,
      Except.toOption]
    rfl

end Graph

/-! ### Products, combinations and activations -/

namespace Build

variable {request : Request Handle} {graph : Graph} {Value : Type}

/-- A request begins with its check. What comes after it need only be looked at where it passes. -/
theorem checked_ends {check : Graph → Except Fault Value} {passes : Value → Prop}
    {next : Value → Build Handle} (checks : request.Checks graph (check graph) passes)
    (rest : ∀ value, (∀ tensor ∈ request.operands, graph.owns tensor = true) → passes value →
      Ends (next value) graph (request.Accepted graph) (request.Refused graph)) :
    Ends (inspect check >>= next) graph (request.Accepted graph) (request.Refused graph) := by
  rcases checks with ⟨value, passed, owned, holds⟩ | ⟨reason, failed, refused⟩
  · exact Ends.after_ok (inspect_ok passed) (rest value owned holds)
  · exact Ends.of_error (bind_run_error (inspect_error failed)) refused

theorem elementwise_ends (a b : Handle) (op : Elementwise) (graph : Graph) :
    Ends (elementwise a b op) graph ((Request.elementwise a b op).Accepted graph)
      ((Request.elementwise a b op).Refused graph) := by
  refine checked_ends (graph.elementwiseShape_checks a b op) fun shape owned typed => ?_
  let counted : Graph := { graph with counter := graph.counter + 1 }
  have known : ∀ name ∈ [a.name, b.name], counted.tensors.contains name = true := by
    intro name member
    rcases List.mem_pair.mp member with rfl | rfl
    · exact Graph.contains_of_owns (owned a (by simp [Request.operands]))
    · exact Graph.contains_of_owns (owned b (by simp [Request.operands]))
  obtain ⟨output, after, run, shaped, dtyped, grows⟩ :=
    append_run (variant op.stem (graph.counter + 1)) (.elementwise op) [a, b] [a.name, b.name]
      shape a.dtype counted known
  refine Ends.of_ok ((bind_run_ok (freshName_run op.stem graph)).trans run) ⟨owned, ?_, ?_⟩
  · rw [typed, Handle.type, shaped, dtyped]
  · refine ⟨_, .elementwise a b output op (variant op.stem (graph.counter + 1)), ?_⟩
    rw [← shaped, ← dtyped] at grows
    exact grows.raise (Nat.le_succ _)

theorem activation_ends (a : Handle) (kind : Activation) (graph : Graph) :
    Ends (activation a kind) graph ((Request.activation a kind).Accepted graph)
      ((Request.activation a kind).Refused graph) := by
  refine checked_ends (graph.activationKind_checks a kind) fun known owned same => ?_
  subst same
  let counted : Graph := { graph with counter := graph.counter + 1 }
  have there : ∀ name ∈ [a.name], counted.tensors.contains name = true := by
    intro name member
    rw [List.mem_singleton.mp member]
    exact Graph.contains_of_owns (owned a (by simp [Request.operands]))
  obtain ⟨output, after, run, shaped, dtyped, grows⟩ :=
    append_run (variant known.stem (graph.counter + 1)) (.activation known) [a] [a.name]
      a.shape a.dtype counted there
  refine Ends.of_ok ((bind_run_ok (freshName_run known.stem graph)).trans run) ⟨owned, ?_, ?_⟩
  · simp only [Request.map, Request.type?, Handle.type, shaped, dtyped]
  · refine ⟨_, .activation a output known (variant known.stem (graph.counter + 1)), ?_⟩
    rw [← shaped, ← dtyped] at grows
    exact grows.raise (Nat.le_succ _)

theorem matmul_ends (a b : Handle) (transposeA transposeB : Bool) (graph : Graph) :
    Ends (matmul a b transposeA transposeB) graph
      ((Request.matmul a b transposeA transposeB).Accepted graph)
      ((Request.matmul a b transposeA transposeB).Refused graph) := by
  refine checked_ends (graph.productShape_checks a b transposeA transposeB)
    fun product owned passed => ?_
  obtain ⟨⟨first, firstShape, isFirst⟩, ⟨second, secondShape, isSecond⟩, typed⟩ := passed
  let layer := variant "matmul" (graph.counter + 1)
  let counted : Graph := { graph with counter := graph.counter + 1 }
  have knowsA : counted.tensors.contains a.name = true :=
    Graph.contains_of_owns (owned a (by simp [Request.operands]))
  have knowsB : counted.tensors.contains b.name = true :=
    Graph.contains_of_owns (owned b (by simp [Request.operands]))
  obtain ⟨firstName, one, runFirst, firstRead, knowsFirst, growsFirst⟩ :=
    factor_run transposeA a product.first layer "a" counted knowsA
  obtain ⟨secondName, two, runSecond, secondRead, knowsSecond, growsSecond⟩ :=
    factor_run transposeB b product.second layer "b" one (growsFirst.keeps_contains knowsB)
  have known : ∀ name ∈ [firstName, secondName], two.tensors.contains name = true := by
    intro name member
    rcases List.mem_pair.mp member with rfl | rfl
    · exact growsSecond.keeps_contains knowsFirst
    · exact knowsSecond
  obtain ⟨output, after, run, shaped, dtyped, grows⟩ :=
    append_run layer (.matmul transposeA transposeB) [a, b] [firstName, secondName]
      product.toShape a.dtype two known
  refine Ends.of_ok ((bind_run_ok (freshName_run "matmul" graph)).trans
    ((bind_run_ok runFirst).trans ((bind_run_ok runSecond).trans run))) ⟨owned, ?_, ?_⟩
  · rw [typed, Handle.type, shaped, dtyped]
  · refine ⟨_, .matmul a b output transposeA transposeB first second layer firstName secondName
      firstShape secondShape firstRead secondRead, ?_⟩
    rw [isFirst] at growsFirst
    rw [isSecond] at growsSecond
    rw [← shaped, ← dtyped] at grows
    exact ((growsFirst.trans growsSecond).trans grows).raise (Nat.le_succ _)

/-! ### Slices and reshapes -/

/-- A slice of integers and dimensions. -/
theorem slice_ends (a : Handle) (offsets : List Int) (sizes : Shape) (strides : List Int)
    (graph : Graph) :
    Ends (slice a (offsets.map some) (sizes.map SizeRequest.dim) (strides.map some)) graph
      ((Request.slice a offsets sizes strides).Accepted graph)
      ((Request.slice a offsets sizes strides).Refused graph) := by
  have typed : ((Request.slice a offsets sizes strides).map Handle.type).type? =
      ((a.shape.spans? offsets sizes strides).bind Span.indices?).map
        fun _ => ⟨sizes, a.dtype⟩ := rfl
  refine (slice_accepts_or_refuses a (offsets.map some) (sizes.map SizeRequest.dim)
    (strides.map some) graph).mono ?_ ?_
  · rintro output after ⟨owned, spans, indices, asked, fit, type, layer, starts, ends, axes, steps,
      grows⟩
    have accepted := Shape.spans?_eq_some.mpr asked
    have reads := Shape.reads_of_spans? accepted
    refine ⟨fun tensor member => ?_, ?_, ?_⟩
    · rwa [List.mem_singleton.mp member]
    · rw [typed, accepted, Option.bind_some, fit, type, reads.sizes]
      rfl
    · refine ⟨_, .slice a output offsets sizes strides spans indices layer starts ends axes steps
        accepted fit, ?_⟩
      rw [sliceAdditions, reads.starts, reads.sizes, reads.steps] at grows
      exact grows
  · rintro fault after (⟨_, fails⟩ | ⟨spans, _, _, constants, asked, unfit, cause, grows⟩)
    · rcases graph.sliceSpans_checks a offsets sizes strides with
        ⟨_, passed, _⟩ | ⟨reason, failed, refused⟩
      · rw [passed] at fails
        cases fails
      · rw [failed] at fails
        cases fails
        exact refused
    · have accepted := Shape.spans?_eq_some.mpr asked
      have tooLarge : fault = .constantTooLarge := by
        refine cause.elim id fun fails => ?_
        rw [(Shape.reads_of_spans? accepted).stops, toIndex_integers] at fails
        split at fails
        · cases fails
        · exact (Except.error.inj fails).symm
      rw [tooLarge]
      exact Request.refused_tooLarge constants grows (.slice accepted unfit)

theorem reshape_ends (a : Handle) (shape : Shape) (graph : Graph) :
    Ends (reshape a shape) graph ((Request.reshape a shape).Accepted graph)
      ((Request.reshape a shape).Refused graph) := by
  refine checked_ends (graph.reshapeTarget_checks a shape) fun target owned passed => ?_
  let layer := variant "reshape" (graph.counter + 1)
  let codes := target.map TargetDim.code
  have targeted : a.shape.targetIndices? shape =
      if codes.all fitsIndex then some codes else none := by
    unfold Shape.targetIndices?
    rw [passed]
    rfl
  have typed : ((Request.reshape a shape).map Handle.type).type? =
      (a.shape.targetIndices? shape).map fun _ => ⟨shape, a.dtype⟩ := rfl
  have counted : graph.Grows [] { graph with counter := graph.counter + 1 } :=
    .done graph _ (Nat.le_succ _)
  refine Ends.after_ok (freshName_run "reshape" graph) ?_
  refine embedded_ends layer "shape" codes [] counted
    (fun no => Request.refused_tooLarge [] counted (.reshape passed no))
    fun name embedded fits grown => ?_
  have accepted : a.shape.targetIndices? shape = some codes := by rw [targeted, if_pos fits]
  have known : ∀ read ∈ [a.name, name], embedded.tensors.contains read = true := by
    intro read member
    rcases List.mem_cons.mp member with rfl | constant
    · exact grown.keeps_contains (Graph.contains_of_owns (owned a (by simp [Request.operands])))
    · exact grown.knows_constants read (by simpa using constant)
  obtain ⟨output, after, run, shaped, dtyped, grows⟩ :=
    append_run layer (.reshape shape) [a] [a.name, name] shape a.dtype embedded known
  refine Ends.of_ok run ⟨owned, ?_, ?_⟩
  · rw [typed, accepted, Handle.type, shaped, dtyped]
    rfl
  · refine ⟨_, .reshape a output shape codes layer name accepted, ?_⟩
    rw [Request.ending, shaped, dtyped]
    exact grown.trans grows

end Build

/-! ### Every request -/

namespace Request

/-- **Every request** is accepted or refused. -/
theorem build_ends (request : Request Handle) (graph : Graph) :
    Ends request.build graph (request.Accepted graph) (request.Refused graph) := by
  cases request with
  | matmul a b transposeA transposeB => exact Build.matmul_ends a b transposeA transposeB graph
  | elementwise a b op => exact Build.elementwise_ends a b op graph
  | slice a offsets sizes strides => exact Build.slice_ends a offsets sizes strides graph
  | activation a kind => exact Build.activation_ends a kind graph
  | reshape a shape => exact Build.reshape_ends a shape graph

/-- **Owned operands whose types allow a result** are accepted, with a result of that type. -/
theorem accepts {request : Request Handle} {graph : Graph} {type : TensorType}
    (owned : ∀ tensor ∈ request.operands, graph.owns tensor = true)
    (typed : (request.map Handle.type).type? = some type) :
    ∃ output after, request.build graph = .ok output after ∧ output.type = type ∧
      request.Accepted graph output after := by
  cases run : request.build graph with
  | ok output after =>
      have accepted := (build_ends request graph).ok run
      have same := accepted.typed
      rw [typed] at same
      exact ⟨output, after, rfl, (Option.some.inj same).symm, accepted⟩
  | error fault after =>
      rcases ((build_ends request graph).error run).cause with
        ⟨tensor, member, foreign⟩ | untyped
      · rw [owned tensor member] at foreign
        cases foreign
      · rw [typed] at untyped
        cases untyped

/-- **A request whose check passes** is accepted, if what the check finds allows a result. -/
theorem accepts_of_checks {Value : Type} {request : Request Handle} {graph : Graph}
    {check : Except Fault Value} {passes : Value → Prop} {value : Value}
    (checks : request.Checks graph check passes) (passed : check = .ok value)
    (typed : ∀ value, passes value → (request.map Handle.type).type?.isSome = true) :
    ∃ output after, request.build graph = .ok output after ∧
      request.Accepted graph output after := by
  rcases checks with ⟨found, _, owned, holds⟩ | ⟨reason, failed, _⟩
  · obtain ⟨type, hasType⟩ := Option.isSome_iff_exists.mp (typed found holds)
    obtain ⟨output, after, run, _, accepted⟩ := accepts owned hasType
    exact ⟨output, after, run, accepted⟩
  · rw [passed] at failed
    cases failed

end Request

end OperatorLowering
