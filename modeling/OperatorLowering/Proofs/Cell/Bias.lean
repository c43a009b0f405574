/-
**Adding a bias.**

A tensor and a bias that it absorbs are summed in the tensor's shape, whatever their ranks. A bias
of lower rank is reshaped first. The reshape keeps the elements in row-major order and puts ones in
front of the dimensions, so each entry of the sum reads the bias at its last axes, and at zero where
its size is one. A bias that is not absorbed is refused before anything is built; where the sum
itself is refused, the reshape stays behind.

* `Follows.logs_bias`: the layers of a planned sum;
* `Lower.addBias_failed`: the layers in front of a failure;
* `addBias_sums`: what is returned, what it computes, and what a failure leaves behind.
-/

import OperatorLowering.Proofs.Cell.Layers
import OperatorLowering.Proofs.Cell.Meaning

namespace OperatorLowering

/-! ### Layers -/

/-- The layers of a sum with a bias: the bias is reshaped first if its rank is lower. -/
def Handle.biasLayers (a b out : Handle) (reshaped padded summed : String) : List Layer :=
  if b.rank < a.rank then
    [⟨.reshape (b.shape.padTo a.rank), reshaped, [b.name], padded⟩,
      ⟨.elementwise .sum, summed, [a.name, padded], out.name⟩]
  else [⟨.elementwise .sum, summed, [a.name, b.name], out.name⟩]

/-- A layer of a followed plan, with what its wires read. -/
theorem Layer.Realizes.eq_mk {layers : List Layer} {request : Request Wire} {layer : Layer}
    {names : List String} (realizes : layer.Realizes layers request)
    (reads : request.operands.map (Wire.read Handle.name (layers.map Layer.output)) =
      names.map some) : layer = ⟨request.primitive, layer.name, names, layer.output⟩ := by
  rw [← realizes.1, ← realizes.inputs_eq reads]

/-- **The layers of a planned sum.** -/
theorem Follows.logs_bias {before after : Graph} {a b out : Handle} {more : List Handle}
    (follows : Follows before ((Wire.tensor a).withBias 0 b a.rank) (more ++ [out]) after) :
    ∃ reshaped padded summed,
      after.layers = before.layers ++ a.biasLayers b out reshaped padded summed := by
  obtain ⟨layers, logged, named, planned⟩ := follows.layers
  have last : (layers.map Layer.output).getLast? = some out.name := by
    rw [named, List.map_append, List.map_singleton, List.getLast?_concat]
  rw [logged]
  unfold Wire.withBias at planned
  unfold Handle.biasLayers
  by_cases lower : b.rank < a.rank
  · rw [if_pos lower] at planned
    simp only [if_pos lower]
    match layers, planned, last with
    | [reshape, sum], .cons isReshape (.cons isSum .nil), last =>
        have first : reshape = ⟨.reshape (b.shape.padTo a.rank), reshape.name, [b.name],
            reshape.output⟩ := isReshape.eq_mk rfl
        have second : sum = ⟨.elementwise .sum, sum.name, [a.name, reshape.output],
            sum.output⟩ := isSum.eq_mk rfl
        have output : sum.output = out.name := Option.some.inj last
        rw [output] at second
        exact ⟨reshape.name, reshape.output, sum.name,
          congrArg _ (congrArg₂ (fun first second => [first, second]) first second)⟩
  · rw [if_neg lower] at planned
    simp only [if_neg lower]
    match layers, planned, last with
    | [sum], .cons isSum .nil, last =>
        have only : sum = ⟨.elementwise .sum, sum.name, [a.name, b.name], sum.output⟩ :=
          isSum.eq_mk rfl
        have output : sum.output = out.name := Option.some.inj last
        rw [output] at only
        exact ⟨"", "", sum.name, congrArg _ (congrArg (fun sum => [sum]) only)⟩

/-! ### Failures -/

/-- A sum that failed although the bias was reshaped for it. -/
def FailedSum (a b : Handle) (node : OperatorNode) (failure : Failure) : Prop :=
  b.rank < a.rank ∧ ∃ reason, failure = .ofNode node (.lowering "elementwise sum" reason)

/-- A sum of fit operands is missing since the graph rejected it. -/
theorem Stop.sum_rejected {node : OperatorNode} {outputs : List Handle} {graph : Graph}
    {a b : Wire} {failure : Failure}
    (stop : Stop True node outputs graph (.elementwise a b .sum) failure) :
    ∃ reason, failure = .ofNode node (.lowering "elementwise sum" reason) := by
  generalize isSum : Request.elementwise a b .sum = request at stop
  cases stop with
  | rejected request reason blocked =>
      subst isSum
      exact ⟨_, rfl⟩
  | tooLarge request resolved reads oversized =>
      subst isSum
      have indexed := oversized.indexed
      rw [Request.primitive_map, (Request.traverse_eq_some reads).1] at indexed
      rcases indexed with slice | reshape
      · cases slice
      · cases reshape
  | shape request product bias name reads last wider unfit => exact absurd trivial unfit
  | width gates place broken last unquartered unfit => exact absurd trivial unfit

namespace Lower

variable {a b : Handle} {node : OperatorNode} {start after : Context} {failure : Failure}

/-- **The layers in front of a failure** are none, or the reshape if it is the sum that failed. -/
theorem addBias_failed (name : String) (absorbed : a.shape.absorbs b.shape = true)
    (run : addBias a b name node start = .error failure after) :
    (FailedSum a b node failure ∧ ∃ reshaped padded, after.graph.layers = start.graph.layers ++
        [⟨.reshape (b.shape.padTo a.rank), reshaped, [b.name], padded⟩]) ∨
      (¬ FailedSum a b node failure ∧ after.graph.layers = start.graph.layers) := by
  have walked : Walked start [] [] start := ⟨.start, rfl⟩
  obtain ⟨⟨done, request, rest, segment, halted⟩, _⟩ :=
    (@addBias_absorbed_ends True node _ _ _ _ a (.tensor a) walked rfl b name absorbed).error run
  obtain ⟨layers, logged, planned⟩ := halted.layers
  obtain ⟨_, _, _, _, _, stop⟩ := halted
  rw [logged]
  unfold Wire.withBias at segment
  by_cases lower : b.rank < a.rank
  · rw [if_pos lower] at segment
    match done, segment, layers, planned with
    | [], segment, [], .nil =>
        obtain ⟨rfl, _⟩ := List.cons.inj segment
        refine Or.inr ⟨fun ⟨_, reason, failed⟩ => ?_, List.append_nil _⟩
        have label : "elementwise sum" = "reshape" := stop.missing.label failed rfl
        exact absurd label (by decide)
    | [first], segment, [reshape], .cons isReshape .nil =>
        obtain ⟨rfl, others⟩ := List.cons.inj segment
        obtain ⟨rfl, _⟩ := List.cons.inj others
        exact Or.inl ⟨⟨lower, stop.sum_rejected⟩, reshape.name, reshape.output,
          congrArg _ (congrArg (fun layer => [layer]) (isReshape.eq_mk rfl))⟩
    | first :: second :: done, segment, _, _ => simp at segment
  · rw [if_neg lower] at segment
    match done, segment, layers, planned with
    | [], _, [], .nil => exact Or.inr ⟨fun failed => lower failed.1, List.append_nil _⟩
    | first :: done, segment, _, _ => simp at segment

end Lower

/-! ### The sum -/

/-- **What the sum of a tensor and a bias is**, between the graph before and the graph after it. -/
structure Biased (a b out : Handle) (before after : Graph) : Prop where
  shape : out.shape = a.shape
  dtype : out.dtype = a.dtype
  dtypes : a.dtype = b.dtype
  layers : ∃ reshaped padded summed,
    after.layers = before.layers ++ a.biasLayers b out reshaped padded summed
  /-- For all sizes of the symbols and all values of the two tensors, the new nodes add to each entry
  of the tensor what the bias has at its last axes, at zero where its size is one. -/
  computes : ∀ {Element : Type} (arithmetic : Arithmetic Element) (sizes : String → Nat)
    (values : Handle → Tensor Element) (environment : Environment Element),
    (∀ name, 0 < sizes name) →
    environment.read a = some (a.typed values) → environment.read b = some (b.typed values) →
    (values a).dims = a.shape.under sizes → (values b).dims = b.shape.under sizes →
    ∃ final sum, before.evaluateSince? after arithmetic environment = some final ∧
      final.read out = some ⟨out.type, sum⟩ ∧ sum.dims = a.shape.under sizes ∧
      ∀ index, Index.Within (a.shape.under sizes) index →
        Index.Within (b.shape.under sizes) (Index.broadcast (b.shape.under sizes) index) ∧
        sum.entry index = arithmetic.add ((values a).entry index)
          ((values b).entry (Index.broadcast (b.shape.under sizes) index))

/-- **A graph that followed the plan of a sum** holds it. -/
theorem Follows.biased {before after : Graph} {a b out : Handle} {more : List Handle}
    (follows : Follows before ((Wire.tensor a).withBias 0 b a.rank) (more ++ [out]) after)
    (typed : out.type = a.type) (absorbed : a.shape.absorbs b.shape = true)
    (ownedA : before.owns a = true) (ownedB : before.owns b = true) :
    Biased a b out before after := by
  obtain ⟨adds, _⟩ := (@CellOperands.pass_withBias _ [] _ [] b a.type (.tensor a)
    Request.agrees_type? rfl absorbed).mp (by rw [List.append_nil]; exact follows.types)
  refine ⟨congrArg TensorType.shape typed, congrArg TensorType.dtype typed,
    (CellOperands.adds_some.mp adds).1.symm, follows.logs_bias, ?_⟩
  intro Element arithmetic sizes values environment symbols readA readB dimsA dimsB
  obtain ⟨earlier, value, passed, sameType, dims, entries⟩ :=
    @CellOperands.withBias_computes _ arithmetic sizes values [] (a.typed values) (.tensor a) b rfl
      absorbed adds (fun _ name _ => symbols name) dimsA dimsB
  have tensors {property : Handle → Prop} (first : property a) (second : property b) :
      ∀ request ∈ (Wire.tensor a).withBias 0 b a.rank, ∀ handle,
        Wire.tensor handle ∈ request.operands → property handle := by
    intro request member handle wired
    rcases Wire.mem_withBias member wired with same | rfl
    · cases same
      exact first
    · exact second
  obtain ⟨final, evaluated, valued⟩ := follows.evaluatesSince (tensors ownedA ownedB)
    (tensors readA readB) passed
  have last : final.read out = some value := by
    have ends := congrArg List.getLast? valued
    simp only [List.map_append, List.map_singleton, List.getLast?_concat] at ends
    exact Option.some.inj ends
  refine ⟨final, value.tensor, evaluated, ?_, dims.trans dimsA, fun index within => ⟨?_, ?_⟩⟩
  · rw [last, typed, ← show value.type = a.type from sameType]
  · exact Index.within_broadcast absorbed within
  · rw [← dimsB]
    exact entries index (by rwa [show (a.typed values).tensor.dims = _ from dimsA])

/-- **A bias is added in the shape of the tensor.** What is returned for two tensors of the graph is
their sum, in one layer or in two. A bias that the tensor does not absorb is refused: the failure
says so in the words of the node, and nothing has changed but the trace. If the sum fails although
the bias was reshaped, the reshape is the only new layer; any other failure leaves none. -/
theorem addBias_sums (a b : Handle) (name : String) (node : OperatorNode) (start : Context)
    (ownedA : start.graph.owns a = true) (ownedB : start.graph.owns b = true) :
    (∀ out after, Lower.addBias a b name node start = .ok out after →
      Biased a b out start.graph after.graph) ∧
    (a.shape.absorbs b.shape = false → Lower.addBias a b name node start =
      .error (.conversion ⟨.shape name a.shape b.shape, some node.text⟩)
        { start with trace := start.trace ++ [.biasShape name b.shape] }) ∧
    ∀ failure after, Lower.addBias a b name node start = .error failure after →
      (FailedSum a b node failure → ∃ reshaped padded, after.graph.layers = start.graph.layers ++
        [⟨.reshape (b.shape.padTo a.rank), reshaped, [b.name], padded⟩]) ∧
      (¬ FailedSum a b node failure → after.graph.layers = start.graph.layers) := by
  have refused (wider : a.shape.absorbs b.shape = false) :=
    @Lower.addBias_wider node a b name start wider
  refine ⟨fun out after run => ?_, refused, fun failure after run => ?_⟩
  · cases absorbed : a.shape.absorbs b.shape with
    | false =>
        rw [refused absorbed] at run
        cases run
    | true =>
        have walked : Walked start [] [] start := ⟨.start, rfl⟩
        obtain ⟨more, walked, typed⟩ := (@Lower.addBias_absorbed_ends True node _ _ _ _ a
          (.tensor a) walked rfl b name absorbed).ok run
        exact walked.follows.biased typed absorbed ownedA ownedB
  · cases absorbed : a.shape.absorbs b.shape with
    | false =>
        rw [refused absorbed] at run
        cases run
        exact ⟨fun ⟨_, _, failed⟩ => (by cases failed), fun _ => rfl⟩
    | true =>
        rcases Lower.addBias_failed name absorbed run with ⟨failed, logged⟩ | ⟨other, logged⟩
        · exact ⟨fun _ => logged, fun other => absurd failed other⟩
        · exact ⟨fun failed => absurd failed other, fun _ => logged⟩

/-- A batch of two columns, of symbolic size. -/
def Handle.batch : Handle := ⟨"x", [.symbol "n", .size 2], .float32⟩

/-- An entry for each of the columns. -/
def Handle.columns : Handle := ⟨"b", [.size 2], .float32⟩

/-- The same, of another element type. -/
def Handle.doubles : Handle := ⟨"d", [.size 2], .float64⟩

/-- A context that has the three of them as inputs. -/
def Context.columned : Context := ⟨.ofInputs [.batch, .columns, .doubles], .empty, [], []⟩

/-- A node to add them for. -/
def OperatorNode.adding : OperatorNode := ⟨"cell", "aten::lstm_cell", [], ["hy", "cy"]⟩

/-- To each of two rows the entries for the columns are added. Doubles are not added, but they are
reshaped for it. -/
theorem addBias_sums_columns :
    (∃ out after final sum, Lower.addBias .batch .columns "b_ih" .adding .columned =
          .ok out after ∧
      Context.columned.graph.evaluateSince? after.graph .linear
        (fun name => ([.batch, .columns].find? (·.name = name)).map (.data ∘ .counting)) =
          some final ∧
      final.read out = some ⟨⟨[.symbol "n", .size 2], .float32⟩, sum⟩ ∧
      sum.entry [0, 1] = 4 ∧ sum.entry [1, 1] = 5) ∧
    ∃ failure after, Lower.addBias .batch .doubles "b_ih" .adding .columned =
        .error failure after ∧
      after.graph.layers.map Layer.primitive = [.reshape [.one, .size 2]] := by
  constructor
  · have returns : ∃ out after,
        Lower.addBias .batch .columns "b_ih" .adding .columned = .ok out after := ⟨_, _, rfl⟩
    obtain ⟨out, after, run⟩ := returns
    obtain ⟨sums, _, _⟩ := addBias_sums .batch .columns "b_ih" .adding .columned (by decide)
      (by decide)
    have biased := sums out after run
    obtain ⟨final, sum, evaluated, read, _, entries⟩ := biased.computes .linear (fun _ => 2)
      .counting (fun name => ([.batch, .columns].find? (·.name = name)).map (.data ∘ .counting))
      (fun _ => by decide) rfl rfl rfl rfl
    have type : out.type = ⟨[.symbol "n", .size 2], .float32⟩ := by
      rw [Handle.type, biased.shape, biased.dtype]
      rfl
    refine ⟨out, after, final, sum, run, evaluated, type ▸ read, ?_, ?_⟩
    · exact (entries [0, 1] (.cons (by decide) (.cons (by decide) .nil))).2
    · exact (entries [1, 1] (.cons (by decide) (.cons (by decide) .nil))).2
  · have refused : ∃ reason after, Lower.addBias .batch .doubles "b_ih" .adding .columned =
        .error (.ofNode .adding (.lowering "elementwise sum" reason)) after := ⟨_, _, rfl⟩
    obtain ⟨reason, after, run⟩ := refused
    obtain ⟨_, _, fails⟩ := addBias_sums .batch .doubles "b_ih" .adding .columned (by decide)
      (by decide)
    obtain ⟨reshaped, padded, logged⟩ := (fails _ after run).1 ⟨by decide, reason, rfl⟩
    refine ⟨_, after, run, ?_⟩
    rw [logged]
    rfl

end OperatorLowering
