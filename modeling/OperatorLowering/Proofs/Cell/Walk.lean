/-
**How far a lowering comes along a plan.**

A lowering that walks along a plan makes one request after the other. It comes to an end of what it
set out to do, with the context changed in nothing but the graph (`Walked`), or it halts in front of
a request (`Halted`), for one of four reasons (`Stop`): the graph refuses it, an index constant
would be too large, a bias does not broadcast, or the gates cannot be told apart.

* `Lower.request_ends`: one request on behalf of a node;
* `Lower.addBias_absorbed_ends`, `Lower.addBias_ends`: the sum with a bias;
* `Lower.weighted_ends`: half of the pre-activations.
-/

import OperatorLowering.Proofs.Cell.Plan
import OperatorLowering.Proofs.Lowering.Reconcile

namespace OperatorLowering

/-- A shape has no four equal known quarters, and this is what is said about it. -/
def Shape.Unquartered (shape : Shape) (broken : Precondition) : Prop :=
  (∃ name, shape.getLast? = some (.symbol name) ∧ broken = .symbolicGate name) ∨
    ∃ width, shape.getLast? = some (.size width) ∧ width % 4 ≠ 0 ∧ broken = .indivisibleGate width

/-- A bias, if there is one, broadcasts to the product of an operand and weights. -/
def CellOperands.BiasFits (operand weights : Handle) (bias : Option Handle) : Prop :=
  ∀ given type, bias = some given → halfType? operand weights = some type →
    type.shape.absorbs given.shape = true

/-- **What a lowering looks at** before it asks the graph: the biases broadcast, and the
pre-activations have four equal known quarters. -/
structure CellOperands.Fit (operands : CellOperands) : Prop where
  input : BiasFits operands.input operands.inputWeights operands.inputBias
  hidden : BiasFits operands.state.hidden operands.hiddenWeights operands.hiddenBias
  quarters : ∀ type broken, operands.gatesType? = some type → ¬ type.shape.Unquartered broken

/-- **Why a lowering halts** in front of a request, with these outputs so far, and how it fails. If
its operands are `fit`, it is for the graph alone. -/
inductive Stop (fit : Prop) (node : OperatorNode) (outputs : List Handle) (graph : Graph) :
    Request Wire → Failure → Prop
  /-- The graph rejects the request; the failure names the layer. -/
  | rejected (request : Request Wire) (reason : Rejection)
      (blocked : request.Blocked outputs graph) :
      Stop fit node outputs graph request
        (.ofNode node (.lowering request.primitive.label (some (.rejected reason))))
  /-- A constant that the layer reads would hold an integer beyond 64 bits. -/
  | tooLarge (request : Request Wire) (resolved : Request Handle)
      (reads : request.traverse (Wire.read id outputs) = some resolved)
      (oversized : (resolved.map Handle.type).Oversized) :
      Stop fit node outputs graph request (.graph .constantTooLarge)
  /-- The layer would be the first to read a bias that does not broadcast to the product. -/
  | shape (request : Request Wire) (product bias : Handle) (name : String)
      (reads : .tensor bias ∈ request.operands) (last : outputs.getLast? = some product)
      (wider : product.shape.absorbs bias.shape = false) (unfit : ¬ fit) :
      Stop fit node outputs graph request (.ofNode node (.shape name product.shape bias.shape))
  /-- The layer would be the first slice of pre-activations without four equal known quarters. -/
  | width (gates : Handle) (place : Nat) (broken : Precondition)
      (last : outputs.getLast? = some gates) (unquartered : gates.shape.Unquartered broken)
      (unfit : ¬ fit) :
      Stop fit node outputs graph (gates.shape.gateRequest (.layer place) 0)
        (.ofNode node (.precondition broken))

/-- A lowering followed a plan from `start` up to a request in front of which it halted. The graph
may hold constants for that request already. -/
def Halted (fit : Prop) (node : OperatorNode) (start : Graph) (made : List (Request Wire))
    (request : Request Wire) (failure : Failure) (graph : Graph) : Prop :=
  ∃ outputs before, ∃ constants : List Constant, Follows start made outputs before ∧
    before.Grows (constants.map Addition.constant) graph ∧
      Stop fit node outputs before request failure

/-- A lowering halted somewhere in a segment of its plan. -/
def HaltedIn (fit : Prop) (node : OperatorNode) (start : Graph)
    (made segment : List (Request Wire)) (failure : Failure) (graph : Graph) : Prop :=
  ∃ done request rest, segment = done ++ request :: rest ∧
    Halted fit node start (made ++ done) request failure graph

namespace HaltedIn

variable {fit : Prop} {node : OperatorNode} {start graph : Graph}
  {made segment : List (Request Wire)} {failure : Failure}

theorem first {request : Request Wire}
    (halted : Halted fit node start made request failure graph) (rest : List (Request Wire)) :
    HaltedIn fit node start made (request :: rest) failure graph :=
  ⟨[], request, rest, rfl, by rwa [List.append_nil]⟩

theorem earlier (halted : HaltedIn fit node start made segment failure graph)
    (more : List (Request Wire)) : HaltedIn fit node start made (segment ++ more) failure graph := by
  obtain ⟨done, request, rest, rfl, halted⟩ := halted
  exact ⟨done, request, rest ++ more, by simp, halted⟩

theorem later {more : List (Request Wire)}
    (halted : HaltedIn fit node start (made ++ segment) more failure graph) :
    HaltedIn fit node start made (segment ++ more) failure graph := by
  obtain ⟨done, request, rest, rfl, halted⟩ := halted
  exact ⟨segment ++ done, request, rest, by simp, by rwa [← List.append_assoc]⟩

end HaltedIn

/-- A lowering followed a plan and has not bound anything yet. -/
structure Walked (start : Context) (made : List (Request Wire)) (outputs : List Handle)
    (after : Context) : Prop where
  follows : Follows start.graph made outputs after.graph
  unbound : after.bindings = start.bindings

namespace Lower

variable {fit : Prop} {node : OperatorNode} {start context : Context}
  {made : List (Request Wire)} {outputs : List Handle}

/-- A halt leaves the bindings alone. -/
def HaltedWith (fit : Prop) (node : OperatorNode) (start : Context)
    (made segment : List (Request Wire)) (failure : Failure) (after : Context) : Prop :=
  HaltedIn fit node start.graph made segment failure after.graph ∧ after.bindings = start.bindings

/-! ### Single requests -/

theorem traceEvent_ends {failed : Failure → Context → Prop} (event : TraceEvent)
    (walked : Walked start made outputs context) :
    Ends (traceEvent event) context (fun _ after => Walked start made outputs after) failed :=
  Ends.of_ok rfl ⟨walked.follows, walked.unbound⟩

/-- The next request of a plan, before its refusal is reported. -/
theorem build_request_ends {request : Request Wire} {resolved : Request Handle}
    (walked : Walked start made outputs context)
    (reads : request.traverse (Wire.read id outputs) = some resolved) :
    Ends (build resolved.build) context
      (fun output after => Walked start (made ++ [request]) (outputs ++ [output]) after ∧
        (resolved.map Handle.type).type? = some output.type)
      (fun failure after => HaltedWith fit node start made [request]
        (failure.onBehalf node request.primitive.label) after) := by
  refine (build_ends (resolved.build_ends context.graph)).mono ?_ ?_
  · rintro output after ⟨accepted, same⟩
    rw [same]
    exact ⟨⟨walked.follows.accept reads accepted, walked.unbound⟩, accepted.typed⟩
  · rintro failure after ⟨⟨fault, rfl, refused⟩, same⟩
    rw [same]
    refine ⟨HaltedIn.first ?_ [], walked.unbound⟩
    obtain ⟨constants, grows⟩ := refused.grows
    have blocked : request.Blocked outputs context.graph := ⟨resolved, reads, refused.cause⟩
    refine ⟨outputs, context.graph, constants, walked.follows, grows, ?_⟩
    rcases refused.verdict with ⟨reason, rfl, _⟩ | ⟨rfl, oversized⟩
    · exact .rejected request reason blocked
    · exact .tooLarge request resolved reads oversized

/-- **The next request of a plan**, made on behalf of a node. -/
theorem request_ends {request : Request Wire} {resolved : Request Handle}
    (walked : Walked start made outputs context)
    (reads : request.traverse (Wire.read id outputs) = some resolved) :
    Ends (checked node request.primitive.label (build resolved.build)) context
      (fun output after => Walked start (made ++ [request]) (outputs ++ [output]) after ∧
        (resolved.map Handle.type).type? = some output.type)
      (HaltedWith fit node start made [request]) :=
  checked_ends node _ (build_request_ends walked reads)

/-- A request of owned tensors whose types allow a result is accepted. -/
theorem accepted_ends {failed : Failure → Context → Prop} {request : Request Wire}
    {resolved : Request Handle} {type : TensorType} (label : String)
    (walked : Walked start made outputs context)
    (reads : request.traverse (Wire.read id outputs) = some resolved)
    (owned : ∀ tensor ∈ resolved.operands, context.graph.owns tensor = true)
    (typed : (resolved.map Handle.type).type? = some type) :
    Ends (checked node label (build resolved.build)) context
      (fun output after => Walked start (made ++ [request]) (outputs ++ [output]) after ∧
        output.type = type) failed := by
  obtain ⟨output, after, run, same, accepted⟩ := Request.accepts owned typed
  exact Ends.of_ok (checked_run_ok node label (build_run_ok run))
    ⟨⟨walked.follows.accept reads accepted, walked.unbound⟩, same⟩

/-- Two segments of a plan, the second of which may stop for a further reason. -/
theorem segments_or_ends {Value Next : Type} {step : Lower Value} {next : Value → Lower Next}
    {first second : List (Request Wire)} {done : Value → Context → Prop}
    {final : Next → Context → Prop} {other : Failure → Context → Prop}
    (begins : Ends step context done (HaltedWith fit node start made first))
    (goesOn : ∀ value after, done value after → Ends (next value) after final
      fun failure after =>
        HaltedWith fit node start (made ++ first) second failure after ∨ other failure after) :
    Ends (step >>= next) context final fun failure after =>
      HaltedWith fit node start made (first ++ second) failure after ∨ other failure after :=
  Ends.bind (begins.mono (fun _ _ => id) fun _ _ halted =>
      Or.inl ⟨halted.1.earlier second, halted.2⟩)
    fun value after holds => (goesOn value after holds).mono (fun _ _ => id)
      fun _ _ => Or.imp_left fun halted => ⟨halted.1.later, halted.2⟩

/-- **Two segments of a plan**, one after the other. -/
theorem segments_ends {Value Next : Type} {step : Lower Value} {next : Value → Lower Next}
    {first second : List (Request Wire)} {done : Value → Context → Prop}
    {final : Next → Context → Prop}
    (begins : Ends step context done (HaltedWith fit node start made first))
    (goesOn : ∀ value after, done value after →
      Ends (next value) after final (HaltedWith fit node start (made ++ first) second)) :
    Ends (step >>= next) context final (HaltedWith fit node start made (first ++ second)) := by
  refine (segments_or_ends begins fun value after holds => ?_).mono (fun _ _ => id)
    fun _ _ => (or_iff_left not_false).mp
  exact (goesOn value after holds).mono (fun _ _ => id) fun _ _ => Or.inl

/-! ### Biases -/

/-- A product and a bias that it absorbs, padded or not, are summed in the product's type. -/
theorem sum_ends {product bias : Handle} {request : Request Wire}
    (walked : Walked start made outputs context)
    (reads : request.traverse (Wire.read id outputs) =
      some (.elementwise product bias .sum))
    (absorbed : product.shape.absorbs bias.shape = true) :
    Ends (checked node "elementwise sum" (build (Build.elementwise product bias .sum))) context
      (fun total after => Walked start (made ++ [request]) (outputs ++ [total]) after ∧
        total.type = product.type)
      (HaltedWith fit node start made [request]) := by
  have label : request.primitive.label = "elementwise sum" := by
    rw [← (Request.traverse_eq_some reads).1]
    rfl
  have ends : Ends (checked node request.primitive.label (build (Build.elementwise product bias
      .sum))) context _ (HaltedWith fit node start made [request]) := request_ends walked reads
  rw [label] at ends
  refine ends.mono ?_ fun _ _ => id
  rintro total after ⟨walked, typed⟩
  refine ⟨walked, ?_⟩
  obtain ⟨_, combined, dtype⟩ := Request.type?_elementwise.mp typed
  have shape : some product.shape = some total.shape :=
    (Shape.broadcast?_of_absorbs absorbed).symm.trans combined
  rw [Handle.type, Handle.type, Option.some.inj shape]
  exact congrArg _ dtype

/-- The reshape of a bias, as planned. -/
theorem reshapeBias_ends (walked : Walked start made outputs context) (bias : Handle)
    (name : String) (shape : Shape) :
    Ends (checked node "reshape" (do
        traceEvent (.reshaped name)
        build (Build.reshape bias shape))) context
      (fun padded after => Walked start (made ++ [.reshape (.tensor bias) shape])
        (outputs ++ [padded]) after ∧ padded.shape = shape)
      (HaltedWith fit node start made [.reshape (.tensor bias) shape]) := by
  have reads : (Request.reshape (.tensor bias) shape).traverse (Wire.read id outputs) =
      some (.reshape bias shape) := rfl
  refine checked_ends node "reshape" ?_
  refine (traceEvent_ends (.reshaped name) walked).bind fun _ traced walked => ?_
  refine (build_request_ends walked reads).mono ?_ fun _ _ => id
  rintro padded after ⟨walked, typed⟩
  obtain ⟨_, _, same⟩ := Option.map_eq_some_iff.mp typed
  exact ⟨walked, (congrArg TensorType.shape same).symm⟩

/-- **The sum with a bias that is absorbed**, as planned for a wire that leads to the product. -/
theorem addBias_absorbed_ends {product : Handle} {wire : Wire}
    (walked : Walked start made outputs context) (leads : wire.read id outputs = some product)
    (bias : Handle) (name : String) (absorbed : product.shape.absorbs bias.shape = true) :
    Ends (addBias product bias name node) context
      (fun total after => ∃ more,
        Walked start (made ++ wire.withBias outputs.length bias product.rank)
          (outputs ++ more ++ [total]) after ∧ total.type = product.type)
      (HaltedWith fit node start made (wire.withBias outputs.length bias product.rank)) := by
  unfold addBias
  refine (traceEvent_ends (.biasShape name bias.shape) walked).bind fun _ context walked => ?_
  rw [if_neg (by rw [absorbed]; exact Bool.noConfusion)]
  by_cases lower : bias.rank < product.rank
  · rw [if_neg (shape_ne_of_lower lower), reconcile_lower name absorbed lower, Wire.withBias,
      if_pos lower]
    refine segments_ends (reshapeBias_ends walked bias name _) fun padded after ends => ?_
    obtain ⟨walked, shaped⟩ := ends
    refine (sum_ends walked (Wire.traverse_sum_last leads padded) ?_).mono ?_ fun _ _ => id
    · rw [shaped]
      exact Shape.absorbs_padTo absorbed
    · rintro total after ⟨walked, typed⟩
      refine ⟨[padded], ?_, typed⟩
      rwa [List.append_assoc made] at walked
  · have level : bias.rank = product.rank :=
      Nat.le_antisymm (Shape.absorbs_iff.mp absorbed).1 (Nat.le_of_not_lt lower)
    rw [reconcile_level name absorbed level, Wire.withBias, if_neg lower]
    have summed : Ends (checked node "elementwise sum" (build (Build.elementwise product bias
        .sum))) context (fun total after => ∃ more,
          Walked start (made ++ [.elementwise wire (.tensor bias) .sum])
            (outputs ++ more ++ [total]) after ∧ total.type = product.type)
        (HaltedWith fit node start made [.elementwise wire (.tensor bias) .sum]) :=
      (sum_ends walked (Wire.traverse_sum leads bias) absorbed).mono
        (fun _ _ ends => ⟨[], by rw [List.append_nil]; exact ends.1, ends.2⟩) fun _ _ => id
    by_cases same : product.shape = bias.shape
    · rw [if_pos same]
      exact summed
    · rw [if_neg same]
      exact summed

/-- The run of a sum with a bias that is not absorbed. -/
theorem addBias_wider {product bias : Handle} (name : String) (context : Context)
    (wider : product.shape.absorbs bias.shape = false) :
    addBias product bias name node context =
      .error (.ofNode node (.shape name product.shape bias.shape))
        { context with trace := context.trace ++ [.biasShape name bias.shape] } := by
  unfold addBias
  rw [if_pos wider]
  rfl

/-- **The sum with a bias**, as planned. -/
theorem addBias_ends {product : Handle}
    (walked : Walked start made (outputs ++ [product]) context) (bias : Handle) (name : String)
    (foreseen : fit → product.shape.absorbs bias.shape = true) :
    Ends (addBias product bias name node) context
      (fun total after => ∃ more,
        Walked start
          (made ++ (Wire.layer outputs.length).withBias (outputs.length + 1) bias product.rank)
          (outputs ++ [product] ++ more ++ [total]) after ∧ total.type = product.type ∧
          product.shape.absorbs bias.shape = true)
      (HaltedWith fit node start made
        ((Wire.layer outputs.length).withBias (outputs.length + 1) bias product.rank)) := by
  rcases Bool.eq_false_or_eq_true (product.shape.absorbs bias.shape) with absorbed | wider
  case inr =>
      obtain ⟨request, rest, first, reads⟩ := Wire.withBias_eq_cons (.layer outputs.length)
        (outputs.length + 1) bias product.rank
      rw [first]
      refine Ends.of_error (addBias_wider name context wider)
        ⟨HaltedIn.first ?_ rest, walked.unbound⟩
      exact ⟨_, context.graph, [], walked.follows, Graph.Grows.refl _,
        .shape request product bias name reads List.getLast?_concat wider fun holds => by
          rw [foreseen holds] at wider
          cases wider⟩
  case inl =>
      have ends := @addBias_absorbed_ends fit node _ _ _ _ _ (.layer outputs.length) walked
        (Wire.read_last id outputs product) bias name absorbed
      rw [List.length_append, List.length_singleton] at ends
      refine ends.mono ?_ fun _ _ => id
      rintro total after ⟨more, walked, typed⟩
      exact ⟨more, walked, typed, absorbed⟩

/-! ### Halves -/

/-- The product of two stacks of matrices has the greater of their ranks, which are two or more. -/
theorem rank_of_halfType? {operand weights : Handle} {type : TensorType}
    (typed : CellOperands.halfType? operand weights = some type) :
    type.shape.length = max operand.rank weights.rank ∧ 2 ≤ type.shape.length := by
  obtain ⟨_, _, first, second, joint, firstShape, secondShape, _, batches, shape⟩ :=
    Request.type?_matmul.mp typed
  have firstRank : operand.rank = first.batch.length + 2 :=
    (congrArg List.length firstShape).trans List.length_append
  have secondRank : weights.rank = second.batch.length + 2 :=
    (congrArg List.length secondShape).trans List.length_append
  have rank : type.shape.length = joint.length + 2 := by
    rw [shape]
    exact List.length_append
  have longer : joint.length = max first.batch.length second.batch.length :=
    Shape.length_of_broadcast? batches
  omega

/-- Pre-activations have axes. -/
theorem ranked_of_gatesType? {operands : CellOperands} {type : TensorType}
    (typed : operands.gatesType? = some type) : type.shape ≠ [] := by
  obtain ⟨fromInput, inputType, typed⟩ := Option.bind_eq_some_iff.mp typed
  obtain ⟨fromHidden, _, typed⟩ := Option.bind_eq_some_iff.mp typed
  obtain ⟨_, combined, _⟩ := Request.type?_elementwise.mp typed
  have longer := Shape.length_of_broadcast? combined
  have least := (rank_of_halfType? inputType).2
  refine List.ne_nil_of_length_pos ?_
  omega

/-- **Half of the pre-activations**, as planned. -/
theorem weighted_ends (walked : Walked start made outputs context) (operand weights : Handle)
    (bias : Option Handle) (name : String)
    (foreseen : fit → CellOperands.BiasFits operand weights bias) :
    Ends (weighted node operand weights bias name) context
      (fun gates after => ∃ more,
        Walked start (made ++ CellOperands.half operand weights bias outputs.length)
          (outputs ++ more ++ [gates]) after ∧
        CellOperands.halfType? operand weights = some gates.type ∧
        CellOperands.BiasFits operand weights bias)
      (HaltedWith fit node start made (CellOperands.half operand weights bias outputs.length)) := by
  have reads : (Request.matmul (.tensor operand) (.tensor weights) false true).traverse
      (Wire.read id outputs) = some (.matmul operand weights false true) := rfl
  refine segments_ends (request_ends walked reads) fun product after ends => ?_
  obtain ⟨walked, typed⟩ := ends
  cases bias with
  | none => exact Ends.pure ⟨[], by rwa [List.append_nil], typed, nofun⟩
  | some bias =>
      have rank : product.rank = max operand.rank weights.rank := (rank_of_halfType? typed).1
      rw [← rank]
      have absorbs : fit → product.shape.absorbs bias.shape = true :=
        fun holds => foreseen holds bias product.type rfl typed
      refine (addBias_ends walked bias name absorbs).mono ?_ fun _ _ => id
      rintro total after ⟨more, walked, same, absorbed⟩
      rw [List.append_assoc made, rank] at walked
      have found : CellOperands.halfType? operand weights = some product.type := typed
      refine ⟨[product] ++ more, ?_, same ▸ typed, ?_⟩
      · rw [← List.append_assoc outputs]
        exact walked
      · rintro given type ⟨⟩ other
        rw [found] at other
        cases other
        exact absorbed

end Lower

end OperatorLowering
