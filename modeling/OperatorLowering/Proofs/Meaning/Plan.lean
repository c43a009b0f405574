/-
**What followed plans compute.**

A graph that followed a plan computes what a pass over the plan with values tells, whatever it held
before: the new nodes, evaluated in order, give each output of the plan the value and the type of
its request. The induction is on the requests; it carries that every output so far has its value.
Names are never taken twice, so neither the nodes nor the constants of later requests change that.

* `Follows.evaluates`: the values of the outputs, where the new index constants have theirs;
* `Follows.evaluatesSince`: the same from values of the older tensors alone.
-/

import OperatorLowering.Proofs.Meaning.Request

namespace OperatorLowering

variable {Element : Type} {arithmetic : Arithmetic Element} {environment after : Environment Element}
  {base : Handle → TypedTensor Element}

/-- The wires of a plan that lead to tensors read the same values from an environment. -/
def Environment.Gives (environment : Environment Element) (base : Handle → TypedTensor Element)
    (plan : List (Request Wire)) : Prop :=
  ∀ request ∈ plan, ∀ handle, Wire.tensor handle ∈ request.operands →
    environment.read handle = some (base handle)

/-- A pass over a longer plan. -/
theorem Plan.pass_concat {Value : Type} {step : Request Value → Option Value}
    {base : Handle → Value} {plan : List (Request Wire)} {request : Request Wire}
    {made : List Value} (passed : Plan.pass step base [] (plan ++ [request]) = some made) :
    ∃ earlier resolved value, Plan.pass step base [] plan = some earlier ∧
      request.traverse (Wire.read base earlier) = some resolved ∧ step resolved = some value ∧
      made = earlier ++ [value] := by
  rw [pass_append] at passed
  obtain ⟨earlier, first, passed⟩ := Option.bind_eq_some_iff.mp passed
  obtain ⟨resolved, reads, passed⟩ := Option.bind_eq_some_iff.mp passed
  obtain ⟨value, steps, passed⟩ := Option.bind_eq_some_iff.mp passed
  exact ⟨earlier, resolved, value, first, reads, steps, (Option.some.inj passed).symm⟩

/-- A pass with values tells the types that a pass with types tells. -/
theorem Plan.pass_types {made all : List (TypedTensor Element)} {plan : List (Request Wire)}
    (declared : ∀ handle, (base handle).type = handle.type)
    (computes : Plan.pass (Request.compute? arithmetic) base made plan = some all) :
    Plan.pass Request.type? Handle.type (made.map TypedTensor.type) plan =
      some (all.map TypedTensor.type) := by
  induction plan generalizing made with
  | nil =>
      cases computes
      rfl
  | cons request rest ih =>
      obtain ⟨resolved, reads, computes⟩ := Option.bind_eq_some_iff.mp computes
      obtain ⟨value, computed, computes⟩ := Option.bind_eq_some_iff.mp computes
      have read : Wire.read Handle.type (made.map TypedTensor.type) =
          fun wire => (wire.read base made).map TypedTensor.type := by
        funext wire
        rw [← Wire.read_map base made TypedTensor.type wire]
        cases wire with
        | tensor handle => exact congrArg some (declared handle).symm
        | layer index => rfl
      have typed : request.traverse (Wire.read Handle.type (made.map TypedTensor.type)) =
          some (resolved.map TypedTensor.type) := by
        rw [read]
        exact Request.traverse_change reads TypedTensor.type
      rw [Plan.pass_cons typed (Request.compute?_eq_some.mp computed).1]
      have rest := ih computes
      rwa [List.map_append] at rest

namespace Follows

variable {start graph : Graph} {plan : List (Request Wire)} {outputs : List Handle}
  {made : List (TypedTensor Element)}

/-- Wires read the values of the tensors that they lead to. -/
theorem read_wire {wire : Wire} (old : ∀ handle, wire = .tensor handle →
      environment.read handle = some (base handle))
    (values : outputs.map environment.read = made.map some) :
    (wire.read id outputs).bind environment.read = wire.read base made := by
  cases wire with
  | tensor handle => exact old handle rfl
  | layer index =>
      have here := congrArg (fun list => list[index]?) values
      simp only [List.getElem?_map] at here
      show outputs[index]?.bind environment.read = made[index]?
      cases output : outputs[index]? with
      | none =>
          rw [output] at here
          cases value : made[index]? with
          | none => rfl
          | some value' => simp [value] at here
      | some handle =>
          rw [output] at here
          cases value : made[index]? with
          | none => simp [value] at here
          | some value' => simpa [value] using here

/-- **A graph that followed a plan** computes the values of the plan. -/
theorem evaluates (follows : Follows start plan outputs graph)
    (owned : start.OwnsTensorsOf plan) (given : environment.Gives base plan)
    (computes : Plan.pass (Request.compute? arithmetic) base [] plan = some made)
    (holds : environment.Holds (graph.constants.drop start.constants.length)) :
    ∃ after, evaluate? arithmetic (graph.nodes.drop start.nodes.length) environment = some after ∧
      outputs.map after.read = made.map some := by
  induction follows generalizing made with
  | start =>
      cases computes
      rw [List.drop_length]
      exact ⟨environment, rfl, rfl⟩
  | @accept plan outputs before request resolved last grown follows reads accepted ih =>
      obtain ⟨earlier, values, value, first, valuesRead, computed, rfl⟩ := Plan.pass_concat computes
      obtain ⟨typed, denoted⟩ := Request.compute?_eq_some.mp computed
      obtain ⟨prior, growsPrior⟩ := follows.grown
      obtain ⟨additions, adds, grows⟩ := accepted.grows
      have both := growsPrior.trans grows
      rw [both.drop_constants, List.filterMap_append] at holds
      obtain ⟨middle, evaluated, valued⟩ := ih
        (fun other member => owned other (List.mem_append_left _ member))
        (fun other member => given other (List.mem_append_left _ member)) first
        (fun constant member => holds constant (List.mem_append_left _ (by
          rwa [growsPrior.drop_constants] at member)))
      rw [growsPrior.drop_nodes] at evaluated
      have valuesOf : resolved.traverse middle.read = some values := by
        rw [Request.traverse_traverse reads, ← valuesRead]
        refine Request.traverse_congr fun wire member => read_wire ?_ valued
        rintro handle rfl
        have last := List.mem_append_right plan (List.mem_singleton_self request)
        have there := Graph.contains_of_owns (owned request last handle member)
        rw [Environment.read_congr (growsPrior.evaluate_frame evaluated (Or.inl there))]
        exact given request last handle member
      obtain ⟨after, evaluatedLast, lastIs⟩ := Request.evaluate_adds adds grows
        (fun handle member => Graph.contains_of_owns (accepted.owned handle member))
        (fun constant member integers isIndices => by
          rw [growsPrior.evaluate_frame evaluated (Or.inr (grows.enters_constants member))]
          exact holds constant (List.mem_append_right _ member) integers isIndices)
        valuesOf denoted
      refine ⟨after, ?_, ?_⟩
      · rw [both.drop_nodes, List.filterMap_append, evaluate?_append, evaluated, Option.bind_some,
          evaluatedLast]
      · have lastType : last.type = value.type := by
          have sameTypes : resolved.map Handle.type = values.map TypedTensor.type :=
            Request.map_of_traverse valuesOf fun handle value read =>
              (Environment.read_eq_some.mp read).2
          rw [← sameTypes, accepted.typed] at typed
          exact Option.some.inj typed
        have older : outputs.map after.read = outputs.map middle.read := by
          refine List.map_congr_left fun output member => Environment.read_congr ?_
          exact grows.evaluate_frame evaluatedLast
            (Or.inl (Graph.contains_of_owns (follows.enters member).2))
        rw [List.map_append, List.map_append, older, valued, List.map_singleton, List.map_singleton,
          Environment.read_eq_some.mpr ⟨lastIs, lastType⟩]

/-- **What a graph grew by** along a plan computes the values of the plan from those of the older
tensors. -/
theorem evaluatesSince (follows : Follows start plan outputs graph)
    (owned : start.OwnsTensorsOf plan) (given : environment.Gives base plan)
    (computes : Plan.pass (Request.compute? arithmetic) base [] plan = some made) :
    ∃ after, start.evaluateSince? graph arithmetic environment = some after ∧
      outputs.map after.read = made.map some := by
  obtain ⟨additions, grows⟩ := follows.grown
  unfold Graph.evaluateSince?
  refine follows.evaluates owned ?_ computes ?_
  · intro request member handle wired
    rw [grows.read_embed (Graph.contains_of_owns (owned request member handle wired))]
    exact given request member handle wired
  · rw [grows.drop_constants]
    exact Environment.embed_holds grows.distinct_constants

end Follows

end OperatorLowering
