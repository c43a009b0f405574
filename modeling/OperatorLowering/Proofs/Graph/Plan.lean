/-
**Plans.**

A plan is a list of requests whose operands are tensors of the graph or the results of earlier
requests of the plan. It is read in several ways by one pass over its requests (`Plan.pass`): with
types it tells which requests a graph would accept, with values what they compute.

A graph follows a plan when it accepted the requests one after the other (`Follows`). The layers
that it logged are then those of the plan: they compute what was asked for, and read what the plan
wires them to.

* `Follows.layers`: layers are planned in kind, attributes and wiring;
* `Follows.enters`: the outputs are new and belong to the graph;
* `Follows.types`: the types of the outputs are those that the plan tells.
-/

import Mathlib.Data.List.Forall2
import OperatorLowering.Proofs.Graph.Calls

namespace OperatorLowering

/-- What a planned request works on: a tensor of the graph, or what an earlier request gives. -/
inductive Wire where
  | tensor (handle : Handle)
  | layer (index : Nat)
  deriving DecidableEq

/-- What is at the end of a wire, given what belongs to tensors and to earlier requests. -/
def Wire.read {Value : Type} (base : Handle → Value) (made : List Value) : Wire → Option Value
  | .tensor handle => some (base handle)
  | .layer index => made[index]?

namespace Request

variable {Operand Other : Type}

/-- The request with operands that may be missing. -/
def traverse (read : Operand → Option Other) : Request Operand → Option (Request Other)
  | .matmul a b transposeA transposeB => do
    return .matmul (← read a) (← read b) transposeA transposeB
  | .elementwise a b op => do return .elementwise (← read a) (← read b) op
  | .slice a offsets sizes strides => do return .slice (← read a) offsets sizes strides
  | .activation a kind => do return .activation (← read a) kind
  | .reshape a shape => do return .reshape (← read a) shape

/-- The operands are read one by one. -/
theorem traverse_eq_map (read : Operand → Option Other) (request : Request Operand) :
    request.traverse read = (request.map read).traverse id := by
  cases request <;> rfl

/-- **A request is read** when each of its operands is. -/
theorem traverse_iff {read : Operand → Option Other} {request : Request Operand}
    {resolved : Request Other} :
    request.traverse read = some resolved ↔ request.map read = resolved.map some := by
  constructor
  · intro found
    cases request with
    | matmul a b transposeA transposeB =>
        obtain ⟨first, readFirst, found⟩ := Option.bind_eq_some_iff.mp found
        obtain ⟨second, readSecond, found⟩ := Option.bind_eq_some_iff.mp found
        cases found
        rw [map, map, readFirst, readSecond]
    | elementwise a b op =>
        obtain ⟨first, readFirst, found⟩ := Option.bind_eq_some_iff.mp found
        obtain ⟨second, readSecond, found⟩ := Option.bind_eq_some_iff.mp found
        cases found
        rw [map, map, readFirst, readSecond]
    | slice a offsets sizes strides =>
        obtain ⟨operand, readOperand, found⟩ := Option.bind_eq_some_iff.mp found
        cases found
        rw [map, map, readOperand]
    | activation a kind =>
        obtain ⟨operand, readOperand, found⟩ := Option.bind_eq_some_iff.mp found
        cases found
        rw [map, map, readOperand]
    | reshape a shape =>
        obtain ⟨operand, readOperand, found⟩ := Option.bind_eq_some_iff.mp found
        cases found
        rw [map, map, readOperand]
  · intro same
    rw [traverse_eq_map, same]
    cases resolved <;> rfl

theorem traverse_eq_some {read : Operand → Option Other} {request : Request Operand}
    {resolved : Request Other} (found : request.traverse read = some resolved) :
    resolved.primitive = request.primitive ∧
      request.operands.map read = resolved.operands.map some := by
  have same := traverse_iff.mp found
  refine ⟨?_, ?_⟩
  · rw [← primitive_map some resolved, ← same, primitive_map]
  · rw [← operands_map, same, operands_map]

/-- Requests that read the same operands give the same. -/
theorem traverse_congr {read other : Operand → Option Other} {request : Request Operand}
    (same : ∀ operand ∈ request.operands, read operand = other operand) :
    request.traverse read = request.traverse other := by
  rw [traverse_eq_map, map_congr same, ← traverse_eq_map]

/-- Operands that are read twice may be read at once. -/
theorem traverse_traverse {Final : Type} {read : Operand → Option Other}
    {request : Request Operand} {resolved : Request Other}
    (found : request.traverse read = some resolved) (next : Other → Option Final) :
    resolved.traverse next = request.traverse fun operand => (read operand).bind next := by
  have same := congrArg (map fun operand : Option Other => operand.bind next)
    (traverse_iff.mp found)
  rw [map_map, map_map] at same
  rw [traverse_eq_map, traverse_eq_map (fun operand => (read operand).bind next), same]
  rfl

/-- Operands that are read are replaced by what belongs to them. -/
theorem traverse_change {Final : Type} {read : Operand → Option Other}
    {request : Request Operand} {resolved : Request Other}
    (found : request.traverse read = some resolved) (change : Other → Final) :
    request.traverse (fun operand => (read operand).map change) = some (resolved.map change) := by
  have same := congrArg (map (Option.map change)) (traverse_iff.mp found)
  rw [map_map, map_map] at same
  rw [traverse_iff, same, map_map]
  rfl

/-- Operands that are read keep what both readings agree on. -/
theorem map_of_traverse {Common : Type} {read : Operand → Option Other}
    {request : Request Operand} {resolved : Request Other} {before : Operand → Common}
    {behind : Other → Common} (found : request.traverse read = some resolved)
    (agree : ∀ operand other, read operand = some other → before operand = behind other) :
    request.map before = resolved.map behind := by
  have changed := traverse_change found behind
  have same : ∀ operand ∈ request.operands,
      (read operand).map behind = some (before operand) := by
    intro operand member
    have listed : read operand ∈ request.operands.map read := List.mem_map_of_mem member
    rw [(traverse_eq_some found).2] at listed
    obtain ⟨other, _, readOther⟩ := List.mem_map.mp listed
    rw [← readOther, agree operand other readOther.symm]
    rfl
  have read : request.traverse (fun operand => some (before operand)) =
      some (request.map before) := by
    rw [traverse_iff, map_map]
  rw [traverse_congr same, read] at changed
  exact Option.some.inj changed

end Request

namespace Wire

variable {Value Other : Type}

/-- More results do not change what is at the end of a wire. -/
theorem read_append {base : Handle → Value} {made : List Value} {wire : Wire} {value : Value}
    (found : wire.read base made = some value) (more : List Value) :
    wire.read base (made ++ more) = some value := by
  cases wire with
  | tensor handle => exact found
  | layer index =>
      have inside := (List.getElem?_eq_some_iff.mp found).1
      rw [read, List.getElem?_append_left inside]
      exact found

/-- Behind a list of results a layer is found by its distance from there. -/
theorem read_offset (base : Handle → Value) (made rest : List Value) (offset : Nat) :
    Wire.read base (made ++ rest) (.layer (made.length + offset)) = rest[offset]? := by
  show (made ++ rest)[made.length + offset]? = _
  rw [List.getElem?_append_right (Nat.le_add_right _ _), Nat.add_sub_cancel_left]

/-- The layer at the end of what was made so far. -/
theorem read_last (base : Handle → Value) (made : List Value) (last : Value) :
    Wire.read base (made ++ [last]) (.layer made.length) = some last :=
  List.getElem?_concat_length

theorem read_map (base : Handle → Value) (made : List Value) (change : Value → Other)
    (wire : Wire) :
    wire.read (fun handle => change (base handle)) (made.map change) =
      (wire.read base made).map change := by
  cases wire with
  | tensor handle => rfl
  | layer index => exact List.getElem?_map

end Wire

namespace Request

variable {Value : Type} {made rest : List Value} {a b : Value}

/-- Two results behind some others are read by their distances from there. -/
theorem traverse_layers (base : Handle → Value) (i j : Nat) (op : Elementwise)
    (readA : rest[i]? = some a) (readB : rest[j]? = some b) :
    (elementwise (.layer (made.length + i)) (.layer (made.length + j)) op).traverse
      (Wire.read base (made ++ rest)) = some (.elementwise a b op) := by
  simp only [traverse, Wire.read_offset, readA, readB]
  rfl

theorem traverse_layer (base : Handle → Value) (i : Nat) (kind : Activation)
    (readA : rest[i]? = some a) :
    (activation (.layer (made.length + i)) kind).traverse (Wire.read base (made ++ rest)) =
      some (.activation a kind) := by
  simp only [traverse, Wire.read_offset, readA]
  rfl

end Request

/-- Wires that all lead somewhere lead there still when there are more results. -/
theorem Wire.reads_append {Value : Type} {base : Handle → Value} {made : List Value}
    {wires : List Wire} {values : List Value}
    (found : wires.map (Wire.read base made) = values.map some) (more : List Value) :
    wires.map (Wire.read base (made ++ more)) = values.map some := by
  rw [← found]
  refine List.map_congr_left ?_
  intro wire member
  have listed : wire.read base made ∈ values.map some := by
    rw [← found]
    exact List.mem_map_of_mem member
  obtain ⟨value, _, same⟩ := List.mem_map.mp listed
  rw [← same]
  exact read_append same.symm more

/-! ### Passes over a plan -/

namespace Plan

variable {Value : Type}

/-- One pass over a plan: each request, with what its wires read, gives the next result. -/
def pass (step : Request Value → Option Value) (base : Handle → Value) (made : List Value) :
    List (Request Wire) → Option (List Value)
  | [] => some made
  | request :: rest => do
    let resolved ← request.traverse (Wire.read base made)
    let value ← step resolved
    pass step base (made ++ [value]) rest

/-- The first request of a plan is passed over. -/
theorem pass_cons {step : Request Value → Option Value} {base : Handle → Value}
    {made : List Value} {request : Request Wire} {resolved : Request Value} {value : Value}
    (reads : request.traverse (Wire.read base made) = some resolved)
    (steps : step resolved = some value) (rest : List (Request Wire)) :
    pass step base made (request :: rest) = pass step base (made ++ [value]) rest := by
  rw [pass, reads, Option.bind_eq_bind, Option.bind_some, steps]
  rfl

/-- The first request of a plan is passed over if it gives a result and the rest is. -/
theorem pass_cons_iff {step : Request Value → Option Value} {base : Handle → Value}
    {made all : List Value} {request : Request Wire} {resolved : Request Value}
    (reads : request.traverse (Wire.read base made) = some resolved)
    {rest : List (Request Wire)} :
    pass step base made (request :: rest) = some all ↔
      ∃ value, step resolved = some value ∧ pass step base (made ++ [value]) rest = some all := by
  rw [pass, reads, Option.bind_eq_bind, Option.bind_some]
  exact Option.bind_eq_some_iff

/-- Every request of a plan gives one result. -/
theorem length_pass {step : Request Value → Option Value} {base : Handle → Value}
    {made all : List Value} {plan : List (Request Wire)}
    (passed : pass step base made plan = some all) : all.length = made.length + plan.length := by
  induction plan generalizing made with
  | nil =>
      cases passed
      rfl
  | cons request rest ih =>
      obtain ⟨resolved, _, passed⟩ := Option.bind_eq_some_iff.mp passed
      obtain ⟨value, _, passed⟩ := Option.bind_eq_some_iff.mp passed
      rw [ih passed, List.length_append, List.length_singleton, List.length_cons]
      omega

/-- A plan of two parts is passed over part by part. -/
theorem pass_append (step : Request Value → Option Value) (base : Handle → Value)
    (made : List Value) (first second : List (Request Wire)) :
    pass step base made (first ++ second) =
      (pass step base made first).bind fun made => pass step base made second := by
  induction first generalizing made with
  | nil => rfl
  | cons request rest ih =>
      simp only [List.cons_append, pass]
      cases request.traverse (Wire.read base made) with
      | none => rfl
      | some resolved =>
          simp only [Option.bind_eq_bind, Option.bind_some]
          cases step resolved with
          | none => rfl
          | some value => exact ih (made ++ [value])

end Plan

/-! ### Following a plan -/

/-- A layer does what a planned request asks for, given the layers of the plan. -/
def Layer.Realizes (layers : List Layer) (request : Request Wire) (layer : Layer) : Prop :=
  layer.primitive = request.primitive ∧
    layer.inputs.map some =
      request.operands.map (Wire.read Handle.name (layers.map Layer.output))

/-- The inputs of a layer are the names at the end of the planned wires. -/
theorem Layer.Realizes.inputs_eq {layers : List Layer} {request : Request Wire} {layer : Layer}
    {names : List String} (realizes : layer.Realizes layers request)
    (reads : request.operands.map (Wire.read Handle.name (layers.map Layer.output)) =
      names.map some) : layer.inputs = names :=
  (List.map_inj_right fun _ _ => Option.some.inj).mp (realizes.2.trans reads)

/-- **A graph follows a plan**: from `start` on it accepted its requests one after the other, with
these outputs. -/
inductive Follows (start : Graph) : List (Request Wire) → List Handle → Graph → Prop
  | start : Follows start [] [] start
  | accept {plan : List (Request Wire)} {outputs : List Handle} {before : Graph}
      {request : Request Wire} {resolved : Request Handle} {output : Handle} {after : Graph}
      (follows : Follows start plan outputs before)
      (reads : request.traverse (Wire.read id outputs) = some resolved)
      (accepted : resolved.Accepted before output after) :
      Follows start (plan ++ [request]) (outputs ++ [output]) after

/-- The wires of a plan that lead to tensors lead to a graph's own. -/
def Graph.OwnsTensorsOf (graph : Graph) (plan : List (Request Wire)) : Prop :=
  ∀ request ∈ plan, ∀ handle, Wire.tensor handle ∈ request.operands → graph.owns handle = true

/-- A graph refuses a planned request: it owns not all of the operands, or their types allow no
result. -/
def Request.Blocked (request : Request Wire) (outputs : List Handle) (graph : Graph) : Prop :=
  ∃ resolved, request.traverse (Wire.read id outputs) = some resolved ∧
    ((∃ tensor ∈ resolved.operands, graph.owns tensor = false) ∨
      (resolved.map Handle.type).type? = none)

namespace Follows

variable {start graph : Graph} {plan : List (Request Wire)} {outputs : List Handle}

theorem length (follows : Follows start plan outputs graph) : outputs.length = plan.length := by
  induction follows with
  | start => rfl
  | accept follows reads accepted ih => simp [ih]

theorem grown (follows : Follows start plan outputs graph) : start.Grown graph := by
  induction follows with
  | start => exact .refl start
  | accept follows reads accepted ih =>
      obtain ⟨additions, _, grows⟩ := accepted.grows
      exact ih.trans ⟨additions, grows⟩

/-- **The outputs** are under names that were free, and the graph owns them. -/
theorem enters (follows : Follows start plan outputs graph) {output : Handle}
    (member : output ∈ outputs) :
    start.tensors.contains output.name = false ∧ graph.owns output = true := by
  induction follows with
  | start => cases member
  | @accept plan outputs before request resolved last after follows reads accepted ih =>
      obtain ⟨additions, adds, grows⟩ := accepted.grows
      rcases List.mem_append.mp member with old | new
      · obtain ⟨free, owned⟩ := ih old
        exact ⟨free, grows.keeps_owns owned⟩
      · rw [List.mem_singleton.mp new]
        obtain ⟨addition, listed, entered⟩ := Request.output_of_adds adds
        obtain ⟨free, owned⟩ := grows.enters listed entered
        refine ⟨?_, owned⟩
        -- A name that was there at the start would be there before the last request too.
        cases there : start.tensors.contains last.name with
        | false => rfl
        | true =>
            rw [follows.grown.keeps_contains there] at free
            cases free

/-- No two outputs have the same name. -/
theorem distinct (follows : Follows start plan outputs graph) :
    (outputs.map Handle.name).Nodup := by
  induction follows with
  | start => exact List.nodup_nil
  | @accept plan outputs before request resolved last after follows reads accepted ih =>
      obtain ⟨additions, adds, grows⟩ := accepted.grows
      obtain ⟨addition, listed, entered⟩ := Request.output_of_adds adds
      have free := (grows.enters listed entered).1
      rw [List.map_append, List.map_singleton, ← List.concat_eq_append]
      refine List.Nodup.concat ?_ ih
      intro there
      obtain ⟨output, member, same⟩ := List.mem_map.mp there
      have owned := Graph.contains_of_owns (follows.enters member).2
      rw [same, free] at owned
      cases owned

/-- **The layers are planned**: in kind, attributes and wiring. -/
theorem layers (follows : Follows start plan outputs graph) :
    ∃ layers, graph.layers = start.layers ++ layers ∧
      layers.map Layer.output = outputs.map Handle.name ∧
      List.Forall₂ (Layer.Realizes layers) plan layers := by
  induction follows with
  | start => exact ⟨[], by simp, rfl, .nil⟩
  | @accept plan outputs before request resolved last after follows reads accepted ih =>
      obtain ⟨layers, logged, named, planned⟩ := ih
      obtain ⟨additions, adds, grows⟩ := accepted.grows
      obtain ⟨name, added⟩ := Request.layers_of_adds adds
      obtain ⟨primitive, wires⟩ := Request.traverse_eq_some reads
      let layer : Layer := ⟨resolved.primitive, name, resolved.operands.map Handle.name, last.name⟩
      have names : request.operands.map (Wire.read Handle.name (layers.map Layer.output)) =
          (resolved.operands.map Handle.name).map some := by
        have read : Wire.read Handle.name (outputs.map Handle.name) =
            Option.map Handle.name ∘ Wire.read id outputs :=
          funext (Wire.read_map id outputs Handle.name)
        rw [named, read, ← List.map_map, wires, List.map_map, List.map_map]
        rfl
      refine ⟨layers ++ [layer], ?_, ?_, ?_⟩
      · rw [grows.layers, logged, added, List.append_assoc]
      · rw [List.map_append, named, List.map_append]
        rfl
      · refine List.rel_append (planned.imp fun _ _ realizes => ?_) (.cons ?_ .nil)
        · exact ⟨realizes.1, by
            rw [List.map_append, Wire.reads_append realizes.2.symm]⟩
        · refine ⟨primitive, ?_⟩
          rw [List.map_append, Wire.reads_append names]

/-- **The tensors of a followed plan** are the graph's own. -/
theorem owns (follows : Follows start plan outputs graph) : graph.OwnsTensorsOf plan := by
  induction follows with
  | start => exact fun _ member => absurd member List.not_mem_nil
  | @accept plan outputs before request resolved last after follows reads accepted ih =>
      intro other member handle wired
      obtain ⟨additions, _, grows⟩ := accepted.grows
      rcases List.mem_append.mp member with old | new
      · exact grows.keeps_owns (ih other old handle wired)
      · rw [List.mem_singleton.mp new] at wired
        have read : some handle ∈ resolved.operands.map some := by
          rw [← (Request.traverse_eq_some reads).2]
          exact List.mem_map_of_mem wired
        obtain ⟨tensor, operand, same⟩ := List.mem_map.mp read
        cases same
        exact grows.keeps_owns (accepted.owned _ operand)

/-- The operands that a request resolves to have the types that are read for it. -/
theorem traverse_types {request : Request Wire} {resolved : Request Handle}
    (reads : request.traverse (Wire.read id outputs) = some resolved) :
    request.traverse (Wire.read Handle.type (outputs.map Handle.type)) =
      some (resolved.map Handle.type) := by
  have read : Wire.read Handle.type (outputs.map Handle.type) =
      fun wire => (wire.read id outputs).map Handle.type :=
    funext (Wire.read_map id outputs Handle.type)
  rw [read]
  exact Request.traverse_change reads Handle.type

/-- **The types of the outputs** are those that the plan tells. -/
theorem types (follows : Follows start plan outputs graph) :
    Plan.pass Request.type? Handle.type [] plan = some (outputs.map Handle.type) := by
  induction follows with
  | start => rfl
  | @accept plan outputs before request resolved last after follows reads accepted ih =>
      rw [Plan.pass_append, ih, List.map_append]
      simp only [Option.bind_some, Plan.pass, traverse_types reads, accepted.typed,
        Option.bind_eq_bind]
      rfl

/-- **No request is refused** if its tensors are owned and the types of the whole plan are right. -/
theorem not_blocked {made rest : List (Request Wire)} {request : Request Wire}
    {types : List TensorType} (follows : Follows start made outputs graph)
    (owned : start.OwnsTensorsOf [request])
    (typed : Plan.pass Request.type? Handle.type [] (made ++ request :: rest) = some types) :
    ¬ request.Blocked outputs graph := by
  rintro ⟨resolved, reads, ⟨tensor, member, foreign⟩ | untyped⟩
  · have listed : some tensor ∈ request.operands.map (Wire.read id outputs) := by
      rw [(Request.traverse_eq_some reads).2]
      exact List.mem_map_of_mem member
    obtain ⟨wire, wired, read⟩ := List.mem_map.mp listed
    have there : graph.owns tensor = true := by
      cases wire with
      | tensor handle =>
          cases read
          obtain ⟨additions, grows⟩ := follows.grown
          exact grows.keeps_owns (owned request (List.mem_singleton_self _) _ wired)
      | layer index => exact (follows.enters (List.mem_of_getElem? read)).2
    rw [foreign] at there
    cases there
  · rw [Plan.pass_append, follows.types, Option.bind_some] at typed
    obtain ⟨operands, readTypes, typed⟩ := Option.bind_eq_some_iff.mp typed
    obtain ⟨type, hasType, _⟩ := Option.bind_eq_some_iff.mp typed
    rw [traverse_types reads, Option.some.injEq] at readTypes
    rw [← readTypes, untyped] at hasType
    cases hasType

end Follows

end OperatorLowering
