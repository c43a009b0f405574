/-
**What requests compute.**

A request of typed values has a value itself: the one that its operator gives. The types tell which
integers steer a slice or a reshape. The nodes of an accepted request compute this value, whatever
else the graph holds.

* `Request.compute?`: the type and the value of a request;
* `Request.evaluate_adds`: the nodes of an accepted request give its output that value;
* `Request.Accepted.evaluatesSince`: the same from values of the older tensors alone.
-/

import OperatorLowering.Proofs.Graph.Plan
import OperatorLowering.Proofs.Meaning.Evaluation

namespace OperatorLowering

/-- The values of a tensor, with what a graph declares about it. -/
structure TypedTensor (Element : Type) where
  type : TensorType
  tensor : Tensor Element

variable {Element : Type}

/-- The values of a tensor of a graph. -/
def Environment.read (environment : Environment Element) (handle : Handle) :
    Option (TypedTensor Element) :=
  match environment handle.name with
  | some (.data tensor) => some ⟨handle.type, tensor⟩
  | _ => none

theorem Environment.read_eq_some {environment : Environment Element} {handle : Handle}
    {value : TypedTensor Element} :
    environment.read handle = some value ↔
      environment handle.name = some (.data value.tensor) ∧ handle.type = value.type := by
  unfold read
  cases environment handle.name with
  | none => simp
  | some found =>
      cases found with
      | indices values => simp
      | data tensor =>
          simp only [Option.some.injEq, Value.data.injEq]
          constructor
          · rintro rfl
            exact ⟨rfl, rfl⟩
          · rintro ⟨rfl, same⟩
            rw [same]

theorem Environment.read_congr {environment after : Environment Element} {handle : Handle}
    (same : after handle.name = environment handle.name) :
    after.read handle = environment.read handle := by
  unfold read
  rw [same]

/-- The index constants that a graph grew by leave the values of its older tensors alone. -/
theorem Graph.Grows.read_embed {before grown : Graph} {additions : List Addition}
    (grows : before.Grows additions grown) {environment : Environment Element} {handle : Handle}
    (there : before.tensors.contains handle.name = true) :
    (environment.embed (grown.constants.drop before.constants.length)).read handle =
      environment.read handle := by
  refine Environment.read_congr (Environment.embed_of_free fun constant listed same => ?_)
  rw [grows.drop_constants] at listed
  rw [← same, grows.enters_constants listed] at there
  cases there

/-- What a combination makes of two elements. -/
def Elementwise.combine (arithmetic : Arithmetic Element) :
    Elementwise → Element → Element → Element
  | .sum => arithmetic.add
  | .product => arithmetic.mul

/-- What an activation makes of an element. -/
def Activation.activate (arithmetic : Arithmetic Element) : Activation → Element → Element
  | .sigmoid => arithmetic.sigmoid
  | .tanh => arithmetic.tanh

namespace Request

/-! ### Values -/

/-- A factor of a product, its last two axes exchanged if its flag is set. -/
def factor? (swap : Bool) (value : TypedTensor Element) : Option (Tensor Element) :=
  if swap then value.tensor.transpose? (swapLastTwoAxes value.type.shape.length)
  else some value.tensor

/-- The value of a request of typed values. -/
def denote? (arithmetic : Arithmetic Element) :
    Request (TypedTensor Element) → Option (Tensor Element)
  | .matmul a b transposeA transposeB => do
    (← factor? transposeA a).matmul? arithmetic (← factor? transposeB b)
  | .elementwise a b op => a.tensor.combine? (op.combine arithmetic) b.tensor
  | .slice a offsets sizes strides =>
    a.tensor.slice? offsets (Span.stopsFor offsets sizes strides)
      ((List.range sizes.length).map Int.ofNat) strides
  | .activation a kind => some (a.tensor.map (kind.activate arithmetic))
  | .reshape a shape => do a.tensor.reshape? (← a.type.shape.targetIndices? shape)

/-- **The type and the value** of a request of typed values. -/
def compute? (arithmetic : Arithmetic Element) (request : Request (TypedTensor Element)) :
    Option (TypedTensor Element) := do
  return ⟨← (request.map TypedTensor.type).type?, ← request.denote? arithmetic⟩

theorem compute?_eq_some {arithmetic : Arithmetic Element}
    {request : Request (TypedTensor Element)} {value : TypedTensor Element} :
    request.compute? arithmetic = some value ↔
      (request.map TypedTensor.type).type? = some value.type ∧
        request.denote? arithmetic = some value.tensor := by
  unfold compute?
  cases (request.map TypedTensor.type).type? with
  | none => simp
  | some type =>
      cases request.denote? arithmetic with
      | none => simp
      | some tensor =>
          simp only [Option.bind_eq_bind, Option.bind_some, Option.pure_def, Option.some.injEq]
          constructor
          · rintro rfl
            exact ⟨rfl, rfl⟩
          · rintro ⟨rfl, rfl⟩
            rfl

/-! ### Nodes -/

variable {arithmetic : Arithmetic Element} {environment : Environment Element}

/-- The node that ends a request. -/
theorem evaluate_ending {layer : String} {primitive : Primitive} {operands : List Handle}
    {reads : List String} {values : List (Value Element)} {tensor : Tensor Element}
    (output : Handle) (found : reads.mapM environment = some values)
    (applies : primitive.op.apply? arithmetic values = some tensor) :
    evaluate? arithmetic
        ((ending layer primitive operands reads output).filterMap Addition.node?) environment =
      some (Function.update environment output.name (some (.data tensor))) := by
  show evaluate? arithmetic [⟨primitive.op, layer, reads, output.name⟩] environment = _
  rw [evaluate?_singleton]
  exact Node.evaluate?_eq found applies

/-- The node of a factor, if it has one, gives the factor a value under a name of its own. -/
theorem evaluate_factor {swap : Bool} {handle : Handle} {matrix : MatrixShape}
    {value : TypedTensor Element} {factor : Tensor Element} {name : String} (layer operand : String)
    (reads : environment.read handle = some value) (computes : factor? swap value = some factor)
    (unswapped : swap = false → name = handle.name) :
    ∃ after, evaluate? arithmetic ((Build.factorAdditions swap handle matrix layer operand
        name).filterMap Addition.node?) environment = some after ∧
      after name = some (.data factor) ∧
        ∀ other, (swap = true → other ≠ name) → after other = environment other := by
  obtain ⟨found, typed⟩ := Environment.read_eq_some.mp reads
  cases swap with
  | false =>
      cases computes
      rw [unswapped rfl]
      exact ⟨environment, rfl, found, fun _ _ => rfl⟩
  | true =>
      refine ⟨Function.update environment name (some (.data factor)), ?_, Function.update_self _ _ _,
        fun other different => Function.update_of_ne (different rfl) _ _⟩
      have operands : [handle.name].mapM environment = some [.data value.tensor] :=
        mapM_eq_some.mpr (.cons found .nil)
      rw [factor?, if_pos rfl, ← typed] at computes
      show evaluate? arithmetic [_] environment = _
      rw [evaluate?_singleton]
      exact Node.evaluate?_eq operands computes

/-- The names of two factors: one that has a node is new, and two that have are apart. -/
structure FactorNames (transposeA transposeB : Bool) (firstName secondName : String)
    (before : Graph) : Prop where
  freshA : transposeA = true → ∀ {name}, before.tensors.contains name = true → name ≠ firstName
  freshB : transposeB = true → ∀ {name}, before.tensors.contains name = true → name ≠ secondName
  apart : transposeA = true → transposeB = true → firstName ≠ secondName

theorem factorNames_differ {before grown : Graph} {rest : List Addition} {a b : Handle}
    {first second : MatrixShape} {transposeA transposeB : Bool}
    {layer firstName secondName : String}
    (grows : before.Grows (Build.factorAdditions transposeA a first layer "a" firstName ++
      Build.factorAdditions transposeB b second layer "b" secondName ++ rest) grown) :
    FactorNames transposeA transposeB firstName secondName before := by
  have fresh {addition : Addition} {handle : Handle} {name : String}
      (member : addition ∈ Build.factorAdditions transposeA a first layer "a" firstName ++
        Build.factorAdditions transposeB b second layer "b" secondName ++ rest)
      (entered : addition.tensor? = some handle) (there : before.tensors.contains name = true) :
      name ≠ handle.name := by
    rintro rfl
    rw [(grows.enters member entered).1] at there
    cases there
  refine ⟨?_, ?_, ?_⟩
  · rintro rfl name there
    exact fresh List.mem_cons_self rfl there
  · rintro rfl name there
    exact fresh (List.mem_append_left _ (List.mem_append_right _ List.mem_cons_self)) rfl there
  · rintro rfl rfl
    exact fun same => (List.nodup_cons.mp grows.distinct).1 (same ▸ List.mem_cons_self)

/-- The nodes of two factors give both of them their values, whichever of the two has a node. -/
theorem evaluate_factors {transposeA transposeB : Bool} {a b : Handle} {first second : MatrixShape}
    {valueA valueB : TypedTensor Element} {factorA factorB : Tensor Element}
    {layer firstName secondName : String} {before : Graph}
    (names : FactorNames transposeA transposeB firstName secondName before)
    (knownA : before.tensors.contains a.name = true)
    (knownB : before.tensors.contains b.name = true)
    (readA : environment.read a = some valueA) (readB : environment.read b = some valueB)
    (factoredA : factor? transposeA valueA = some factorA)
    (factoredB : factor? transposeB valueB = some factorB)
    (firstRead : transposeA = false → firstName = a.name)
    (secondRead : transposeB = false → secondName = b.name) :
    ∃ after, evaluate? arithmetic ((Build.factorAdditions transposeA a first layer "a" firstName ++
        Build.factorAdditions transposeB b second layer "b" secondName).filterMap Addition.node?)
          environment = some after ∧
      [firstName, secondName].mapM after = some [.data factorA, .data factorB] := by
  obtain ⟨one, evaluatedA, firstIs, keptA⟩ :=
    @evaluate_factor _ arithmetic _ _ _ first _ _ _ layer "a" readA factoredA firstRead
  have readB' : one.read b = some valueB := by
    rw [← readB]
    exact Environment.read_congr (keptA b.name fun swap => names.freshA swap knownB)
  obtain ⟨two, evaluatedB, secondIs, keptB⟩ :=
    @evaluate_factor _ arithmetic _ _ _ second _ _ _ layer "b" readB' factoredB secondRead
  have apart (swap : transposeB = true) : firstName ≠ secondName := by
    cases unswapped : transposeA with
    | false =>
        rw [firstRead unswapped]
        exact names.freshB swap knownA
    | true => exact names.apart unswapped swap
  have firstStill : two firstName = some (.data factorA) := by
    rw [keptB firstName apart, firstIs]
  refine ⟨two, ?_, mapM_eq_some.mpr (.cons firstStill (.cons secondIs .nil))⟩
  rw [List.filterMap_append, evaluate?_append, evaluatedA, Option.bind_some, evaluatedB]

/-- **The nodes of an accepted request** give its output the value of the request. -/
theorem evaluate_adds {request : Request Handle} {output : Handle} {additions : List Addition}
    {before grown : Graph} {values : Request (TypedTensor Element)} {tensor : Tensor Element}
    (adds : request.Adds output additions) (grows : before.Grows additions grown)
    (known : ∀ handle ∈ request.operands, before.tensors.contains handle.name = true)
    (holds : environment.Holds (additions.filterMap Addition.constant?))
    (reads : request.traverse environment.read = some values)
    (computes : values.denote? arithmetic = some tensor) :
    ∃ after, evaluate? arithmetic (additions.filterMap Addition.node?) environment = some after ∧
      after output.name = some (.data tensor) := by
  cases adds with
  | matmul a b _ transposeA transposeB first second layer firstName secondName firstShape
      secondShape firstRead secondRead =>
      obtain ⟨valueA, readA, reads⟩ := Option.bind_eq_some_iff.mp reads
      obtain ⟨valueB, readB, reads⟩ := Option.bind_eq_some_iff.mp reads
      cases reads
      obtain ⟨factorA, factoredA, computes⟩ := Option.bind_eq_some_iff.mp computes
      obtain ⟨factorB, factoredB, computes⟩ := Option.bind_eq_some_iff.mp computes
      obtain ⟨after, evaluated, operands⟩ := @evaluate_factors _ arithmetic _ _ _ _ _
        (first.transposeIf transposeA) (second.transposeIf transposeB) _ _ _ _ layer _ _ _
        (factorNames_differ grows) (known a List.mem_cons_self)
        (known b (List.mem_cons_of_mem _ List.mem_cons_self)) readA readB factoredA factoredB
        firstRead secondRead
      refine ⟨Function.update after output.name (some (.data tensor)), ?_,
        Function.update_self _ _ _⟩
      rw [List.filterMap_append, evaluate?_append, evaluated, Option.bind_some]
      exact evaluate_ending output operands computes
  | elementwise a b _ op layer =>
      obtain ⟨valueA, readA, reads⟩ := Option.bind_eq_some_iff.mp reads
      obtain ⟨valueB, readB, reads⟩ := Option.bind_eq_some_iff.mp reads
      cases reads
      have operands : [a.name, b.name].mapM environment =
          some [.data valueA.tensor, .data valueB.tensor] :=
        mapM_eq_some.mpr (.cons (Environment.read_eq_some.mp readA).1
          (.cons (Environment.read_eq_some.mp readB).1 .nil))
      refine ⟨_, evaluate_ending output operands ?_, Function.update_self _ _ _⟩
      cases op <;> exact computes
  | slice a _ offsets sizes strides spans indices layer starts ends axes steps accepted fit =>
      obtain ⟨value, read, reads⟩ := Option.bind_eq_some_iff.mp reads
      cases reads
      replace holds : environment.Holds [⟨starts, .indices indices.starts⟩,
        ⟨ends, .indices indices.ends⟩, ⟨axes, .indices indices.axes⟩,
        ⟨steps, .indices indices.steps⟩] := holds
      have startsIs := holds ⟨starts, .indices indices.starts⟩ (by simp) _ rfl
      have endsIs := holds ⟨ends, .indices indices.ends⟩ (by simp) _ rfl
      have axesIs := holds ⟨axes, .indices indices.axes⟩ (by simp) _ rfl
      have stepsIs := holds ⟨steps, .indices indices.steps⟩ (by simp) _ rfl
      have operands : [a.name, starts, ends, axes, steps].mapM environment =
          some [.data value.tensor, .indices indices.starts, .indices indices.ends,
            .indices indices.axes, .indices indices.steps] :=
        mapM_eq_some.mpr (.cons (Environment.read_eq_some.mp read).1
          (.cons startsIs (.cons endsIs (.cons axesIs (.cons stepsIs .nil)))))
      refine ⟨_, evaluate_ending output operands ?_, Function.update_self _ _ _⟩
      rw [Shape.indices_of_spans? accepted fit]
      exact computes
  | activation a _ kind layer =>
      obtain ⟨value, read, reads⟩ := Option.bind_eq_some_iff.mp reads
      cases reads
      have operands : [a.name].mapM environment = some [.data value.tensor] :=
        mapM_eq_some.mpr (.cons (Environment.read_eq_some.mp read).1 .nil)
      refine ⟨_, evaluate_ending output operands ?_, Function.update_self _ _ _⟩
      cases kind <;> exact computes
  | reshape a _ shape target layer name accepted =>
      obtain ⟨value, read, reads⟩ := Option.bind_eq_some_iff.mp reads
      cases reads
      obtain ⟨found, typed⟩ := Environment.read_eq_some.mp read
      have given : environment name = some (.indices target) :=
        holds ⟨name, .indices target⟩ List.mem_cons_self target rfl
      have operands : [a.name, name].mapM environment =
          some [.data value.tensor, .indices target] :=
        mapM_eq_some.mpr (.cons found (.cons given .nil))
      refine ⟨_, evaluate_ending output operands ?_, Function.update_self _ _ _⟩
      have target? : value.type.shape.targetIndices? shape = some target := by
        rw [← typed]
        exact accepted
      rw [denote?, target?] at computes
      exact computes

/-- **What a graph grew by** for an accepted request computes its value from those of
the operands. -/
theorem Accepted.evaluatesSince {request : Request Handle} {output : Handle} {before after : Graph}
    (accepted : request.Accepted before output after) {values : Request (TypedTensor Element)}
    {tensor : Tensor Element} (reads : request.traverse environment.read = some values)
    (computes : values.denote? arithmetic = some tensor) :
    ∃ final, before.evaluateSince? after arithmetic environment = some final ∧
      final.read output = some ⟨output.type, tensor⟩ := by
  obtain ⟨additions, adds, grows⟩ := accepted.grows
  have known : ∀ handle ∈ request.operands, before.tensors.contains handle.name = true :=
    fun handle member => Graph.contains_of_owns (accepted.owned handle member)
  have still : request.traverse
      (environment.embed (after.constants.drop before.constants.length)).read = some values := by
    rw [← reads]
    exact traverse_congr fun handle member => grows.read_embed (known handle member)
  rw [grows.drop_constants] at still
  unfold Graph.evaluateSince?
  rw [grows.drop_nodes, grows.drop_constants]
  obtain ⟨final, evaluated, valued⟩ := evaluate_adds adds grows known
    (Environment.embed_holds grows.distinct_constants) still computes
  exact ⟨final, evaluated, Environment.read_eq_some.mpr ⟨valued, rfl⟩⟩

end Request

end OperatorLowering
