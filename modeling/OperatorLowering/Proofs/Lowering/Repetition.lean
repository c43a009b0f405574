/-
**Lowerings that are accepted again.**

A run of a lowering that was accepted is set beside the same lowering on another graph. The second
one owns what the first was given, as far as the first owned it in the end. Then every request that
the first run made is accepted in the second, and gives a tensor of the same type under a name of
its own.

* `Repetition.Aligned`: what the contexts of the two runs have in common on the way;
* `Repetition.Repeats`: a step is accepted again;
* `Repetition.stepRelation`: whole lowerings of twins are.
-/

import OperatorLowering.Proofs.Graph.Repetition
import OperatorLowering.Proofs.Lowering.Parametric
import OperatorLowering.Proofs.Lowering.Recipes

namespace OperatorLowering

/-- **A run that was accepted, and its repetition**: where the one ended and what was bound when it
began, the values that matter, the graph on which the other starts, and what both may mention. Of
that the second graph owns what the first one does. -/
structure Repetition where
  ended : Graph
  bound : NameTable Handle
  matters : String → Prop
  start : Graph
  scope : Scope
  named : ∀ name tensor, ended.tensors.get? name = some tensor → tensor.name = name
  keepsTensor : ∀ tensor, scope.tensor tensor → ended.owns tensor = true → start.owns tensor = true
  keepsName : ∀ tensor, scope.name tensor.name → ended.owns tensor = true → start.owns tensor = true

namespace Repetition

variable {again : Repetition} {twins more : Twins} {tensor tensor' : Handle}

/-- **A tensor stands for another one** of its type: it is the same and may be mentioned, or each
graph owns its own. -/
structure Stands (again : Repetition) (first second : Graph) (tensor tensor' : Handle) : Prop where
  type : tensor.type = tensor'.type
  named : tensor.name ≠ "" → tensor'.name ≠ ""
  source : (tensor' = tensor ∧ again.scope.tensor tensor) ∨
    (first.owns tensor = true ∧ second.owns tensor' = true)

theorem Stands.mono {first second later later' : Graph}
    (stands : again.Stands first second tensor tensor') (grown : first.Grown later)
    (grown' : second.Grown later') :
    again.Stands later later' tensor tensor' :=
  ⟨stands.type, stands.named,
    stands.source.imp id fun owned => ⟨grown.keeps_owns owned.1, grown'.keeps_owns owned.2⟩⟩

/-- What the first run owns is owned in the repetition by what stands for it. -/
theorem Stands.owned {first second : Graph} (stands : again.Stands first second tensor tensor')
    (ends : first.Grown again.ended) (starts : again.start.Grown second)
    (owned : first.owns tensor = true) : second.owns tensor' = true := by
  rcases stands.source with ⟨rfl, mentioned⟩ | ⟨_, made⟩
  · exact starts.keeps_owns (again.keepsTensor tensor' mentioned (ends.keeps_owns owned))
  · exact made

/-- **The contexts of the two runs on the way.** The repetition declares no input. Of the values
that matter it has bound those that the first run has, to tensors that stand for those that the
first run has bound itself. -/
structure Aligned (again : Repetition) (twins : Twins) (first second : Context) : Prop where
  grown : again.start.Grown second.graph
  inputs : second.graph.inputs = again.start.inputs
  stands : ∀ pair ∈ twins, again.Stands first.graph second.graph pair.1 pair.2
  bindings : ∀ value tensor, again.matters value → first.bindings.get? value = some tensor →
    ∃ tensor', second.bindings.get? value = some tensor' ∧
      (again.bound.get? value = some tensor ∨
        again.Stands first.graph second.graph tensor tensor')

/-- Only graphs and bindings matter. -/
theorem Aligned.of_same {first second first' second' : Context}
    (aligned : again.Aligned twins first second) (graph : first'.graph = first.graph)
    (bindings : first'.bindings = first.bindings) (graph' : second'.graph = second.graph)
    (bindings' : second'.bindings = second.bindings) : again.Aligned twins first' second' where
  grown := graph' ▸ aligned.grown
  inputs := graph' ▸ aligned.inputs
  stands := by
    rw [graph, graph']
    exact aligned.stands
  bindings := by
    rw [graph, graph', bindings, bindings']
    exact aligned.bindings

/-- Both runs have made one more tensor. -/
theorem Aligned.make {first second : Context} (aligned : again.Aligned twins first second)
    {graph made : Graph} (grown : first.graph.Grown graph) (owned : graph.owns tensor = true)
    (makes : second.graph.Makes tensor tensor' made) :
    again.Aligned ((tensor, tensor') :: twins) { first with graph }
      { second with graph := made } where
  grown := aligned.grown.trans makes.grown
  inputs := makes.inputs.trans aligned.inputs
  stands pair member := by
    rcases List.mem_cons.mp member with rfl | old
    · exact ⟨makes.type, fun _ => makes.named, Or.inr ⟨owned, makes.owned⟩⟩
    · exact (aligned.stands pair old).mono grown makes.grown
  bindings value bound matters found := by
    obtain ⟨other, found', source⟩ := aligned.bindings value bound matters found
    exact ⟨other, found', source.imp id fun stands => stands.mono grown makes.grown⟩

/-- More twins that stand for each other. -/
theorem Aligned.introduce {first second : Context} (aligned : again.Aligned twins first second)
    {pairs : Twins} (stands : ∀ pair ∈ pairs, again.Stands first.graph second.graph pair.1 pair.2) :
    again.Aligned (pairs ++ twins) first second :=
  { aligned with
    stands := fun pair member =>
      (List.mem_append.mp member).elim (stands pair) (aligned.stands pair) }

/-- **A step is accepted again**: it changes graphs through calls alone, and where it gave a value
its repetition gives one. -/
structure Repeats {Value : Type} (again : Repetition) (twins : Twins) (step step' : Lower Value)
    (values : Twins → Value → Value → Prop) : Prop where
  performs : Lower.Performs (fun _ => True) step
  accepts : ∀ first second value after, again.Aligned twins first second →
    step first = .ok value after → after.graph.Grown again.ended →
      ∃ more value' after', step' second = .ok value' after' ∧ twins ⊆ more ∧
        again.Aligned more after after' ∧ values more value value'

namespace Repeats

variable {Value Next : Type} {values : Twins → Value → Value → Prop} {step step' : Lower Value}

theorem pure {value value' : Value} (holds : values twins value value') :
    again.Repeats twins (Pure.pure value) (Pure.pure value') values where
  performs := Lower.calling_pure value
  accepts := by
    rintro first second _ _ aligned ⟨⟩ _
    exact ⟨twins, value', second, rfl, List.Subset.refl twins, aligned, holds⟩

/-- What fails need not be repeated. -/
theorem throw (failure : Failure) :
    again.Repeats twins (MonadExcept.throw failure) step' values where
  performs := Lower.calling_throw failure
  accepts := nofun

/-- **Two steps**, one after the other. -/
theorem bind {next next' : Value → Lower Next} {final : Twins → Next → Next → Prop}
    (repeats : again.Repeats twins step step' values) (total : Twins.Total values)
    (rest : ∀ more value value', twins ⊆ more → values more value value' →
      again.Repeats more (next value) (next' value') final) :
    again.Repeats twins (step >>= next) (step' >>= next') final := by
  -- Every value has a partner, so what comes behind it is known to let graphs grow.
  have performs (value : Value) : Lower.Performs (fun _ => True) (next value) := by
    obtain ⟨more, value', subset, holds⟩ := total twins value
    exact (rest more value value' subset holds).performs
  refine ⟨Lower.calling_bind repeats.performs performs, ?_⟩
  intro first second result after aligned run ends
  obtain ⟨value, middle, one, run⟩ := bind_run_eq_ok.mp run
  have grown : middle.graph.Grown after.graph := ((performs value middle).ok run).grown
  obtain ⟨more, value', middle', one', subset, aligned, holds⟩ :=
    repeats.accepts first second value middle aligned one (grown.trans ends)
  obtain ⟨further, result', after', run', later, aligned, ending⟩ :=
    (rest more value value' subset holds).accepts middle middle' result after aligned run ends
  exact ⟨further, result', after', (bind_run_ok one').trans run',
    List.Subset.trans subset later, aligned, ending⟩

theorem checked (repeats : again.Repeats twins step step' values) (node : OperatorNode)
    (primitive : String) :
    again.Repeats twins (Lower.checked node primitive step) (Lower.checked node primitive step')
      values where
  performs := Lower.calling_checked repeats.performs node primitive
  accepts first second value after aligned run ends := by
    obtain ⟨more, value', after', one, rest⟩ := repeats.accepts first second value after aligned
      (Lower.checked_run_eq_ok.mp run) ends
    exact ⟨more, value', after', Lower.checked_run_ok node primitive one, rest⟩

/-- A change of the context that leaves graph and bindings alone. -/
theorem modify {change change' : Context → Context}
    (keeps : ∀ context, (change context).graph = context.graph ∧
      (change context).bindings = context.bindings)
    (keeps' : ∀ context, (change' context).graph = context.graph ∧
      (change' context).bindings = context.bindings) :
    again.Repeats twins (modify change : Lower Unit) (modify change' : Lower Unit)
      fun _ _ _ => True where
  performs := Lower.calling_modify fun context => (keeps context).1
  accepts := by
    rintro first second _ _ aligned ⟨⟩ _
    obtain ⟨graph, bindings⟩ := keeps first
    obtain ⟨graph', bindings'⟩ := keeps' second
    exact ⟨twins, (), change' second, rfl, List.Subset.refl twins,
      aligned.of_same graph bindings graph' bindings', trivial⟩

theorem associate (value : String) (like : twins.Like tensor tensor') :
    again.Repeats twins (Lower.associate value tensor) (Lower.associate value tensor')
      Twins.Like where
  performs := (Lower.calling_associate value tensor).mono fun _ _ => trivial
  accepts := by
    rintro first second _ _ aligned ⟨⟩ _
    refine ⟨twins, tensor', _, rfl, List.Subset.refl twins, ⟨aligned.grown, aligned.inputs,
      aligned.stands, ?_⟩, like⟩
    intro other bound matters found
    rw [NameTable.get?_insert] at found ⊢
    by_cases same : other = value
    · rw [if_pos same] at found ⊢
      cases found
      exact ⟨tensor', rfl, Or.inr (aligned.stands _ like.member)⟩
    · rw [if_neg same] at found ⊢
      exact aligned.bindings other bound matters found

/-- **A call is accepted again** if it makes a tensor of the same type in the repetition. -/
theorem build (call : Call) {step' : Build Handle}
    (accepts : ∀ first second output after, again.Aligned twins first second →
      first.graph.Grown again.ended → call.build first.graph = .ok output after →
        ∃ output' later, step' second.graph = .ok output' later ∧
          second.graph.Makes output output' later) :
    again.Repeats twins (Lower.build call.build) (Lower.build step') Twins.Like where
  performs := Lower.calling_call call trivial
  accepts first second output after aligned run ends := by
    obtain ⟨graph, one, rfl⟩ := Lower.build_run_eq_ok.mp run
    have accepted := (call.build_ends first.graph).ok one
    obtain ⟨additions, _, grows⟩ := accepted.grows
    have grown : first.graph.Grown graph := ⟨additions, grows⟩
    obtain ⟨output', later, run', makes⟩ :=
      accepts first second output graph aligned (grown.trans ends) one
    exact ⟨_, output', _, Lower.build_run_ok run', List.subset_cons_self _ twins,
      aligned.make grown accepted.owns makes, List.mem_cons_self, makes.type⟩

end Repeats

/-! ### Requests -/

/-- **A request is accepted again**, of twins. -/
theorem request (pairs : Request (Handle × Handle))
    (like : ∀ pair ∈ pairs.operands, twins.Like pair.1 pair.2) :
    again.Repeats twins (Lower.build (pairs.map Prod.fst).build)
      (Lower.build (pairs.map Prod.snd).build) Twins.Like := by
  rw [← Call.build_request (pairs.map Prod.fst)]
  refine .build _ fun first second output after aligned ends run => ?_
  rw [Call.build_request] at run
  have accepted := ((pairs.map Prod.fst).build_ends first.graph).ok run
  refine Request.accepted_again accepted ?_ ?_
  · rw [Request.map_map, Request.map_map]
    exact Request.map_congr fun pair member => (like pair member).type
  · intro tensor' member
    rw [Request.operands_map] at member
    obtain ⟨pair, listed, rfl⟩ := List.mem_map.mp member
    refine (aligned.stands _ (like pair listed).member).owned ends aligned.grown ?_
    refine accepted.owned pair.1 ?_
    rw [Request.operands_map]
    exact List.mem_map_of_mem listed

/-- A slice of any numbers is accepted again. -/
theorem slice (like : twins.Like tensor tensor') (offsets : List (Option Int))
    (sizes : List SizeRequest) (strides : List (Option Int)) :
    again.Repeats twins (Lower.build (Build.slice tensor offsets sizes strides))
      (Lower.build (Build.slice tensor' offsets sizes strides)) Twins.Like := by
  refine .build (.slice tensor offsets sizes strides)
    fun first second output after aligned ends run => ?_
  have accepted := (Build.slice_accepts_or_refuses tensor offsets sizes strides first.graph).ok run
  exact Build.slice_accepted_again accepted like.type
    ((aligned.stands _ like.member).owned ends aligned.grown accepted.owned)

theorem freeze (value : Literal) (name : Option String) :
    again.Repeats twins (Lower.build (Build.freeze value name))
      (Lower.build (Build.freeze value name)) Twins.Like :=
  .build (.freeze value name) fun _ second _ _ _ _ run =>
    Build.freeze_accepted_again run second.graph

/-- **Steps that are accepted again.** -/
def stepRelation (again : Repetition) : StepRelation where
  Relates := again.Repeats
  Factors _ _ := True
  pure := .pure
  throw failure := .throw failure
  bind := .bind
  checked node primitive repeats := repeats.checked node primitive
  event _ _ := .modify (fun _ => ⟨rfl, rfl⟩) (fun _ => ⟨rfl, rfl⟩)
  associate value _ _ like := .associate value like
  matmul {_ a a' b b'} transposeA transposeB likeA likeB _ _ :=
    again.request (.matmul (a, a') (b, b') transposeA transposeB)
      (by simp [Request.operands, likeA, likeB])
  elementwise {_ a a' b b'} op likeA likeB :=
    again.request (.elementwise (a, a') (b, b') op) (by simp [Request.operands, likeA, likeB])
  slice offsets sizes strides like := again.slice like offsets sizes strides
  activation {_ a a'} kind like :=
    again.request (.activation (a, a') kind) (by simp [Request.operands, like])
  reshape {_ a a'} shape like :=
    again.request (.reshape (a, a') shape) (by simp [Request.operands, like])

/-! ### Tensors that are given -/

/-- Tensors that may be mentioned are twins of themselves. -/
theorem Repeats.introduce {Value : Type} {values : Twins → Value → Value → Prop}
    {step step' : Lower Value} (given : List Handle)
    (mentioned : ∀ tensor ∈ given, again.scope.tensor tensor)
    (repeats : again.Repeats (Twins.diagonal given ++ twins) step step' values) :
    again.Repeats twins step step' values where
  performs := repeats.performs
  accepts first second value after aligned run ends := by
    have stands : ∀ pair ∈ Twins.diagonal given,
        again.Stands first.graph second.graph pair.1 pair.2 := by
      intro pair member
      obtain ⟨tensor, listed, rfl⟩ := List.mem_map.mp member
      exact ⟨rfl, id, Or.inl ⟨rfl, mentioned tensor listed⟩⟩
    obtain ⟨more, value', after', run', subset, rest⟩ := repeats.accepts first second value after
      (aligned.introduce stands) run ends
    exact ⟨more, value', after', run',
      List.Subset.trans (List.subset_append_right _ _) subset, rest⟩

/-- A tensor is handed on. -/
theorem hand (mentioned : again.scope.tensor tensor) :
    again.Repeats twins (pure tensor) (pure tensor) Twins.Like :=
  .introduce [tensor] (by simpa using mentioned) (.pure (Twins.like_diagonal List.mem_cons_self))

/-- A tensor is looked up. -/
theorem lookup {name : String} (mentioned : again.scope.name name) :
    again.Repeats twins (Lower.build (Build.inspect fun graph => graph.tensor name))
      (Lower.build (Build.inspect fun graph => graph.tensor name)) Twins.Like where
  performs := Lower.calling_inspect _
  accepts first second value after aligned run ends := by
    obtain ⟨look, rfl⟩ := Lower.inspect_ok run
    unfold Graph.tensor at look
    cases found : after.graph.tensors.get? name with
    | none =>
        rw [found] at look
        cases look
    | some there =>
        rw [found] at look
        cases look
        obtain ⟨_, grows⟩ := ends
        have named : value.name = name := again.named name value (grows.keeps found)
        have owned : after.graph.owns value = true := (Graph.owns_iff _ _).mpr (named ▸ found)
        have owned' : second.graph.owns value = true := aligned.grown.keeps_owns
          (again.keepsName value (named ▸ mentioned) (grows.keeps_owns owned))
        have look' : second.graph.tensor name = .ok value := by
          rw [Graph.tensor, ← named, (Graph.owns_iff second.graph value).mp owned']
        exact ⟨[(value, value)] ++ twins, value, second,
          Lower.build_run_ok (Build.inspect_ok look'), List.subset_append_right _ _,
          aligned.introduce (by simpa using ⟨rfl, id, Or.inr ⟨owned, owned'⟩⟩),
          List.mem_cons_self, rfl⟩

end Repetition

end OperatorLowering
