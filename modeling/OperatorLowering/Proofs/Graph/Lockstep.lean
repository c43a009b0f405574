/-
**Two runs in step.**

The same steps run on two graphs that own the same tensors and may differ in everything else. The
names that the steps generate differ with the counters and with the names that are taken, but
nothing else does: each tensor that one run makes has a twin of the same type in the other run, and
what is added is alike up to the names of twins (`Addition.Alike`). A step that fails on one graph
fails on the other in the same way.

* `Runs.Lockstep`: two graphs that have been in step so far;
* `Runs.InStep`: steps that keep in step, with values that belong together;
* `Runs.append_inStep`: the same layers on twins; a lemma for each of the five requests follows.
-/

import Mathlib.Data.List.Forall2
import OperatorLowering.Proofs.Graph.Request

namespace OperatorLowering

/-- Tensors of one run, each with its twin in the other. -/
abbrev Twins := List (Handle × Handle)

/-- Two tensors are twins. -/
abbrev Twins.Tensor (twins : Twins) (tensor tensor' : Handle) : Prop :=
  (tensor, tensor') ∈ twins

/-- Two names are those of twins. -/
def Twins.Name (twins : Twins) (name name' : String) : Prop :=
  ∃ pair ∈ twins, pair.1.name = name ∧ pair.2.name = name'

theorem Twins.name_of_mem {twins : Twins} {tensor tensor' : Handle}
    (member : (tensor, tensor') ∈ twins) : twins.Name tensor.name tensor'.name :=
  ⟨_, member, rfl, rfl⟩

theorem Twins.Name.mono {twins more : Twins} (subset : twins ⊆ more) {name name' : String}
    (named : twins.Name name name') : more.Name name name' := by
  obtain ⟨pair, member, names⟩ := named
  exact ⟨pair, subset member, names⟩

/-- **Additions that are alike** but for the names of nodes and layers and of the tensors, which are
twins. -/
inductive Addition.Alike (twins : Twins) : Addition → Addition → Prop
  | constant {name name' : String} (value : ConstantValue) (named : twins.Name name name') :
      Alike twins (.constant ⟨name, value⟩) (.constant ⟨name', value⟩)
  | node {name name' output output' : String} {reads reads' : List String} (op : NodeOp)
      (shape : Shape) (dtype : ElementType) (read : List.Forall₂ twins.Name reads reads')
      (made : twins.Name output output') :
      Alike twins (.node ⟨op, name, reads, output⟩ shape dtype)
        (.node ⟨op, name', reads', output'⟩ shape dtype)
  | layer {name name' output output' : String} {inputs inputs' : List String}
      (primitive : Primitive) (read : List.Forall₂ twins.Name inputs inputs')
      (made : twins.Name output output') :
      Alike twins (.layer ⟨primitive, name, inputs, output⟩)
        (.layer ⟨primitive, name', inputs', output'⟩)

/-- The tensors of some additions, in order. -/
def Addition.tensors (additions : List Addition) : List Handle :=
  additions.filterMap Addition.tensor?

namespace Addition

variable {twins more : Twins} {additions additions' : List Addition}

theorem Alike.mono {addition addition' : Addition} (alike : addition.Alike twins addition')
    (subset : twins ⊆ more) : addition.Alike more addition' := by
  cases alike with
  | constant value named => exact .constant value (named.mono subset)
  | node op shape dtype read made =>
      exact .node op shape dtype (read.imp fun _ _ named => named.mono subset) (made.mono subset)
  | layer primitive read made =>
      exact .layer primitive (read.imp fun _ _ named => named.mono subset) (made.mono subset)

/-- **Additions that are alike** enter tensors of the same types. -/
theorem types_of_alike (alike : List.Forall₂ (Addition.Alike twins) additions additions') :
    List.Forall₂ (fun tensor tensor' => tensor.type = tensor'.type) (tensors additions)
      (tensors additions') := by
  induction alike with
  | nil => exact .nil
  | cons first _ ih =>
      cases first with
      | constant value => exact .cons rfl ih
      | node op shape dtype => exact .cons rfl ih
      | layer primitive => exact ih

end Addition

/-! ### Two runs -/

/-- Two runs: the graphs they start on, and tensors that both are given. -/
structure Runs where
  first : Graph
  second : Graph
  shared : List Handle

namespace Runs

variable {runs : Runs} {twins : Twins} {graph graph' after after' : Graph}

/-- The tensors that are given are their own twins. -/
def start (runs : Runs) : Twins :=
  runs.shared.map fun tensor => (tensor, tensor)

/-- **Two graphs in step**: they have grown by additions that are alike, and each owns its twins. -/
structure Lockstep (runs : Runs) (twins : Twins) (graph graph' : Graph) : Prop where
  grows : ∃ additions additions', runs.first.Grows additions graph ∧
    runs.second.Grows additions' graph' ∧
      List.Forall₂ (Addition.Alike twins) additions additions' ∧
        twins = runs.start ++ (Addition.tensors additions).zip (Addition.tensors additions')
  typed : ∀ pair ∈ twins, pair.1.type = pair.2.type
  owned : ∀ pair ∈ twins, graph.owns pair.1 = true ∧ graph'.owns pair.2 = true

namespace Lockstep

/-- Graphs that own the tensors they are given begin in step. -/
theorem begin (owned : ∀ tensor ∈ runs.shared,
    runs.first.owns tensor = true ∧ runs.second.owns tensor = true) :
    runs.Lockstep runs.start runs.first runs.second where
  grows := ⟨[], [], .refl _, .refl _, .nil, (List.append_nil _).symm⟩
  typed pair member := by
    obtain ⟨tensor, _, rfl⟩ := List.mem_map.mp member
    rfl
  owned pair member := by
    obtain ⟨tensor, given, rfl⟩ := List.mem_map.mp member
    exact owned tensor given

/-- The tensors that were given stay their own twins. -/
theorem shared (lockstep : runs.Lockstep twins graph graph') {tensor : Handle}
    (given : tensor ∈ runs.shared) : (tensor, tensor) ∈ twins := by
  obtain ⟨_, _, _, _, _, rfl⟩ := lockstep.grows
  exact List.mem_append_left _ (List.mem_map.mpr ⟨tensor, given, rfl⟩)

/-- **Additions that are alike** keep graphs in step. -/
theorem grow (lockstep : runs.Lockstep twins graph graph') {more more' : List Addition}
    (grows : graph.Grows more after) (grows' : graph'.Grows more' after')
    (alike : List.Forall₂
      (Addition.Alike (twins ++ (Addition.tensors more).zip (Addition.tensors more'))) more more') :
    runs.Lockstep (twins ++ (Addition.tensors more).zip (Addition.tensors more')) after after' := by
  obtain ⟨additions, additions', grown, grown', similar, isTwins⟩ := lockstep.grows
  have types := Addition.types_of_alike alike
  refine ⟨⟨additions ++ more, additions' ++ more', grown.trans grows, grown'.trans grows', ?_, ?_⟩,
    ?_, ?_⟩
  · exact List.rel_append
      (similar.imp fun _ _ same => same.mono (List.subset_append_left _ _)) alike
  · have counts := (Addition.types_of_alike similar).length_eq
    simp only [Addition.tensors, List.filterMap_append] at counts ⊢
    rw [List.zip_append counts, isTwins, List.append_assoc]
    rfl
  · intro pair member
    rcases List.mem_append.mp member with old | new
    · exact lockstep.typed pair old
    · exact (List.forall₂_iff_zip.mp types).2 new
  · intro pair member
    rcases List.mem_append.mp member with old | new
    · obtain ⟨owned, owned'⟩ := lockstep.owned pair old
      exact ⟨grows.keeps_owns owned, grows'.keeps_owns owned'⟩
    · obtain ⟨inFirst, inSecond⟩ := List.of_mem_zip new
      obtain ⟨addition, listed, entered⟩ := List.mem_filterMap.mp inFirst
      obtain ⟨addition', listed', entered'⟩ := List.mem_filterMap.mp inSecond
      exact ⟨(grows.enters listed entered).2, (grows'.enters listed' entered').2⟩

/-- Raised counters keep graphs in step. -/
theorem raise (lockstep : runs.Lockstep twins graph graph') {counter counter' : Nat}
    (rises : graph.counter ≤ counter) (rises' : graph'.counter ≤ counter') :
    runs.Lockstep twins { graph with counter } { graph' with counter := counter' } := by
  have grown := lockstep.grow (.done graph counter rises) (.done graph' counter' rises') .nil
  rwa [show twins ++ (Addition.tensors []).zip (Addition.tensors []) = twins from
    List.append_nil twins] at grown

/-- The names of twins are in the tables. -/
theorem contains (lockstep : runs.Lockstep twins graph graph') {name name' : String}
    (named : twins.Name name name') :
    graph.tensors.contains name = true ∧ graph'.tensors.contains name' = true := by
  obtain ⟨pair, member, rfl, rfl⟩ := named
  obtain ⟨owned, owned'⟩ := lockstep.owned pair member
  exact ⟨Graph.contains_of_owns owned, Graph.contains_of_owns owned'⟩

end Lockstep

/-! ### Steps -/

section Steps

variable {Error State Value Next : Type} {graphOf : State → Graph} {before before' : State}
  {relates : Twins → Value → Value → Prop}

/-- **Steps in step**: from two states they either both end in values that belong together, or both
fail in the same way; the graphs are in step either way. -/
inductive InStep (runs : Runs) (graphOf : State → Graph) (twins : Twins) (before before' : State)
    (step step' : EStateM Error State Value) (relates : Twins → Value → Value → Prop) : Prop
  | ok {value value' : Value} {after after' : State} {more : Twins}
      (run : step before = .ok value after) (run' : step' before' = .ok value' after')
      (subset : twins ⊆ more) (lockstep : runs.Lockstep more (graphOf after) (graphOf after'))
      (holds : relates more value value') :
      InStep runs graphOf twins before before' step step' relates
  | error {error : Error} {after after' : State} {more : Twins}
      (run : step before = .error error after) (run' : step' before' = .error error after')
      (lockstep : runs.Lockstep more (graphOf after) (graphOf after')) :
      InStep runs graphOf twins before before' step step' relates

namespace InStep

variable {step step' : EStateM Error State Value} {value value' : Value}

/-- **Two steps**, one after the other. -/
theorem bind {next next' : Value → EStateM Error State Next}
    {final : Twins → Next → Next → Prop}
    (first : runs.InStep graphOf twins before before' step step' relates)
    (second : ∀ more value value' after after', twins ⊆ more →
      runs.Lockstep more (graphOf after) (graphOf after') → relates more value value' →
        runs.InStep graphOf more after after' (next value) (next' value') final) :
    runs.InStep graphOf twins before before' (step >>= next) (step' >>= next') final := by
  cases first with
  | ok run run' subset lockstep holds =>
      cases second _ _ _ _ _ subset lockstep holds with
      | ok last last' later lockstep holds =>
          exact .ok ((bind_run_ok run).trans last) ((bind_run_ok run').trans last')
            (List.Subset.trans subset later) lockstep holds
      | error last last' lockstep =>
          exact .error ((bind_run_ok run).trans last) ((bind_run_ok run').trans last') lockstep
  | error run run' lockstep =>
      exact .error (bind_run_error run) (bind_run_error run') lockstep

/-- Values that are handed on. -/
theorem pure (lockstep : runs.Lockstep twins (graphOf before) (graphOf before'))
    (holds : relates twins value value') :
    runs.InStep graphOf twins before before' (Pure.pure value : EStateM Error State Value)
      (Pure.pure value') relates :=
  .ok rfl rfl (List.Subset.refl twins) lockstep holds

/-- The same failure. -/
theorem throw (lockstep : runs.Lockstep twins (graphOf before) (graphOf before')) (error : Error) :
    runs.InStep graphOf twins before before' (MonadExcept.throw error : EStateM Error State Value)
      (MonadExcept.throw error) relates :=
  .error rfl rfl lockstep

end InStep

end Steps

/-! ### Steps on a graph -/

/-- Steps on graphs, in step. -/
abbrev Builds {Value : Type} (runs : Runs) (twins : Twins) (graph graph' : Graph)
    (step step' : Build Value) (relates : Twins → Value → Value → Prop) : Prop :=
  runs.InStep id twins graph graph' step step' relates

variable {Value : Type}

/-- Checks that answer the same. -/
theorem inspect_inStep (lockstep : runs.Lockstep twins graph graph')
    {check check' : Graph → Except Fault Value} (same : check graph = check' graph') :
    runs.Builds twins graph graph' (Build.inspect check) (Build.inspect check')
      fun _ value value' => value = value' ∧ check graph = .ok value := by
  cases answer : check graph with
  | ok value =>
      exact .ok (Build.inspect_ok answer) (Build.inspect_ok (same ▸ answer))
        (List.Subset.refl twins) lockstep ⟨rfl, rfl⟩
  | error fault =>
      exact .error (Build.inspect_error answer) (Build.inspect_error (same ▸ answer)) lockstep

theorem freshName_inStep (lockstep : runs.Lockstep twins graph graph') (stem : String) :
    runs.Builds twins graph graph' (Build.freshName stem) (Build.freshName stem)
      fun _ _ _ => True :=
  .ok (Build.freshName_run stem graph) (Build.freshName_run stem graph') (List.Subset.refl twins)
    (lockstep.raise (Nat.le_succ _) (Nat.le_succ _)) trivial

/-- The same integers as constants. -/
theorem embedIndices_inStep (lockstep : runs.Lockstep twins graph graph')
    (layer layer' role : String) (values : List Int) :
    runs.Builds twins graph graph' (Build.embedIndices layer role values)
      (Build.embedIndices layer' role values) Twins.Name := by
  cases fits : values.all fitsIndex with
  | false =>
      exact .error (Build.embedIndices_refused layer role values graph fits)
        (Build.embedIndices_refused layer' role values graph' fits) lockstep
  | true =>
      obtain ⟨name, after, run, grows⟩ := Build.embedIndices_run layer role values graph fits
      obtain ⟨name', after', run', grows'⟩ := Build.embedIndices_run layer' role values graph' fits
      have named : Twins.Name (twins ++ (Addition.tensors [.constant ⟨name, .indices values⟩]).zip
          (Addition.tensors [.constant ⟨name', .indices values⟩])) name name' :=
        Twins.name_of_mem (List.mem_append_right twins List.mem_cons_self)
      exact .ok run run' (List.subset_append_left twins _)
        (lockstep.grow grows grows' (.cons (.constant _ named) .nil)) named

/-- Factors of products, transposed or not. -/
theorem factor_inStep (lockstep : runs.Lockstep twins graph graph') {tensor tensor' : Handle}
    (member : (tensor, tensor') ∈ twins) (swap : Bool) (matrix : MatrixShape)
    (layer layer' operand : String) :
    runs.Builds twins graph graph' (Build.factor swap tensor matrix layer operand)
      (Build.factor swap tensor' matrix layer' operand) Twins.Name := by
  have named := Twins.name_of_mem member
  obtain ⟨known, known'⟩ := lockstep.contains named
  obtain ⟨name, after, run, read, _, grows⟩ :=
    Build.factor_run swap tensor matrix layer operand graph known
  obtain ⟨name', after', run', read', _, grows'⟩ :=
    Build.factor_run swap tensor' matrix layer' operand graph' known'
  have same := lockstep.typed _ member
  have dtype : tensor.dtype = tensor'.dtype := congrArg TensorType.dtype same
  have rank : tensor.rank = tensor'.rank :=
    congrArg List.length (congrArg TensorType.shape same)
  cases swap with
  | false =>
      rw [read rfl] at run grows
      rw [read' rfl] at run' grows'
      have grown := lockstep.grow grows grows' .nil
      refine .ok run run' (List.subset_append_left twins _) grown ?_
      exact named.mono (List.subset_append_left twins _)
  | true =>
      have made : Twins.Name (twins ++ [(⟨name, matrix.toShape, tensor.dtype⟩,
          ⟨name', matrix.toShape, tensor'.dtype⟩)]) name name' :=
        Twins.name_of_mem (List.mem_append_right twins List.mem_cons_self)
      refine .ok run run' (List.subset_append_left twins _)
        (lockstep.grow grows grows' (.cons ?_ .nil)) made
      rw [rank, dtype]
      exact .node _ _ _ (.cons (named.mono (List.subset_append_left twins _)) .nil) made

/-- The ends of requests. -/
theorem append_inStep (lockstep : runs.Lockstep twins graph graph') (layer layer' : String)
    (primitive : Primitive) (operands : Twins) (reads : List (String × String))
    (paired : operands ⊆ twins) (named : ∀ read ∈ reads, twins.Name read.1 read.2) (shape : Shape)
    (dtype : ElementType) :
    runs.Builds twins graph graph'
      (Build.append layer primitive (operands.map Prod.fst) (reads.map Prod.fst) shape dtype)
      (Build.append layer' primitive (operands.map Prod.snd) (reads.map Prod.snd) shape dtype)
      Twins.Tensor := by
  have known : ∀ name ∈ reads.map Prod.fst, graph.tensors.contains name = true := by
    intro name member
    obtain ⟨read, listed, rfl⟩ := List.mem_map.mp member
    exact (lockstep.contains (named read listed)).1
  have known' : ∀ name ∈ reads.map Prod.snd, graph'.tensors.contains name = true := by
    intro name member
    obtain ⟨read, listed, rfl⟩ := List.mem_map.mp member
    exact (lockstep.contains (named read listed)).2
  obtain ⟨⟨name, _, _⟩, after, run, shaped, dtyped, grows⟩ :=
    Build.append_run layer primitive (operands.map Prod.fst) (reads.map Prod.fst) shape dtype graph
      known
  obtain ⟨⟨name', _, _⟩, after', run', shaped', dtyped', grows'⟩ :=
    Build.append_run layer' primitive (operands.map Prod.snd) (reads.map Prod.snd) shape dtype
      graph' known'
  obtain rfl := shaped.symm
  obtain rfl := dtyped.symm
  obtain rfl := shaped'.symm
  obtain rfl := dtyped'.symm
  let more := twins ++ [((⟨name, shape, dtype⟩ : Handle), (⟨name', shape, dtype⟩ : Handle))]
  have subset : twins ⊆ more := List.subset_append_left twins _
  have made : (⟨name, shape, dtype⟩, ⟨name', shape, dtype⟩) ∈ more :=
    List.mem_append_right twins List.mem_cons_self
  refine .ok run run' subset (lockstep.grow grows grows' (.cons ?_ (.cons ?_ .nil))) made
  · refine .node _ _ _ ?_ (Twins.name_of_mem made)
    rw [List.forall₂_map_left_iff, List.forall₂_map_right_iff, List.forall₂_same]
    exact fun read member => (named read member).mono subset
  · refine .layer _ ?_ (Twins.name_of_mem made)
    rw [List.map_map, List.map_map, List.forall₂_map_left_iff, List.forall₂_map_right_iff,
      List.forall₂_same]
    exact fun pair member => Twins.name_of_mem (subset (paired member))

/-! ### Requests -/

/-- A check that begins with twins goes on in step. -/
theorem requireOwned_twins (lockstep : runs.Lockstep twins graph graph') {tensor tensor' : Handle}
    (member : (tensor, tensor') ∈ twins) :
    graph.requireOwned tensor = .ok () ∧ graph'.requireOwned tensor' = .ok () := by
  obtain ⟨owned, owned'⟩ := lockstep.owned _ member
  exact ⟨if_pos owned, if_pos owned'⟩

/-- Twins have one shape and one element type. -/
theorem Lockstep.same (lockstep : runs.Lockstep twins graph graph') {tensor tensor' : Handle}
    (member : (tensor, tensor') ∈ twins) :
    tensor.shape = tensor'.shape ∧ tensor.dtype = tensor'.dtype :=
  ⟨congrArg TensorType.shape (lockstep.typed _ member),
    congrArg TensorType.dtype (lockstep.typed _ member)⟩

theorem elementwise_inStep (lockstep : runs.Lockstep twins graph graph') {a a' b b' : Handle}
    (memberA : (a, a') ∈ twins) (memberB : (b, b') ∈ twins) (op : Elementwise) :
    runs.Builds twins graph graph' (Build.elementwise a b op) (Build.elementwise a' b' op)
      Twins.Tensor := by
  obtain ⟨ownsA, ownsA'⟩ := requireOwned_twins lockstep memberA
  obtain ⟨ownsB, ownsB'⟩ := requireOwned_twins lockstep memberB
  obtain ⟨shapeA, dtypeA⟩ := lockstep.same memberA
  obtain ⟨shapeB, dtypeB⟩ := lockstep.same memberB
  have check : graph.elementwiseShape a b op = graph'.elementwiseShape a' b' op := by
    unfold Graph.elementwiseShape
    rw [ownsA, ownsA', ownsB, ownsB', shapeA, shapeB, dtypeA, dtypeB]
  unfold Build.elementwise
  rw [← dtypeA]
  refine (inspect_inStep lockstep check).bind ?_
  rintro more shape _ after after' subset lockstep ⟨rfl, _⟩
  refine (freshName_inStep lockstep op.stem).bind ?_
  intro further layer layer' after after' later lockstep _
  have inA := later (subset memberA)
  have inB := later (subset memberB)
  exact append_inStep lockstep layer layer' (.elementwise op) [(a, a'), (b, b')]
    [(a.name, a'.name), (b.name, b'.name)] (by simp [inA, inB])
    (by simp [Twins.name_of_mem inA, Twins.name_of_mem inB]) shape a.dtype

theorem activation_inStep (lockstep : runs.Lockstep twins graph graph') {a a' : Handle}
    (member : (a, a') ∈ twins) (kind : Activation) :
    runs.Builds twins graph graph' (Build.activation a kind) (Build.activation a' kind)
      Twins.Tensor := by
  obtain ⟨owns, owns'⟩ := requireOwned_twins lockstep member
  obtain ⟨shape, dtype⟩ := lockstep.same member
  have check : graph.activationKind a (.known kind) = graph'.activationKind a' (.known kind) := by
    unfold Graph.activationKind
    rw [owns, owns']
  unfold Build.activation
  rw [← shape, ← dtype]
  refine (inspect_inStep lockstep check).bind ?_
  rintro more known _ after after' subset lockstep ⟨rfl, _⟩
  refine (freshName_inStep lockstep known.stem).bind ?_
  intro further layer layer' after after' later lockstep _
  have inA := later (subset member)
  exact append_inStep lockstep layer layer' (.activation known) [(a, a')] [(a.name, a'.name)]
    (by simp [inA]) (by simp [Twins.name_of_mem inA]) a.shape a.dtype

/-- A refused product names its factors, so these have to be the same in both runs. -/
theorem matmul_inStep (lockstep : runs.Lockstep twins graph graph') {a b : Handle}
    (memberA : (a, a) ∈ twins) (memberB : (b, b) ∈ twins) (transposeA transposeB : Bool) :
    runs.Builds twins graph graph' (Build.matmul a b transposeA transposeB)
      (Build.matmul a b transposeA transposeB) Twins.Tensor := by
  obtain ⟨ownsA, ownsA'⟩ := requireOwned_twins lockstep memberA
  obtain ⟨ownsB, ownsB'⟩ := requireOwned_twins lockstep memberB
  have check : graph.productShape a b transposeA transposeB =
      graph'.productShape a b transposeA transposeB := by
    unfold Graph.productShape
    rw [ownsA, ownsA', ownsB, ownsB']
  unfold Build.matmul
  refine (inspect_inStep lockstep check).bind ?_
  rintro one product _ after after' subsetOne lockstep ⟨rfl, _⟩
  refine (freshName_inStep lockstep "matmul").bind ?_
  intro two layer layer' after after' subsetTwo lockstep _
  replace memberA := subsetTwo (subsetOne memberA)
  replace memberB := subsetTwo (subsetOne memberB)
  refine (factor_inStep lockstep memberA transposeA product.first layer layer' "a").bind ?_
  intro three first first' after after' subsetThree lockstep isFirst
  refine (factor_inStep lockstep (subsetThree memberB) transposeB product.second layer layer'
    "b").bind ?_
  intro four second second' after after' subsetFour lockstep isSecond
  have inA := subsetFour (subsetThree memberA)
  have inB := subsetFour (subsetThree memberB)
  exact append_inStep lockstep layer layer' (.matmul transposeA transposeB) [(a, a), (b, b)]
    [(first, first'), (second, second')] (by simp [inA, inB])
    (by simp [isFirst.mono subsetFour, isSecond]) product.toShape a.dtype

theorem reshape_inStep (lockstep : runs.Lockstep twins graph graph') {a a' : Handle}
    (member : (a, a') ∈ twins) (newShape : Shape) :
    runs.Builds twins graph graph' (Build.reshape a newShape) (Build.reshape a' newShape)
      Twins.Tensor := by
  obtain ⟨owns, owns'⟩ := requireOwned_twins lockstep member
  obtain ⟨shape, dtype⟩ := lockstep.same member
  have check : graph.reshapeTarget a newShape = graph'.reshapeTarget a' newShape := by
    unfold Graph.reshapeTarget
    rw [owns, owns', shape]
  unfold Build.reshape
  rw [← dtype]
  refine (inspect_inStep lockstep check).bind ?_
  rintro one target _ after after' subsetOne lockstep ⟨rfl, _⟩
  refine (freshName_inStep lockstep "reshape").bind ?_
  intro two layer layer' after after' subsetTwo lockstep _
  refine (embedIndices_inStep lockstep layer layer' "shape" _).bind ?_
  intro three codes codes' after after' subsetThree lockstep isShape
  have inA := subsetThree (subsetTwo (subsetOne member))
  exact append_inStep lockstep layer layer' (.reshape newShape) [(a, a')]
    [(a.name, a'.name), (codes, codes')] (by simp [inA])
    (by simp [Twins.name_of_mem inA, isShape]) newShape a.dtype

theorem slice_inStep (lockstep : runs.Lockstep twins graph graph') {a a' : Handle}
    (member : (a, a') ∈ twins) (offsets : List (Option Int)) (sizes : List SizeRequest)
    (strides : List (Option Int)) :
    runs.Builds twins graph graph' (Build.slice a offsets sizes strides)
      (Build.slice a' offsets sizes strides) Twins.Tensor := by
  obtain ⟨owns, owns'⟩ := requireOwned_twins lockstep member
  obtain ⟨shape, dtype⟩ := lockstep.same member
  have rank : a.rank = a'.rank := congrArg List.length shape
  have check : graph.sliceSpans a offsets sizes strides =
      graph'.sliceSpans a' offsets sizes strides := by
    unfold Graph.sliceSpans
    rw [owns, owns', rank, shape]
  unfold Build.slice
  rw [← dtype, ← rank]
  refine (inspect_inStep lockstep check).bind ?_
  rintro one spans _ after after' subsetOne lockstep ⟨rfl, _⟩
  refine (freshName_inStep lockstep "slice").bind ?_
  intro two layer layer' after after' subsetTwo lockstep _
  refine (embedIndices_inStep lockstep layer layer' "starts" _).bind ?_
  intro three starts starts' after after' subsetThree lockstep isStarts
  refine (inspect_inStep lockstep rfl).bind ?_
  rintro four stops _ after after' subsetFour lockstep ⟨rfl, _⟩
  refine (embedIndices_inStep lockstep layer layer' "ends" stops).bind ?_
  intro five ends ends' after after' subsetFive lockstep isEnds
  refine (embedIndices_inStep lockstep layer layer' "axes" _).bind ?_
  intro six axes axes' after after' subsetSix lockstep isAxes
  refine (embedIndices_inStep lockstep layer layer' "steps" _).bind ?_
  intro seven steps steps' after after' subsetSeven lockstep isSteps
  have inThree := subsetThree (subsetTwo (subsetOne member))
  have inA := subsetSeven (subsetSix (subsetFive (subsetFour inThree)))
  refine append_inStep lockstep layer layer' _ [(a, a')]
    [(a.name, a'.name), (starts, starts'), (ends, ends'), (axes, axes'), (steps, steps')]
    (by simp [inA]) ?_ _ a.dtype
  intro read listed
  simp only [List.mem_cons, List.not_mem_nil, or_false] at listed
  rcases listed with rfl | rfl | rfl | rfl | rfl
  · exact Twins.name_of_mem inA
  · exact (((isStarts.mono subsetFour).mono subsetFive).mono subsetSix).mono subsetSeven
  · exact (isEnds.mono subsetSix).mono subsetSeven
  · exact isAxes.mono subsetSeven
  · exact isSteps

end Runs

end OperatorLowering
