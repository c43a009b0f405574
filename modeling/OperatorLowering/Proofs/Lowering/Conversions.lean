/-
**Conversions that are accepted again.**

A conversion runs a converter and collects the tensors that are bound to the outputs of the node. If
the converter is composed of operations, the conversion is accepted again, and what it collects
stands for what it collected before. A lowerer converts cells, which are among these.

* `Converter.Composed`: converters that are composed of operations;
* `Repetition.converted`: their conversions;
* `Repetition.lowered`: conversions of a lowerer.
-/

import OperatorLowering.Proofs.Lowering.Arguments
import OperatorLowering.Proofs.Lowering.Operations

namespace OperatorLowering

/-! ### Collected tensors -/

namespace NameTable

variable {Value : Type}

theorem mem_values_of_get? {table : NameTable Value} {name : String} {value : Value}
    (found : table.get? name = some value) : value ∈ table.values := by
  obtain ⟨before, after, entries, _⟩ := List.lookup_eq_some_iff.mp found
  refine List.mem_map.mpr ⟨(name, value), ?_, rfl⟩
  rw [entries]
  exact List.mem_append_right before List.mem_cons_self

theorem mem_map_snd_put {name : String} {value other : Value} {entries : List (String × Value)}
    (member : other ∈ (put name value entries).map Prod.snd) :
    other = value ∨ other ∈ entries.map Prod.snd := by
  induction entries with
  | nil => exact Or.inl (List.mem_singleton.mp member)
  | cons entry rest ih => grind [put]

end NameTable

namespace Context

/-- Collect what is bound to one more value. -/
def collect (context : Context) (table : NameTable Handle) (value : String) : NameTable Handle :=
  match context.bindings.get? value with
  | some tensor => table.insert value tensor
  | none => table

theorem boundTo_eq_foldl (context : Context) (values : List String) :
    context.boundTo values = values.foldl context.collect .empty :=
  rfl

/-- A value is collected if it is asked for and bound. -/
theorem get?_foldl_collect (context : Context) (values : List String) (table : NameTable Handle)
    (value : String) :
    (values.foldl context.collect table).get? value =
      if value ∈ values then (context.bindings.get? value).or (table.get? value)
      else table.get? value := by
  induction values generalizing table with
  | nil => rfl
  | cons first rest ih =>
      rw [List.foldl_cons, ih, collect]
      cases bound : context.bindings.get? first with
      | none => grind
      | some tensor => grind [NameTable.get?_insert]

/-- What is bound to a value is collected. -/
theorem mem_boundTo {context : Context} {values : List String} {value : String} {tensor : Handle}
    (listed : value ∈ values) (found : context.bindings.get? value = some tensor) :
    tensor ∈ (context.boundTo values).values := by
  have collected : (context.boundTo values).get? value = some tensor := by
    rw [boundTo_eq_foldl, get?_foldl_collect, if_pos listed, found, Option.some_or]
  exact NameTable.mem_values_of_get? collected

theorem mem_foldl_collect {context : Context} {values : List String} {table : NameTable Handle}
    {tensor : Handle} (member : tensor ∈ (values.foldl context.collect table).values) :
    tensor ∈ table.values ∨ ∃ value ∈ values, context.bindings.get? value = some tensor := by
  induction values generalizing table with
  | nil => exact Or.inl member
  | cons first rest ih =>
      rcases ih member with old | ⟨value, listed, found⟩
      · unfold collect at old
        split at old
        · next bound found =>
            rcases NameTable.mem_map_snd_put old with rfl | older
            · exact Or.inr ⟨first, List.mem_cons_self, found⟩
            · exact Or.inl older
        · exact Or.inl old
      · exact Or.inr ⟨value, List.mem_cons_of_mem _ listed, found⟩

/-- What is collected is bound to a value. -/
theorem bound_of_mem_boundTo {context : Context} {values : List String} {tensor : Handle}
    (member : tensor ∈ (context.boundTo values).values) :
    ∃ value ∈ values, context.bindings.get? value = some tensor :=
  (mem_foldl_collect member).resolve_left nofun

theorem unbound_eq_nil {context : Context} {node : OperatorNode} :
    context.unbound node = [] ↔
      ∀ value ∈ node.outputs, context.bindings.contains value = true := by
  simp [unbound, List.filter_eq_nil_iff]

end Context

theorem Lower.requireOutputs_run {context : Context} {node : OperatorNode}
    (bound : context.unbound node = []) :
    requireOutputs node context = .ok (context.boundTo node.outputs) context := by
  cases run : requireOutputs node context with
  | ok outputs after =>
      obtain ⟨rfl, rfl, _⟩ := (requireOutputs_ends node).ok run
      rfl
  | error failure after => exact absurd bound ((requireOutputs_ends node).error run).2.1

/-! ### Composed converters -/

/-- **Converters that are composed of operations**, within a scope for a node and its arguments:
those of recipes, and the one of cells. -/
inductive Converter.Composed (scope : Scope) (node : OperatorNode) (arguments : List Argument) :
    Converter → Prop
  | recipe (recipe : OperatorNode → List Argument → Recipe 0)
      (within : (recipe node arguments).Within scope) :
      Composed scope node arguments (.ofRecipe recipe)
  | cell (within : ∀ argument ∈ arguments, argument.Within scope) :
      Composed scope node arguments Lower.convertLstmCell

/-- The converter that a registry has for a node is composed of operations. -/
def Registry.Composed (scope : Scope) (registry : Registry) (node : OperatorNode)
    (arguments : List Argument) : Prop :=
  ∀ entry bound, registry.find? node.kind = some entry →
    entry.signature.bindArguments node.outputs.length arguments = .ok bound →
      Converter.Composed scope node bound entry.converter

/-- Composed converters change a graph through calls alone. -/
theorem Converter.Composed.performs {scope : Scope} {node : OperatorNode}
    {arguments : List Argument} {converter : Converter}
    (composed : Converter.Composed scope node arguments converter) :
    Lower.Performs (fun _ => True) (converter node arguments) := by
  cases composed with
  | recipe recipe _ => exact (recipe node arguments).performs _
  | cell _ => exact (Lower.calling_convertLstmCell node arguments).mono fun _ _ => trivial

theorem Registry.Composed.performs {scope : Scope} {registry : Registry} {node : OperatorNode}
    {arguments : List Argument} (composed : registry.Composed scope node arguments) :
    Lower.Performs (fun _ => True) (registry.convert node arguments) := by
  unfold convert
  cases found : registry.find? node.kind with
  | none => exact Lower.calling_throw _
  | some entry =>
      simp only [RegistryEntry.convert]
      cases binds : entry.signature.bindArguments node.outputs.length arguments with
      | error broken => exact Lower.calling_throw _
      | ok bound =>
          exact Lower.calling_bind (Lower.calling_modify fun _ => rfl) fun _ =>
            Lower.calling_bind (composed entry bound found binds).performs fun _ =>
              (Lower.calling_requireOutputs node).mono fun _ _ => trivial

/-- The registry of the library has a composed converter for cells. -/
theorem Registry.composed_standard {scope : Scope} {arguments : List Argument}
    (within : ∀ argument ∈ arguments, argument.Within scope) (node : OperatorNode) :
    Registry.standard.Composed scope node arguments := by
  intro entry bound found binds
  rw [find?_standard found]
  refine .cell fun argument member => ?_
  rcases (Signature.bindArguments_ok binds).2.2 argument member with given | rfl
  · exact within argument given
  · exact nofun

namespace Repetition

variable {again : Repetition} {twins : Twins}

theorem converter {node : OperatorNode} {arguments : List Argument} {converter : Converter}
    (composed : Converter.Composed again.scope node arguments converter) :
    again.Repeats twins (converter node arguments) (converter node arguments)
      fun _ _ _ => True := by
  cases composed with
  | recipe recipe within => exact again.recipe (recipe node arguments) within nofun
  | cell within => exact again.convertLstmCell within node

/-- What the first run has bound, the repetition has bound. -/
theorem Aligned.unbound {first second : Context} (aligned : again.Aligned twins first second)
    {node : OperatorNode} (matter : ∀ value ∈ node.outputs, again.matters value)
    (bound : first.unbound node = []) : second.unbound node = [] := by
  rw [Context.unbound_eq_nil] at bound ⊢
  intro value listed
  obtain ⟨tensor, found⟩ := Option.isSome_iff_exists.mp (bound value listed)
  obtain ⟨tensor', found', _⟩ := aligned.bindings value tensor (matter value listed) found
  exact Option.isSome_iff_exists.mpr ⟨tensor', found'⟩

/-- **A conversion is accepted again** if the converter is composed of operations. -/
theorem converted {registry : Registry} {node : OperatorNode} {arguments : List Argument}
    (composed : registry.Composed again.scope node arguments)
    (matter : ∀ value ∈ node.outputs, again.matters value) {first second after : Context}
    {outputs : NameTable Handle} (aligned : again.Aligned twins first second)
    (run : registry.convert node arguments first = .ok outputs after)
    (ends : after.graph.Grown again.ended) :
    outputs = after.boundTo node.outputs ∧ after.unbound node = [] ∧
      ∃ more after', again.Aligned more after after' ∧
        registry.convert node arguments second = .ok (after'.boundTo node.outputs) after' := by
  unfold Registry.convert at run ⊢
  cases found : registry.find? node.kind with
  | none =>
      rw [found] at run
      cases run
  | some entry =>
      simp only [found, RegistryEntry.convert] at run ⊢
      cases binds : entry.signature.bindArguments node.outputs.length arguments with
      | error broken =>
          rw [binds] at run
          cases run
      | ok bound =>
          simp only [binds] at run ⊢
          rw [bind_run_ok (show Lower.traceEvent _ first = _ from modify_run _ first)] at run
          rw [bind_run_ok (show Lower.traceEvent _ second = _ from modify_run _ second)]
          have started : again.Aligned twins
              { first with trace := first.trace ++ [.converting node] }
              { second with trace := second.trace ++ [.converting node] } :=
            aligned.of_same rfl rfl rfl rfl
          obtain ⟨value, middle, one, run⟩ := bind_run_eq_ok.mp run
          obtain ⟨rfl, rfl, complete⟩ := (Lower.requireOutputs_ends node).ok run
          obtain ⟨more, value', after', one', _, aligned', _⟩ :=
            (again.converter (composed entry bound found binds)).accepts _ _ value _ started one
              ends
          refine ⟨rfl, complete, more, after', aligned', ?_⟩
          rw [bind_run_ok one']
          exact Lower.requireOutputs_run (aligned'.unbound matter complete)

end Repetition

/-! ### Lowerers -/

namespace Lowerer

variable {lowerer : Lowerer} {node : OperatorNode} {arguments : List Argument} {context : Context}

/-- A lowerer converts a node and reports it. -/
theorem lower_ends (lowerer : Lowerer) (node : OperatorNode) (arguments : List Argument)
    (context : Context) :
    Ends (lowerer.lower node arguments) context
      (fun outputs after => ∃ middle,
        Registry.standard.convert node arguments context = .ok outputs middle ∧
          after.graph = middle.graph ∧ after.bindings = middle.bindings)
      (fun failure after =>
        Registry.standard.convert node arguments context = .error failure after) := by
  unfold lower
  cases run : Registry.standard.convert node arguments context with
  | error failure after => exact Ends.of_error (bind_run_error run) rfl
  | ok outputs middle =>
      refine Ends.after_ok run ?_
      cases lowerer.verbose with
      | true => exact Ends.of_ok rfl ⟨middle, rfl, rfl, rfl⟩
      | false => exact Ends.of_ok rfl ⟨middle, rfl, rfl, rfl⟩

/-- How a lowerer exports a node under a name. -/
def exportOptions (lowerer : Lowerer) (node : OperatorNode) (graphName : Option String) :
    ExportOptions where
  graphName := (graphName.filter (· ≠ "")).getD node.name
  opset := lowerer.opset
  checked := lowerer.checked

/-- A lowerer lowers a node, exports the graph and reports it. -/
theorem convert_ends (lowerer : Lowerer) (node : OperatorNode) (arguments : List Argument)
    (graphName : Option String) (context : Context) :
    Ends (lowerer.convert node arguments graphName) context
      (fun model after => ∃ outputs middle,
        lowerer.lower node arguments context = .ok outputs middle ∧ after.graph = middle.graph ∧
          after.graph.toModel outputs.values (lowerer.exportOptions node graphName) = .ok model)
      (fun failure after => lowerer.lower node arguments context = .error failure after ∨
        ∃ outputs fault, lowerer.lower node arguments context = .ok outputs after ∧
          after.graph.toModel outputs.values (lowerer.exportOptions node graphName) =
            .error fault) := by
  unfold convert
  cases run : lowerer.lower node arguments context with
  | error failure after => exact Ends.of_error (bind_run_error run) (Or.inl rfl)
  | ok outputs middle =>
      refine Ends.after_ok run ?_
      cases exported : middle.graph.toModel outputs.values
          (lowerer.exportOptions node graphName) with
      | error fault =>
          exact Ends.of_error
            (bind_run_error (Lower.build_run_error (Build.inspect_error exported)))
            (Or.inr ⟨outputs, fault, rfl, exported⟩)
      | ok model =>
          refine Ends.after_ok (Lower.build_run_ok (Build.inspect_ok exported)) ?_
          cases lowerer.verbose with
          | true => exact Ends.of_ok rfl ⟨outputs, middle, rfl, rfl, exported⟩
          | false => exact Ends.of_ok rfl ⟨outputs, middle, rfl, rfl, exported⟩

/-- A lowerer converts what it lowers and can export. -/
theorem convert_returns {graphName : Option String} {outputs : NameTable Handle} {middle : Context}
    {model : Model} (lowered : lowerer.lower node arguments context = .ok outputs middle)
    (exported : middle.graph.toModel outputs.values (lowerer.exportOptions node graphName) =
      .ok model) :
    ∃ after, lowerer.convert node arguments graphName context = .ok model after := by
  cases run : lowerer.convert node arguments graphName context with
  | ok other after =>
      obtain ⟨_, _, lowered', graph, exported'⟩ :=
        (lowerer.convert_ends node arguments graphName context).ok run
      rw [lowered] at lowered'
      cases lowered'
      rw [graph, exported] at exported'
      cases exported'
      exact ⟨after, rfl⟩
  | error failure after =>
      rcases (lowerer.convert_ends node arguments graphName context).error run with
        refused | ⟨_, _, lowered', refused⟩
      · rw [lowered] at refused
        cases refused
      · rw [lowered] at lowered'
        cases lowered'
        rw [exported] at refused
        cases refused

end Lowerer

namespace Repetition

variable {again : Repetition} {twins : Twins}

/-- **A lowerer lowers a node again.** -/
theorem lowered {lowerer : Lowerer} {node : OperatorNode} {arguments : List Argument}
    (within : ∀ argument ∈ arguments, argument.Within again.scope)
    (matter : ∀ value ∈ node.outputs, again.matters value) {first second after : Context}
    {outputs : NameTable Handle} (aligned : again.Aligned twins first second)
    (run : lowerer.lower node arguments first = .ok outputs after)
    (ends : after.graph.Grown again.ended) :
    outputs = after.boundTo node.outputs ∧ after.unbound node = [] ∧
      ∃ more after', again.Aligned more after after' ∧
        lowerer.lower node arguments second = .ok (after'.boundTo node.outputs) after' := by
  obtain ⟨middle, converted, graph, bindings⟩ := (lowerer.lower_ends node arguments first).ok run
  have collects {context context' : Context} (same : context.bindings = context'.bindings) :
      context.boundTo node.outputs = context'.boundTo node.outputs := by
    unfold Context.boundTo
    rw [same]
  obtain ⟨rfl, complete, more, middle', aligned, converted'⟩ := again.converted
    (Registry.composed_standard within node) matter aligned converted (graph ▸ ends)
  have complete' : after.unbound node = [] := by
    unfold Context.unbound at complete ⊢
    rwa [bindings]
  refine ⟨(collects bindings).symm, complete', more, ?_⟩
  cases run' : lowerer.lower node arguments second with
  | error failure after' =>
      have refused := (lowerer.lower_ends node arguments second).error run'
      rw [converted'] at refused
      cases refused
  | ok outputs' after' =>
      obtain ⟨_, same, graph', bindings'⟩ := (lowerer.lower_ends node arguments second).ok run'
      rw [converted'] at same
      cases same
      refine ⟨after', aligned.of_same graph bindings graph' bindings', ?_⟩
      rw [collects bindings']

end Repetition

end OperatorLowering
