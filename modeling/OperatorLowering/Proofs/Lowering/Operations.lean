/-
**Operations that are accepted again.**

Arguments, biases, cells and the calls on a graph are accepted again, and with them each recipe:
what it makes in the repetition has the types of what it made before, so it goes on in the same way.

* `Repetition.convertLstmCell`: the conversion of a cell;
* `Repetition.operation`: each operation, on twins of its operands;
* `Repetition.recipe`: each recipe.
-/

import OperatorLowering.Proofs.Lowering.Repetition

namespace OperatorLowering

/-- A recurrent state is the twin of another one. -/
structure TwinStates (twins : Twins) (state state' : RecurrentState) : Prop where
  hidden : twins.Like state.hidden state'.hidden
  cell : twins.Like state.cell state'.cell

theorem TwinStates.total : Twins.Total TwinStates := fun twins state =>
  ⟨Twins.diagonal [state.hidden, state.cell] ++ twins, state, List.subset_append_right _ _,
    ⟨Twins.like_diagonal (by simp), Twins.like_diagonal (by simp)⟩⟩

theorem Twins.total_option :
    Twins.Total fun twins bias bias' => Option.Rel twins.Like bias bias' := by
  intro twins bias
  cases bias with
  | none => exact ⟨twins, none, List.Subset.refl twins, .none⟩
  | some tensor =>
      exact ⟨diagonal [tensor] ++ twins, some tensor, List.subset_append_right _ _,
        .some (like_diagonal List.mem_cons_self)⟩

namespace Repetition

variable {again : Repetition} {twins more : Twins}

/-! ### Arguments -/

theorem resolveTensor {argument : Argument} (within : argument.Within again.scope) (name : String)
    (node : OperatorNode) :
    again.Repeats twins (Lower.resolveTensor argument name node)
      (Lower.resolveTensor argument name node) Twins.Like := by
  cases argument with
  | tensor tensor => exact again.hand (within tensor .tensor)
  | constant value => exact (again.freeze value none).checked node "constant"
  | boxed tensor => exact again.hand (within tensor .boxed)
  | absent => exact .throw _
  | list items => exact .throw _
  | foreign value => exact .throw _

theorem resolveOptional {argument : Argument} (within : argument.Within again.scope)
    (name : String) (node : OperatorNode) :
    again.Repeats twins (Lower.resolveOptional argument name node)
      (Lower.resolveOptional argument name node)
      fun more bias bias' => Option.Rel more.Like bias bias' := by
  unfold Lower.resolveOptional
  split
  · exact .pure .none
  · exact .bind (again.resolveTensor within name node) Twins.total_like
      fun _ _ _ _ like => .pure (.some like)

theorem resolveState {argument : Argument} (within : argument.Within again.scope) (name : String)
    (node : OperatorNode) :
    again.Repeats twins (Lower.resolveState argument name node)
      (Lower.resolveState argument name node) TwinStates := by
  unfold Lower.resolveState
  split
  · next hidden cell =>
      have member {item : Argument} (listed : item ∈ [hidden, cell]) : item.Within again.scope :=
        fun tensor holds => within tensor (.item listed holds)
      refine .bind (again.resolveTensor (member (by simp)) _ node) Twins.total_like ?_
      intro one first first' _ likeHidden
      refine .bind (again.resolveTensor (member (by simp)) _ node) Twins.total_like ?_
      intro two second second' subset likeCell
      exact .pure ⟨likeHidden.mono subset, likeCell⟩
  · exact .throw _
  · exact .throw _

/-- An argument is looked up. -/
theorem Repeats.argumentAt {Next : Type} {values : Twins → Next → Next → Prop}
    {arguments : List Argument} {next next' : Argument → Lower Next} (position : Nat)
    (rest : ∀ argument ∈ arguments, again.Repeats twins (next argument) (next' argument) values) :
    again.Repeats twins (Lower.argumentAt arguments position >>= next)
      (Lower.argumentAt arguments position >>= next') values := by
  unfold Lower.argumentAt
  cases found : arguments[position]? with
  | none => exact .throw _
  | some argument => exact rest argument (List.mem_of_getElem? found)

/-! ### Cells -/

theorem total_operands : Twins.Total (TwinOperands again.stepRelation) := by
  intro twins operands
  obtain ⟨withInput, inputBias, subsetInput, likeInput⟩ :=
    Twins.total_option twins operands.inputBias
  obtain ⟨withBoth, hiddenBias, subsetHidden, likeHidden⟩ :=
    Twins.total_option withInput operands.hiddenBias
  refine ⟨Twins.diagonal [operands.input, operands.state.hidden, operands.state.cell,
    operands.inputWeights, operands.hiddenWeights] ++ withBoth,
    { operands with inputBias, hiddenBias }, ?_, ?_⟩
  · exact List.Subset.trans subsetInput
      (List.Subset.trans subsetHidden (List.subset_append_right _ _))
  · exact
      { input := Twins.like_diagonal (by simp)
        hidden := Twins.like_diagonal (by simp)
        cell := Twins.like_diagonal (by simp)
        inputWeights := Twins.like_diagonal (by simp)
        hiddenWeights := Twins.like_diagonal (by simp)
        inputBias := Twins.option_mono likeInput
          (List.Subset.trans subsetHidden (List.subset_append_right _ _))
        hiddenBias := Twins.option_mono likeHidden (List.subset_append_right _ _)
        fromInput := ⟨trivial, trivial⟩
        fromHidden := ⟨trivial, trivial⟩ }

theorem total_outputs : Twins.Total TwinOutputs := fun twins outputs =>
  ⟨Twins.diagonal [outputs.hidden, outputs.cell] ++ twins, outputs, List.subset_append_right _ _,
    ⟨Twins.like_diagonal (by simp), Twins.like_diagonal (by simp)⟩⟩

theorem cellOperands {arguments : List Argument}
    (within : ∀ argument ∈ arguments, argument.Within again.scope) (node : OperatorNode) :
    again.Repeats twins (Lower.cellOperands node arguments) (Lower.cellOperands node arguments)
      (TwinOperands again.stepRelation) := by
  refine .argumentAt 0 fun argument member => ?_
  refine .bind (again.resolveTensor (within argument member) "input" node) Twins.total_like ?_
  intro one input input' _ likeInput
  refine .argumentAt 1 fun argument member => ?_
  refine .bind (again.resolveState (within argument member) "hx" node) TwinStates.total ?_
  intro two state state' subset likeState
  replace likeInput := likeInput.mono subset
  refine .argumentAt 2 fun argument member => ?_
  refine .bind (again.resolveTensor (within argument member) "w_ih" node) Twins.total_like ?_
  intro three inputWeights inputWeights' subset likeInputWeights
  replace likeInput := likeInput.mono subset
  replace likeState : TwinStates three state state' :=
    ⟨likeState.hidden.mono subset, likeState.cell.mono subset⟩
  refine .argumentAt 3 fun argument member => ?_
  refine .bind (again.resolveTensor (within argument member) "w_hh" node) Twins.total_like ?_
  intro four hiddenWeights hiddenWeights' subsetFour likeHiddenWeights
  refine .argumentAt 4 fun argument member => ?_
  refine .bind (again.resolveOptional (within argument member) "b_ih" node) Twins.total_option ?_
  intro five inputBias inputBias' subsetFive likeInputBias
  refine .argumentAt 5 fun argument member => ?_
  refine .bind (again.resolveOptional (within argument member) "b_hh" node) Twins.total_option ?_
  intro six hiddenBias hiddenBias' subsetSix likeHiddenBias
  have fromFour := List.Subset.trans subsetFive subsetSix
  have fromThree := List.Subset.trans subsetFour fromFour
  exact .pure
    { input := likeInput.mono fromThree
      hidden := likeState.hidden.mono fromThree
      cell := likeState.cell.mono fromThree
      inputWeights := likeInputWeights.mono fromThree
      hiddenWeights := likeHiddenWeights.mono fromFour
      inputBias := Twins.option_mono likeInputBias subsetSix
      hiddenBias := likeHiddenBias
      fromInput := ⟨trivial, trivial⟩
      fromHidden := ⟨trivial, trivial⟩ }

theorem traceEvent (event event' : TraceEvent) :
    again.Repeats twins (Lower.traceEvent event) (Lower.traceEvent event') fun _ _ _ => True :=
  again.stepRelation.event event event'

/-- Steps behind an event. -/
theorem Repeats.afterEvent {Next : Type} {values : Twins → Next → Next → Prop}
    {next next' : Unit → Lower Next} (event event' : TraceEvent)
    (rest : ∀ more, twins ⊆ more → again.Repeats more (next ()) (next' ()) values) :
    again.Repeats twins (Lower.traceEvent event >>= next) (Lower.traceEvent event' >>= next')
      values :=
  .bind (again.traceEvent event event') Twins.total_true fun more _ _ subset _ => rest more subset

/-- **The conversion of a cell.** -/
theorem convertLstmCell {arguments : List Argument}
    (within : ∀ argument ∈ arguments, argument.Within again.scope) (node : OperatorNode) :
    again.Repeats twins (Lower.convertLstmCell node arguments)
      (Lower.convertLstmCell node arguments) fun _ _ _ => True := by
  refine .bind (again.cellOperands within node) total_operands ?_
  intro first operands operands' _ are
  refine .afterEvent _ _ fun one subset => ?_
  replace are := are.mono subset
  refine .afterEvent _ _ fun two subset => ?_
  replace are := are.mono subset
  refine .afterEvent _ _ fun three subset => ?_
  replace are := are.mono subset
  refine .afterEvent _ _ fun four subset => ?_
  replace are := are.mono subset
  refine .afterEvent _ _ fun five subset => ?_
  replace are := are.mono subset
  refine .bind (again.stepRelation.lstmCell are node) total_outputs ?_
  intro six outputs outputs' _ _
  exact .afterEvent _ _ fun seven _ => again.traceEvent _ _

/-! ### Operations -/

/-- Operations that give one tensor. -/
theorem Repeats.single {step step' : Lower Handle}
    (repeats : again.Repeats twins step step' Twins.Like) :
    again.Repeats twins (do return [← step]) (do return [← step'])
      fun more results results' => List.Forall₂ more.Like results results' :=
  .bind repeats Twins.total_like fun _ _ _ _ like => .pure (.cons like .nil)

/-- No graph accepts an activation of an unknown kind. -/
theorem refusedActivation (a a' : Handle) (value : Foreign) :
    again.Repeats twins (Lower.build (Build.activation a (.other value)))
      (Lower.build (Build.activation a' (.other value))) Twins.Like := by
  refine .build (.activation a (.other value)) fun first second output after _ _ run => ?_
  obtain ⟨_, _, adds, _⟩ := ((Call.activation a (.other value)).build_ends first.graph).ok run
  have known (request : Request Handle) : request.call ≠ .activation a (.other value) := by
    cases request <;> nofun
  generalize same : Call.activation a (.other value) = call at adds
  cases adds with
  | input name shape dtype => cases same
  | literal value given name => cases same
  | request request _ _ _ _ _ => exact absurd same.symm (known request)
  | slice => cases same

/-- **Each operation is accepted again**, on twins of its operands. -/
theorem operation (pairs : Operation (Handle × Handle))
    (like : ∀ pair ∈ pairs.operands, twins.Like pair.1 pair.2)
    (within : pairs.Within again.scope) :
    again.Repeats twins (pairs.map Prod.fst).run (pairs.map Prod.snd).run
      fun more results results' => List.Forall₂ more.Like results results' := by
  cases pairs with
  | freeze value name => exact (again.freeze value name).single
  | tensor name => exact (again.lookup within).single
  | matmul a b transposeA transposeB =>
      exact (again.stepRelation.matmul transposeA transposeB (like a (by simp [Operation.operands]))
        (like b (by simp [Operation.operands])) trivial trivial).single
  | elementwise a b op =>
      exact (again.stepRelation.elementwise op (like a (by simp [Operation.operands]))
        (like b (by simp [Operation.operands]))).single
  | slice a offsets sizes strides =>
      exact (again.slice (like a List.mem_cons_self) offsets sizes strides).single
  | activation a request =>
      cases request with
      | known kind =>
          exact (again.stepRelation.activation kind (like a List.mem_cons_self)).single
      | other value => exact (again.refusedActivation a.1 a.2 value).single
  | reshape a shape => exact (again.stepRelation.reshape shape (like a List.mem_cons_self)).single
  | reconcile primary secondary name =>
      exact (again.stepRelation.reconcile (like primary (by simp [Operation.operands]))
        (like secondary (by simp [Operation.operands])) name).single
  | addBias a b name node =>
      exact (again.stepRelation.addBias (like a (by simp [Operation.operands]))
        (like b (by simp [Operation.operands])) name node).single
  | resolveTensor argument name node => exact (again.resolveTensor within name node).single
  | resolveOptional argument name node =>
      refine .bind (again.resolveOptional within name node) Twins.total_option ?_
      intro more bias bias' _ likeBias
      refine .pure ?_
      cases likeBias with
      | none => exact .nil
      | some like => exact .cons like .nil
  | resolveState argument name node =>
      exact .bind (again.resolveState within name node) TwinStates.total
        fun _ _ _ _ are => .pure (.cons are.hidden (.cons are.cell .nil))
  | lstmCell node input hidden cell inputWeights hiddenWeights inputBias hiddenBias =>
      have likeBias {bias : Option (Handle × Handle)}
          (member : ∀ pair ∈ bias, twins.Like pair.1 pair.2) :
          Option.Rel twins.Like (bias.map Prod.fst) (bias.map Prod.snd) := by
        cases bias with
        | none => exact .none
        | some pair => exact .some (member pair rfl)
      refine .bind (again.stepRelation.lstmCell ?_ node) total_outputs
        fun _ _ _ _ are => .pure (.cons are.hidden (.cons are.cell .nil))
      exact
        { input := like input (by simp [Operation.operands])
          hidden := like hidden (by simp [Operation.operands])
          cell := like cell (by simp [Operation.operands])
          inputWeights := like inputWeights (by simp [Operation.operands])
          hiddenWeights := like hiddenWeights (by simp [Operation.operands])
          inputBias := likeBias fun pair member => like pair (by simp_all [Operation.operands])
          hiddenBias := likeBias fun pair member => like pair (by simp_all [Operation.operands])
          fromInput := ⟨trivial, trivial⟩
          fromHidden := ⟨trivial, trivial⟩ }

/-- Each operation on tensors that may be mentioned. -/
theorem performed {operation : Operation Handle}
    (operands : ∀ tensor ∈ operation.operands, again.scope.tensor tensor)
    (within : operation.Within again.scope) :
    again.Repeats twins operation.run operation.run
      fun more results results' => List.Forall₂ more.Like results results' := by
  refine .introduce operation.operands operands ?_
  have like : ∀ pair ∈ (operation.map fun tensor => (tensor, tensor)).operands,
      (Twins.diagonal operation.operands ++ twins).Like pair.1 pair.2 := by
    intro pair member
    rw [Operation.operands_map] at member
    obtain ⟨tensor, listed, rfl⟩ := List.mem_map.mp member
    exact Twins.like_diagonal listed
  have repeats := again.operation _ like ((Operation.within_map _ operation).mpr within)
  rwa [Operation.map_map, Operation.map_map, Operation.map_id] at repeats

/-! ### Recipes -/

theorem Repeats.onBehalf {Value : Type} {values : Twins → Value → Value → Prop}
    {step step' : Lower Value} (repeats : again.Repeats twins step step' values)
    (behalf : Option (OperatorNode × String)) :
    again.Repeats twins (Lower.onBehalf behalf step) (Lower.onBehalf behalf step') values := by
  cases behalf with
  | none => exact repeats
  | some of => exact repeats.checked of.1 of.2

theorem types_eq {tensors tensors' : List Handle}
    (like : List.Forall₂ twins.Like tensors tensors') :
    tensors.map Handle.type = tensors'.map Handle.type := by
  induction like with
  | nil => rfl
  | cons like _ ih => rw [List.map_cons, List.map_cons, like.type, ih]

/-- What was made before and what is made now are twins, one by one. -/
theorem like_extend {count total : Nat} {made made' : Fin count → Handle}
    {results results' : List Handle} (like : ∀ index, twins.Like (made index) (made' index))
    (likeResults : List.Forall₂ twins.Like results results')
    (sum : total = count + results.length) (sum' : total = count + results'.length)
    (index : Fin total) : twins.Like (extend made results sum index)
      (extend made' results' sum' index) := by
  unfold extend
  split
  · exact like _
  · exact likeResults.get _ _

end Repetition

/-- A recipe goes on by types, whatever is of those types. -/
theorem Recipe.run_next {count : Nat}
    (next : (types : List TensorType) → Recipe (count + types.length)) (made : Fin count → Handle)
    {results : List Handle} {types : List TensorType} (same : results.map Handle.type = types)
    (sum : count + (results.map Handle.type).length = count + results.length)
    (sum' : count + types.length = count + results.length) :
    (next (results.map Handle.type)).run (extend made results sum) =
      (next types).run (extend made results sum') := by
  subst same
  rfl

namespace Repetition

variable {again : Repetition}

/-- **Each recipe is accepted again**, with twins of the tensors that were made so far. -/
theorem recipe {count : Nat} (recipe : Recipe count) (within : recipe.Within again.scope)
    {twins : Twins} {made made' : Fin count → Handle}
    (like : ∀ index, twins.Like (made index) (made' index)) :
    again.Repeats twins (recipe.run made) (recipe.run made') fun _ _ _ => True := by
  induction recipe generalizing twins with
  | done => exact .pure trivial
  | fail failure => exact .throw failure
  | perform behalf operation next ih =>
      obtain ⟨slots, mentions, later⟩ := within
      -- The tensors that are given by name of the operation become twins of themselves.
      refine .introduce (operation.operands.flatMap Slot.tensors) ?_ ?_
      · intro tensor member
        obtain ⟨slot, listed, read⟩ := List.mem_flatMap.mp member
        exact slot.within_tensors (slots slot listed) tensor read
      let pairs := operation.map fun slot => (slot.read made, slot.read made')
      have first : operation.map (Slot.read made) = pairs.map Prod.fst := by
        rw [Operation.map_map]
      have second : operation.map (Slot.read made') = pairs.map Prod.snd := by
        rw [Operation.map_map]
      unfold Recipe.run
      rw [first, second]
      refine .bind ((again.operation pairs ?_ ?_).onBehalf behalf) Twins.total_forall₂ ?_
      · intro pair member
        rw [Operation.operands_map] at member
        obtain ⟨slot, listed, rfl⟩ := List.mem_map.mp member
        cases slot with
        | given tensor =>
            exact Twins.like_diagonal
              (List.mem_flatMap.mpr ⟨.given tensor, listed, List.mem_cons_self⟩)
        | made index => exact (like index).mono (List.subset_append_right _ _)
      · exact (Operation.within_map _ operation).mpr mentions
      · intro more results results' subset likeResults
        have types := (types_eq likeResults).symm
        rw [Recipe.run_next next made' types _ (by rw [← types, List.length_map])]
        exact ih _ (later _) fun index => like_extend
          (fun index => (like index).mono
            (List.Subset.trans (List.subset_append_right _ _) subset))
          likeResults _ _ index
  | associate value slot rest ih =>
      obtain ⟨mentioned, later⟩ := within
      refine .introduce slot.tensors (slot.within_tensors mentioned) ?_
      have kept := fun index => (like index).mono
        (List.subset_append_right (Twins.diagonal slot.tensors) twins)
      have likeSlot : (Twins.diagonal slot.tensors ++ twins).Like (slot.read made)
          (slot.read made') := by
        cases slot with
        | given tensor => exact Twins.like_diagonal List.mem_cons_self
        | made index => exact kept index
      exact .bind (.associate value likeSlot) Twins.total_like
        fun more _ _ subset _ => ih later fun index => (kept index).mono subset
  | record event rest ih =>
      exact .afterEvent event event fun more subset =>
        ih within fun index => (like index).mono subset

end Repetition

end OperatorLowering
