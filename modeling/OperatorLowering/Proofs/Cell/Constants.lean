/-
**Literals, boxed tensors and tensors are interchangeable arguments.**

The arguments of a cell are resolved before anything is built, from left to right, and nothing but a
literal changes the graph on the way. So a conversion is the same as embedding all literals first,
in the order in which they stand, and then converting the arguments with the embedded tensors in the
literals' places and boxed tensors out of their boxes.

* `Argument.literalsOf`, `Argument.fillAll`: the literals of arguments, and tensors put in their places;
* `Lower.cellOperands_returns_iff`: the arguments that can be resolved;
* `Lower.cellOperands_freezes`: resolving is freezing the literals, then resolving what is left;
* `convert_freezes_first`: so the whole conversion is.
-/

import OperatorLowering.Lowering.Registry
import OperatorLowering.Proofs.Graph.Calls
import OperatorLowering.Proofs.Lowering.Arguments

namespace OperatorLowering

/-! ### Literals and their places -/

namespace Argument

mutual

/-- The literals of an argument, from left to right. -/
def literals : Argument → List Literal
  | .constant value => [value]
  | .list items => literalsOf items
  | _ => []

/-- The literals of arguments, from left to right. -/
def literalsOf : List Argument → List Literal
  | [] => []
  | argument :: rest => argument.literals ++ literalsOf rest

end

mutual

/-- The argument with tensors in the places of its literals and boxed tensors out of their boxes,
and the tensors that are left over. -/
def fill : Argument → List Handle → Argument × List Handle
  | .constant _, given :: tensors => (.tensor given, tensors)
  | .boxed given, tensors => (.tensor given, tensors)
  | .list items, tensors => (.list (fillAll items tensors).1, (fillAll items tensors).2)
  | argument, tensors => (argument, tensors)

/-- Arguments with tensors in the places of their literals, and the tensors that are left over. -/
def fillAll : List Argument → List Handle → List Argument × List Handle
  | [], tensors => ([], tensors)
  | argument :: rest, tensors =>
    let first := argument.fill tensors
    let others := fillAll rest first.2
    (first.1 :: others.1, others.2)

end

theorem literalsOf_append (first second : List Argument) :
    literalsOf (first ++ second) = literalsOf first ++ literalsOf second := by
  induction first with
  | nil => rfl
  | cons argument rest ih =>
      rw [List.cons_append, literalsOf, literalsOf, ih, List.append_assoc]

theorem literalsOf_absent (count : Nat) : literalsOf (List.replicate count .absent) = [] := by
  induction count with
  | zero => rfl
  | succ count ih =>
      rw [List.replicate_succ, literalsOf, ih]
      rfl

theorem fillAll_append (first second : List Argument) (tensors : List Handle) :
    (fillAll (first ++ second) tensors).1 =
      (fillAll first tensors).1 ++ (fillAll second (fillAll first tensors).2).1 := by
  induction first generalizing tensors with
  | nil => rfl
  | cons argument rest ih =>
      rw [List.cons_append, fillAll, fillAll, ih]
      rfl

theorem fillAll_absent (count : Nat) (tensors : List Handle) :
    (fillAll (List.replicate count .absent) tensors).1 = List.replicate count .absent := by
  induction count with
  | zero => rfl
  | succ count ih =>
      rw [List.replicate_succ, fillAll]
      show .absent :: (fillAll (List.replicate count .absent) tensors).1 = _
      rw [ih]

theorem length_fillAll (arguments : List Argument) (tensors : List Handle) :
    (fillAll arguments tensors).1.length = arguments.length := by
  induction arguments generalizing tensors with
  | nil => rfl
  | cons argument rest ih =>
      rw [fillAll]
      exact congrArg (· + 1) (ih _)

/-- An argument stays absent, a list, or neither. -/
theorem form_fill (argument : Argument) (tensors : List Handle) :
    (argument.fill tensors).1.isAbsent = argument.isAbsent ∧
      (argument.fill tensors).1.isList = argument.isList := by
  cases argument with
  | constant value => cases tensors <;> exact ⟨rfl, rfl⟩
  | tensor tensor => exact ⟨rfl, rfl⟩
  | boxed tensor => exact ⟨rfl, rfl⟩
  | list items => exact ⟨rfl, rfl⟩
  | absent => exact ⟨rfl, rfl⟩
  | foreign value => exact ⟨rfl, rfl⟩

mutual

/-- An argument takes as many tensors as it has literals, and then none is left in it. -/
theorem fill_spec (argument : Argument) (tensors : List Handle)
    (enough : argument.literals.length ≤ tensors.length) :
    (argument.fill tensors).1.literals = [] ∧
      (argument.fill tensors).2 = tensors.drop argument.literals.length := by
  match argument, tensors with
  | .constant value, given :: tensors => exact ⟨rfl, rfl⟩
  | .boxed given, tensors => exact ⟨rfl, rfl⟩
  | .list items, tensors => exact fillAll_spec items tensors enough
  | .tensor given, tensors => exact ⟨rfl, rfl⟩
  | .absent, tensors => exact ⟨rfl, rfl⟩
  | .foreign value, tensors => exact ⟨rfl, rfl⟩

theorem fillAll_spec (arguments : List Argument) (tensors : List Handle)
    (enough : (literalsOf arguments).length ≤ tensors.length) :
    literalsOf (fillAll arguments tensors).1 = [] ∧
      (fillAll arguments tensors).2 = tensors.drop (literalsOf arguments).length := by
  match arguments with
  | [] => exact ⟨rfl, rfl⟩
  | argument :: rest =>
      rw [literalsOf, List.length_append] at enough
      obtain ⟨none, left⟩ := fill_spec argument tensors (by omega)
      obtain ⟨others, more⟩ := fillAll_spec rest (argument.fill tensors).2
        (by rw [left, List.length_drop]; omega)
      constructor
      · show (argument.fill tensors).1.literals ++ literalsOf (fillAll rest _).1 = []
        rw [none, others]
        rfl
      · show (fillAll rest (argument.fill tensors).2).2 = _
        rw [more, left, List.drop_drop, literalsOf, List.length_append]

end

end Argument

/-! ### Binding -/

/-- What fits a parameter still fits it. -/
theorem Signature.firstMisfit_fillAll (kind : String) (parameters : List Parameter)
    (arguments : List Argument) (tensors : List Handle) :
    firstMisfit kind parameters (Argument.fillAll arguments tensors).1 =
      firstMisfit kind parameters arguments := by
  induction arguments generalizing parameters tensors with
  | nil => rfl
  | cons argument rest ih =>
      cases parameters with
      | nil => rfl
      | cons parameter parameters =>
          obtain ⟨absent, list⟩ := argument.form_fill tensors
          show (parameter.misfit kind (argument.fill tensors).1).or
            (firstMisfit kind parameters (Argument.fillAll rest _).1) = _
          rw [ih, Parameter.misfit, absent, list]
          rfl

section Bound

variable {signature : Signature} {outputs : Nat} {arguments bound : List Argument}
  (binds : signature.bindArguments outputs arguments = .ok bound)

include binds

/-- **Binding** looks at no literal: what was bound is bound with tensors in its places. -/
theorem Signature.bindArguments_fillAll (tensors : List Handle) :
    signature.bindArguments outputs (Argument.fillAll arguments tensors).1 =
      .ok (Argument.fillAll bound tensors).1 := by
  obtain ⟨counts, few, given, fits, rfl⟩ := bindArguments_eq_ok.mp binds
  refine bindArguments_eq_ok.mpr ⟨counts, ?_, ?_, ?_, ?_⟩
  · rwa [Argument.length_fillAll]
  · rwa [Argument.length_fillAll]
  · rwa [firstMisfit_fillAll]
  · rw [Argument.fillAll_append, Argument.fillAll_absent, Argument.length_fillAll]

/-- The arguments that are left out are no literals. -/
theorem Signature.literalsOf_bound :
    Argument.literalsOf bound = Argument.literalsOf arguments := by
  obtain ⟨_, _, _, _, rfl⟩ := bindArguments_eq_ok.mp binds
  rw [Argument.literalsOf_append, Argument.literalsOf_absent, List.append_nil]

end Bound

/-! ### Arguments that can be resolved -/

namespace Argument

variable {allowed : Literal → Prop}

/-- **An argument that gives one tensor**: a tensor, boxed or not, or a literal that is allowed. -/
inductive Single (allowed : Literal → Prop) : Argument → Prop
  | tensor (given : Handle) : Single allowed (.tensor given)
  | boxed (given : Handle) : Single allowed (.boxed given)
  | constant (value : Literal) (holds : allowed value) : Single allowed (.constant value)

/-- An argument that gives one tensor or is left out. -/
def SingleOrAbsent (allowed : Literal → Prop) (argument : Argument) : Prop :=
  argument = .absent ∨ argument.Single allowed

/-- An argument that gives the two tensors of a state. -/
def Pair (allowed : Literal → Prop) (argument : Argument) : Prop :=
  ∃ hidden cell, argument = .list [hidden, cell] ∧ hidden.Single allowed ∧ cell.Single allowed

/-- **The arguments of a cell**, by form and by the literals among them. Those whose literals graphs
embed can be resolved. -/
def OfCell (allowed : Literal → Prop) : List Argument → Prop
  | [input, state, inputWeights, hiddenWeights, inputBias, hiddenBias] =>
    input.Single allowed ∧ state.Pair allowed ∧ inputWeights.Single allowed ∧
      hiddenWeights.Single allowed ∧ inputBias.SingleOrAbsent allowed ∧
      hiddenBias.SingleOrAbsent allowed
  | _ => False

theorem each_allowed {argument : Argument} (optional : argument.SingleOrAbsent allowed) :
    ∀ value ∈ argument.literals, allowed value := by
  rcases optional with rfl | single
  · exact nofun
  · cases single with
    | tensor given => exact nofun
    | boxed given => exact nofun
    | constant value holds =>
        intro other member
        rwa [List.mem_singleton.mp member]

/-- The literals of a cell are allowed. -/
theorem OfCell.literals_allowed {arguments : List Argument} (ofCell : OfCell allowed arguments) :
    ∀ value ∈ literalsOf arguments, allowed value := by
  match arguments, ofCell with
  | [a, b, c, d, e, f], ⟨first, pair, fourth, fifth, sixth, seventh⟩ =>
      obtain ⟨hidden, cell, rfl, second, third⟩ := pair
      simp only [literalsOf, literals, List.append_nil, List.append_assoc, List.forall_mem_append]
      exact ⟨each_allowed (Or.inr first), each_allowed (Or.inr second), each_allowed (Or.inr third),
        each_allowed (Or.inr fourth), each_allowed (Or.inr fifth), each_allowed sixth,
        each_allowed seventh⟩

end Argument

namespace Lower

variable {Value Next : Type} {node : OperatorNode}

/-- A step that returns exactly if a condition holds, whatever the context. -/
def ReturnsIf (step : Lower Value) (condition : Prop) : Prop :=
  ∀ start, Ends step start (fun _ _ => condition) (fun _ _ => ¬ condition)

theorem ReturnsIf.bind {step : Lower Value} {next : Value → Lower Next} {first second : Prop}
    (returns : ReturnsIf step first) (rest : ∀ value, ReturnsIf (next value) second) :
    ReturnsIf (step >>= next) (first ∧ second) := by
  intro start
  unfold Ends
  cases run : step start with
  | ok value middle =>
      have holds := (returns start).ok run
      rw [bind_run_ok run]
      exact ((rest value middle).mono (fun _ _ also => ⟨holds, also⟩)
        fun _ _ fails both => fails both.2)
  | error failure middle =>
      rw [bind_run_error run]
      exact fun both => (returns start).error run both.1

theorem ReturnsIf.pure (value : Value) : ReturnsIf (Pure.pure value) True :=
  fun _ => trivial

theorem ReturnsIf.fails {failure : Failure} {condition : Prop} (never : ¬ condition) :
    ReturnsIf (throw failure : Lower Value) condition :=
  fun _ => never

theorem ReturnsIf.returns_iff {step : Lower Value} {condition : Prop}
    (returns : ReturnsIf step condition) (context : Context) :
    (∃ value after, step context = .ok value after) ↔ condition := by
  cases run : step context with
  | ok value after => exact iff_of_true ⟨value, after, rfl⟩ ((returns context).ok run)
  | error failure after => exact iff_of_false nofun ((returns context).error run)

theorem freeze_returnsIf (value : Literal) : ReturnsIf (freeze value node) value.Embeddable := by
  intro start
  refine checked_ends node "constant" ?_
  refine (build_ends (Build.freeze_embeds value none start.graph)).mono ?_ ?_
  · rintro tensor after ⟨⟨embeddable, _⟩, _⟩
    exact embeddable
  · rintro failure after ⟨⟨_, _, refused⟩, _⟩
    exact refused

theorem resolveTensor_returnsIf (argument : Argument) (name : String) :
    ReturnsIf (resolveTensor argument name node) (argument.Single Literal.Embeddable) := by
  cases argument with
  | tensor given => exact fun _ => .tensor given
  | boxed given => exact fun _ => .boxed given
  | constant value =>
      intro start
      refine (freeze_returnsIf value start).mono (fun _ _ => .constant value) ?_
      rintro _ _ refused (_ | _ | ⟨_, embeddable⟩)
      exact refused embeddable
  | absent => exact .fails nofun
  | list items => exact .fails nofun
  | foreign value => exact .fails nofun

theorem resolveOptional_returnsIf (argument : Argument) (name : String) :
    ReturnsIf (resolveOptional argument name node)
      (argument.SingleOrAbsent Literal.Embeddable) := by
  unfold resolveOptional
  split
  · exact fun _ => Or.inl rfl
  · next present =>
      intro start
      refine ((resolveTensor_returnsIf argument name).bind (fun _ => .pure _) start).mono ?_ ?_
      · exact fun _ _ returns => Or.inr returns.1
      · exact fun _ _ fails holds => fails ⟨holds.resolve_left present, trivial⟩

theorem resolveState_returnsIf (argument : Argument) (name : String) :
    ReturnsIf (resolveState argument name node) (argument.Pair Literal.Embeddable) := by
  unfold resolveState
  split
  · next hidden cell =>
      intro start
      refine ((resolveTensor_returnsIf hidden _).bind (fun _ =>
        (resolveTensor_returnsIf cell _).bind fun _ => .pure _) start).mono ?_ ?_
      · exact fun _ _ returns => ⟨hidden, cell, rfl, returns.1, returns.2.1⟩
      · rintro _ _ fails ⟨_, _, ⟨⟩, first, second⟩
        exact fails ⟨first, second, trivial⟩
  · next items other =>
      refine .fails ?_
      rintro ⟨hidden, cell, ⟨⟩, _⟩
      exact other hidden cell rfl
  · next other =>
      refine .fails ?_
      rintro ⟨hidden, cell, rfl, _⟩
      exact other _ rfl

/-- Six arguments are resolved one after the other. -/
theorem cellOperands_six (a b c d e f : Argument) :
    cellOperands node [a, b, c, d, e, f] = (do
      let input ← resolveTensor a "input" node
      let state ← resolveState b "hx" node
      let inputWeights ← resolveTensor c "w_ih" node
      let hiddenWeights ← resolveTensor d "w_hh" node
      let inputBias ← resolveOptional e "b_ih" node
      let hiddenBias ← resolveOptional f "b_hh" node
      return { input, state, inputWeights, hiddenWeights, inputBias, hiddenBias }) :=
  rfl

/-- **Resolving returns** exactly for the arguments of a cell, in any context. -/
theorem cellOperands_returns_iff {arguments : List Argument} (six : arguments.length = 6)
    (context : Context) :
    (∃ operands after, cellOperands node arguments context = .ok operands after) ↔
      Argument.OfCell Literal.Embeddable arguments := by
  match arguments, six with
  | [a, b, c, d, e, f], _ =>
      have returns : ReturnsIf (cellOperands node [a, b, c, d, e, f])
          (a.Single Literal.Embeddable ∧ b.Pair Literal.Embeddable ∧ c.Single Literal.Embeddable ∧
            d.Single Literal.Embeddable ∧ e.SingleOrAbsent Literal.Embeddable ∧
            f.SingleOrAbsent Literal.Embeddable ∧ True) := by
        rw [cellOperands_six]
        exact (resolveTensor_returnsIf a _).bind fun _ => (resolveState_returnsIf b _).bind fun _ =>
          (resolveTensor_returnsIf c _).bind fun _ => (resolveTensor_returnsIf d _).bind fun _ =>
          (resolveOptional_returnsIf e _).bind fun _ =>
          (resolveOptional_returnsIf f _).bind fun _ => .pure _
      rw [returns.returns_iff context, and_true]
      exact Iff.rfl

/-! ### Freezing first -/

section Freezing

variable {argument : Argument} {allowed : Literal → Prop}

/-- The literals of arguments, frozen one after the other. -/
def freezeEach (node : OperatorNode) (values : List Literal) : Lower (List Handle) :=
  values.mapM fun value => freeze value node

theorem freezeEach_cons (value : Literal) (values : List Literal) :
    freezeEach node (value :: values) = (do
      let first ← freeze value node
      let others ← freezeEach node values
      return first :: others) :=
  List.mapM_cons

/-- **Literals are frozen up to the first one that is withheld.** -/
theorem freezeEach_withheld {before behind : List Literal} {value : Literal} {fault : Fault}
    (embeddable : ∀ other ∈ before, other.Embeddable)
    (typed : value.dtype.computeCode?.isSome = true) (withheld : value.Withheld fault)
    (start : Context) :
    ∃ after, freezeEach node (before ++ value :: behind) start = .error (.graph fault) after := by
  induction before generalizing start with
  | nil =>
      obtain ⟨after, fails⟩ := freeze_withheld typed withheld node start
      rw [List.nil_append, freezeEach_cons]
      exact ⟨after, bind_run_error fails⟩
  | cons first rest ih =>
      obtain ⟨tensor, middle, frozen⟩ :=
        ((freeze_returnsIf first).returns_iff start).mpr (embeddable first List.mem_cons_self)
      obtain ⟨after, fails⟩ :=
        ih (fun other member => embeddable other (List.mem_cons_of_mem first member)) middle
      refine ⟨after, ?_⟩
      rw [List.cons_append, freezeEach_cons, bind_run_ok frozen]
      exact bind_run_error fails

/-- What is done with filled arguments after the literals of them are frozen. -/
def afterFreezing (node : OperatorNode) (arguments : List Argument)
    (next : List Argument → Lower Value) : Lower Value := do
  let tensors ← freezeEach node (Argument.literalsOf arguments)
  next (Argument.fillAll arguments tensors).1

/-- An argument that gives one tensor may be resolved before the literals behind it are frozen. -/
theorem afterFreezing_single (single : argument.Single allowed) (name : String) (rest : List Argument)
    (next : List Argument → Lower Value) :
    afterFreezing node (argument :: rest) next = (do
      let given ← resolveTensor argument name node
      afterFreezing node rest fun others => next (.tensor given :: others)) := by
  unfold afterFreezing
  cases single with
  | tensor given => rfl
  | boxed given => rfl
  | constant value =>
      show freezeEach node (value :: Argument.literalsOf rest) >>= _ = freeze value node >>= _
      rw [freezeEach_cons]
      simp only [bind_assoc, pure_bind]
      rfl

theorem afterFreezing_optional (optional : argument.SingleOrAbsent allowed) (name : String)
    (rest : List Argument) (next : List Argument → Lower Value) :
    afterFreezing node (argument :: rest) next = (do
      let given ← resolveOptional argument name node
      afterFreezing node rest fun others => next (given.elim .absent .tensor :: others)) := by
  rcases optional with rfl | single
  · rfl
  · have present : resolveOptional argument name node =
        some <$> resolveTensor argument name node := by
      cases single <;> rfl
    rw [afterFreezing_single single name, present, bind_map_left]
    rfl

/-- The first two of some arguments as one list. -/
def pairUp : List Argument → List Argument
  | hidden :: cell :: others => .list [hidden, cell] :: others
  | others => others

theorem afterFreezing_pair (pair : argument.Pair allowed) (name : String) (rest : List Argument)
    (next : List Argument → Lower Value) :
    afterFreezing node (argument :: rest) next = (do
      let state ← resolveState argument name node
      afterFreezing node rest fun others =>
        next (.list [.tensor state.hidden, .tensor state.cell] :: others)) := by
  obtain ⟨hidden, cell, rfl, hiddenSingle, cellSingle⟩ := pair
  -- Literals are frozen alike in a list and out of it.
  have flat : Argument.literalsOf (.list [hidden, cell] :: rest) =
      Argument.literalsOf (hidden :: cell :: rest) := by
    simp [Argument.literalsOf, Argument.literals]
  have opened : afterFreezing node (.list [hidden, cell] :: rest) next =
      afterFreezing node (hidden :: cell :: rest) fun others => next (pairUp others) := by
    unfold afterFreezing
    rw [flat]
    rfl
  rw [opened, afterFreezing_single hiddenSingle s!"{name}[0]"]
  simp only [afterFreezing_single cellSingle s!"{name}[1]", resolveState, bind_assoc, pure_bind]
  rfl

/-- **Resolving the arguments of a cell** is freezing the literals among them, from left to right,
and then resolving what the tensors in their places leave. -/
theorem cellOperands_freezes {arguments : List Argument}
    (ofCell : Argument.OfCell allowed arguments) :
    cellOperands node arguments = afterFreezing node arguments (cellOperands node) := by
  match arguments, ofCell with
  | [a, b, c, d, e, f], ⟨first, second, third, fourth, fifth, sixth⟩ =>
      -- Each argument is resolved in turn, and those behind it stay filled until then.
      rw [cellOperands_six]
      symm
      refine (afterFreezing_single first "input" _ _).trans (bind_congr fun input => ?_)
      refine (afterFreezing_pair second "hx" _ _).trans (bind_congr fun state => ?_)
      refine (afterFreezing_single third "w_ih" _ _).trans (bind_congr fun inputWeights => ?_)
      refine (afterFreezing_single fourth "w_hh" _ _).trans (bind_congr fun hiddenWeights => ?_)
      refine (afterFreezing_optional fifth "b_ih" _ _).trans (bind_congr fun inputBias => ?_)
      refine (afterFreezing_optional sixth "b_hh" _ _).trans (bind_congr fun hiddenBias => ?_)
      cases inputBias <;> cases hiddenBias <;> rfl

/-- **So is converting a cell.** -/
theorem convertLstmCell_freezes {arguments : List Argument}
    (ofCell : Argument.OfCell allowed arguments) :
    convertLstmCell node arguments = afterFreezing node arguments (convertLstmCell node) := by
  unfold convertLstmCell
  rw [cellOperands_freezes ofCell]
  exact bind_assoc _ _ _

end Freezing

/-! ### In steps on the graph -/

theorem build_bind (step : Build Value) (next : Value → Build Next) :
    build (step >>= next) = build step >>= fun value => build (next value) := by
  funext context
  cases run : step context.graph with
  | ok value graph =>
      rw [bind_run_ok (build_run_ok run)]
      simp only [build, bind_run_ok run]
  | error fault graph =>
      rw [bind_run_error (build_run_error run)]
      exact build_run_error (bind_run_error run)

theorem checked_bind (primitive : String) (step : Lower Value) (next : Value → Lower Next) :
    checked node primitive (step >>= next) =
      checked node primitive step >>= fun value => checked node primitive (next value) := by
  funext context
  cases run : step context with
  | ok value after =>
      rw [bind_run_ok (checked_run_ok node primitive run)]
      simp only [checked, bind_run_ok run]
  | error failure after =>
      rw [bind_run_error (checked_run_error node primitive run)]
      exact checked_run_error node primitive (bind_run_error run)

end Lower

/-- Embed literals, one after the other. -/
def Build.freezeAll (values : List Literal) : Build (List Handle) :=
  values.mapM fun value => Build.freeze value

theorem Build.freezeAll_cons (value : Literal) (values : List Literal) :
    freezeAll (value :: values) = (do
      let first ← freeze value
      let others ← freezeAll values
      return first :: others) :=
  List.mapM_cons

/-- **Freezing the literals of a node** is one step on the graph. -/
theorem Lower.freezeEach_eq (node : OperatorNode) (values : List Literal) :
    freezeEach node values = checked node "constant" (build (Build.freezeAll values)) := by
  induction values with
  | nil => rfl
  | cons value values ih =>
      rw [freezeEach_cons, Build.freezeAll_cons, ih, build_bind, checked_bind]
      refine bind_congr fun first => ?_
      rw [build_bind, checked_bind]
      rfl

/-- **Literals that graphs embed** become one constant each, in order. -/
theorem Build.freezeAll_ends (values : List Literal) (graph : Graph)
    (embeddable : ∀ value ∈ values, value.Embeddable) :
    Ends (freezeAll values) graph
      (fun tensors after => ∃ constants : List Constant,
        constants.map Constant.value = values.map .ofLiteral ∧
          tensors = constants.map Constant.tensor ∧
          graph.Grows (constants.map Addition.constant) after)
      fun _ _ => False := by
  induction values generalizing graph with
  | nil => exact Ends.pure ⟨[], rfl, rfl, .refl graph⟩
  | cons value values ih =>
      rw [freezeAll_cons]
      refine ((freeze_embeds value none graph).mono (fun _ _ => id) ?_).bind
        fun first middle ends => ?_
      · exact fun _ _ refused => refused (embeddable value List.mem_cons_self)
      · obtain ⟨_, named, grows⟩ := ends
        refine (ih middle fun other member =>
          embeddable other (List.mem_cons_of_mem value member)).bind fun tensors after ends => ?_
        obtain ⟨constants, values, rfl, more⟩ := ends
        refine Ends.pure ⟨⟨first.name, .ofLiteral value⟩ :: constants, ?_, ?_, grows.trans more⟩
        · rw [List.map_cons, values]
          rfl
        · rw [List.map_cons, ← named]

/-! ### Conversions -/

/-- What the standard registry does with the node of a cell whose arguments are bound. -/
theorem Registry.convert_cell {node : OperatorNode} {arguments bound : List Argument}
    (kind : node.kind = lstmCellSignature.kind)
    (binds : lstmCellSignature.bindArguments node.outputs.length arguments = .ok bound) :
    Registry.standard.convert node arguments = (do
      Lower.traceEvent (.converting node)
      Lower.convertLstmCell node bound
      Lower.requireOutputs node) := by
  have found : Registry.standard.find? node.kind =
      some ⟨lstmCellText, lstmCellSignature, Lower.convertLstmCell⟩ := by
    rw [kind]
    rfl
  unfold convert
  rw [found]
  simp only [RegistryEntry.convert, binds]

/-- **A withheld literal ends the conversion** of a cell, if those before it are embedded and the
arguments have the form of a cell's. -/
theorem Registry.convert_withheld {node : OperatorNode} {arguments bound : List Argument}
    {before behind : List Literal} {value : Literal} {fault : Fault}
    (kind : node.kind = lstmCellSignature.kind)
    (binds : lstmCellSignature.bindArguments node.outputs.length arguments = .ok bound)
    (form : Argument.OfCell (fun _ => True) bound)
    (literals : Argument.literalsOf arguments = before ++ value :: behind)
    (embeddable : ∀ other ∈ before, other.Embeddable)
    (typed : value.dtype.computeCode?.isSome = true) (withheld : value.Withheld fault)
    (start : Context) :
    ∃ after, Registry.standard.convert node arguments start = .error (.graph fault) after := by
  let traced : Context := { start with trace := start.trace ++ [.converting node] }
  have tracing : Lower.traceEvent (.converting node) start = .ok ⟨⟩ traced := rfl
  obtain ⟨after, fails⟩ :=
    @Lower.freezeEach_withheld node before behind value fault embeddable typed withheld traced
  rw [← literals, ← Signature.literalsOf_bound binds] at fails
  refine ⟨after, ?_⟩
  rw [Registry.convert_cell kind binds, Lower.convertLstmCell_freezes form, bind_run_ok tracing]
  exact bind_run_error (bind_run_error fails)

/-- **Literals, boxed tensors and tensors are interchangeable** as arguments of a cell that can all
be resolved. Converting its node is embedding the literals first, from left to right, and then
converting the arguments with the embedded tensors in their places and boxed tensors out of their
boxes: it ends alike, in the same graph, bindings, trace and report. Each literal becomes one
constant on the way, and none is left to be embedded. -/
theorem convert_freezes_first {node : OperatorNode} {arguments bound : List Argument}
    (context : Context) (kind : node.kind = lstmCellSignature.kind)
    (binds : lstmCellSignature.bindArguments node.outputs.length arguments = .ok bound)
    (resolve : ∃ operands after, Lower.cellOperands node bound context = .ok operands after) :
    ∃ tensors frozen,
      Build.freezeAll (Argument.literalsOf arguments) context.graph = .ok tensors frozen ∧
      Registry.standard.convert node arguments context =
        Registry.standard.convert node (Argument.fillAll arguments tensors).1
          { context with graph := frozen } ∧
      Argument.literalsOf (Argument.fillAll arguments tensors).1 = [] ∧
      ∃ constants : List Constant,
        constants.map Constant.value = (Argument.literalsOf arguments).map .ofLiteral ∧
          tensors = constants.map Constant.tensor ∧
          context.graph.Grows (constants.map Addition.constant) frozen := by
  have literals := Signature.literalsOf_bound binds
  have six : bound.length = 6 := (Signature.bindArguments_ok binds).2.1
  have ofCell : Argument.OfCell Literal.Embeddable bound :=
    (Lower.cellOperands_returns_iff six context).mp resolve
  have ends := Build.freezeAll_ends (Argument.literalsOf arguments) context.graph
    (literals ▸ ofCell.literals_allowed)
  cases run : Build.freezeAll (Argument.literalsOf arguments) context.graph with
  | error fault after => exact (ends.error run).elim
  | ok tensors frozen =>
      obtain ⟨constants, values, named, grows⟩ := ends.ok run
      refine ⟨tensors, frozen, rfl, ?_, ?_, constants, values, named, grows⟩
      · -- The node is traced before its literals are frozen, and freezing adds nothing to the trace.
        let traced : Context := { context with trace := context.trace ++ [.converting node] }
        have freezes : Lower.freezeEach node (Argument.literalsOf bound) traced =
            .ok tensors { traced with graph := frozen } := by
          rw [Lower.freezeEach_eq, literals]
          exact Lower.checked_run_ok node "constant" (Lower.build_run_ok run)
        rw [Registry.convert_cell kind binds, Lower.convertLstmCell_freezes ofCell,
          Registry.convert_cell kind (Signature.bindArguments_fillAll binds tensors)]
        have tracing : Lower.traceEvent (.converting node) context = .ok ⟨⟩ traced := rfl
        refine (bind_run_ok tracing).trans ?_
        refine (congrFun (bind_assoc _ _ _) traced).trans ?_
        exact bind_run_ok freezes
      · refine (Argument.fillAll_spec arguments tensors (Nat.le_of_eq ?_)).1
        have count := congrArg List.length values
        rw [List.length_map, List.length_map] at count
        rw [named, List.length_map, count]

/-! ### A cell with literals -/

/-- Zeros. -/
def Literal.zeros (dims : List Nat) : Literal :=
  .ofRowMajor .float32 dims .empty

/-- Arguments of every form: the hidden state, the input's weights and the first bias are literals,
the cell state is boxed, and the second bias is left out. -/
def Argument.mixed : List Argument :=
  [.tensor ⟨"x", [.size 1, .size 1], .float32⟩,
    .list [.constant (.zeros [1, 1]), .boxed ⟨"c", [.size 1, .size 1], .float32⟩],
    .constant (.zeros [4, 1]), .tensor ⟨"r", [.size 4, .size 1], .float32⟩,
    .constant (.zeros [4])]

/-- The arguments with the three literals embedded. -/
def Argument.plain : List Argument :=
  [.tensor ⟨"x", [.size 1, .size 1], .float32⟩,
    .list [.tensor ⟨"const_1", [.size 1, .size 1], .float32⟩,
      .tensor ⟨"c", [.size 1, .size 1], .float32⟩],
    .tensor ⟨"const_2_3", [.size 4, .size 1], .float32⟩,
    .tensor ⟨"r", [.size 4, .size 1], .float32⟩, .tensor ⟨"const_4", [.size 4], .float32⟩]

/-- Two inputs of the cell, and one that bears the name of a literal to come. -/
def Graph.awaiting : Graph :=
  Graph.empty.after
    [.addInput "x" [.size 1, .size 1] .float32, .addInput "c" [.size 1, .size 1] .float32,
      .addInput "r" [.size 4, .size 1] .float32, .addInput "const_2" [.size 1] .float32]

theorem Literal.embeddable_zeros {dims : List Nat}
    (small : (Literal.zeros dims).requireEmbeddable = .ok ()) : (Literal.zeros dims).Embeddable :=
  ⟨rfl, small⟩

/-- The mixed arguments are converted as the plain ones are once the literals are embedded. -/
theorem mixed_freezes_first :
    ∃ frozen, (Build.freezeAll (Argument.literalsOf Argument.mixed) .awaiting =
        .ok [⟨"const_1", [.size 1, .size 1], .float32⟩,
          ⟨"const_2_3", [.size 4, .size 1], .float32⟩, ⟨"const_4", [.size 4], .float32⟩] frozen) ∧
      Registry.standard.convert ⟨"cell", "aten::lstm_cell", [], ["hy", "cy"]⟩ Argument.mixed
          ⟨.awaiting, .empty, [], []⟩ =
        Registry.standard.convert ⟨"cell", "aten::lstm_cell", [], ["hy", "cy"]⟩ Argument.plain
          ⟨frozen, .empty, [], []⟩ := by
  have ofCell : Argument.OfCell Literal.Embeddable (Argument.mixed ++ [.absent]) :=
    ⟨.tensor _, ⟨_, _, rfl, .constant _ (Literal.embeddable_zeros rfl), .boxed _⟩,
      .constant _ (Literal.embeddable_zeros rfl), .tensor _,
      Or.inr (.constant _ (Literal.embeddable_zeros rfl)), Or.inl rfl⟩
  have computed : Build.freezeAll (Argument.literalsOf Argument.mixed) .awaiting =
      .ok [⟨"const_1", [.size 1, .size 1], .float32⟩,
        ⟨"const_2_3", [.size 4, .size 1], .float32⟩, ⟨"const_4", [.size 4], .float32⟩] _ := rfl
  have binds : lstmCellSignature.bindArguments 2 Argument.mixed = .ok (Argument.mixed ++ [.absent]) :=
    rfl
  obtain ⟨tensors, frozen, run, same, _⟩ := @convert_freezes_first
    ⟨"cell", "aten::lstm_cell", [], ["hy", "cy"]⟩ _ _ ⟨.awaiting, .empty, [], []⟩ rfl binds
    ((Lower.cellOperands_returns_iff rfl _).mpr ofCell)
  rw [computed] at run
  cases run
  exact ⟨_, computed, same⟩

end OperatorLowering
