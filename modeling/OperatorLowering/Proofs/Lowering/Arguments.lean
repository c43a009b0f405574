/-
**How arguments are resolved.**

The tensor of an argument is the one that the argument gives, or a literal that is embedded on the
way; so resolving arguments adds constants to the graph and nothing else. It fails if an argument
breaks the contract of its parameter, or is a literal that the graph rejects, or one that cannot be
read or written down; there is no other way. In particular it never speaks of a layer or of a
binding. The last of the three is no error of the node, for only rejections are turned into one.

* `Argument.Source`, `Argument.HasLiteral`: the tensors and the literals that an argument may give;
* `Unresolved`: how resolving fails;
* `Lower.Resolves`: steps that resolve arguments, closed under `bind`;
* `Signature.bindArguments_eq_ok`: the arguments that are bound to the parameters of a signature.
-/

import OperatorLowering.Lowering.Registry
import OperatorLowering.Lowering.Operands
import OperatorLowering.Proofs.Graph.Sources
import OperatorLowering.Proofs.Lowering.Steps

namespace OperatorLowering

/-- **The failures of resolving** the arguments of a node, whose literals are among those `held`. -/
inductive Unresolved (node : OperatorNode) (held : Literal → Prop) : Failure → Prop
  | contract (broken : Precondition) : Unresolved node held (.ofNode node (.precondition broken))
  | constant (reason : Rejection) :
      Unresolved node held (.ofNode node (.lowering "constant" (some (.rejected reason))))
  | literal (value : Literal) (fault : Fault) (given : held value)
      (typed : value.dtype.computeCode?.isSome = true) (withheld : value.Withheld fault) :
      Unresolved node held (.graph fault)

theorem Unresolved.mono {node : OperatorNode} {held wider : Literal → Prop} {failure : Failure}
    (fails : Unresolved node held failure) (among : ∀ value, held value → wider value) :
    Unresolved node wider failure := by
  cases fails with
  | contract broken => exact .contract broken
  | constant reason => exact .constant reason
  | literal value fault given typed withheld =>
      exact .literal value fault (among value given) typed withheld

/-- **What an argument may be resolved to**: the tensor that it gives, an embedded literal, or what
an item of it may be resolved to. -/
inductive Argument.Source (tensor : Handle) : Argument → Prop
  | tensor : Source tensor (.tensor tensor)
  | boxed : Source tensor (.boxed tensor)
  | constant (value : Literal) (accepted : value.requireEmbeddable = .ok ())
      (named : tensor = Constant.tensor ⟨tensor.name, .ofLiteral value⟩) :
      Source tensor (.constant value)
  | item {items : List Argument} {item : Argument} (member : item ∈ items)
      (source : Source tensor item) : Source tensor (.list items)

/-- A literal that is withheld is no rejection, so it stays what it is on behalf of a node. -/
theorem Literal.Withheld.onBehalf {value : Literal} {fault : Fault}
    (withheld : value.Withheld fault) (node : OperatorNode) (primitive : String) :
    (Failure.graph fault).onBehalf node primitive = .graph fault := by
  cases withheld with
  | unreadable obstacle stands => rfl
  | long readable ranked counted long => rfl

/-- **A literal of an argument**: the argument itself, or one of an item of it. -/
inductive Argument.HasLiteral (value : Literal) : Argument → Prop
  | constant : HasLiteral value (.constant value)
  | item {items : List Argument} {item : Argument} (member : item ∈ items)
      (holds : HasLiteral value item) : HasLiteral value (.list items)

/-- A literal of some arguments. -/
def Literal.GivenIn (value : Literal) (arguments : List Argument) : Prop :=
  ∃ argument ∈ arguments, argument.HasLiteral value

namespace Lower

variable {Value Next : Type} {node : OperatorNode} {held : Literal → Prop}

/-- A step that resolves arguments: it adds constants alone, and fails only as resolving fails. -/
def Resolves (node : OperatorNode) (held : Literal → Prop) (step : Lower Value)
    (resolved : Value → Prop) : Prop :=
  ∀ start, Ends step start
    (fun value after => resolved value ∧
      ∃ constants : List Constant, start.graph.Grows (constants.map Addition.constant) after.graph)
    (fun failure _ => Unresolved node held failure)

namespace Resolves

variable {resolved : Value → Prop} {final : Next → Prop}

theorem pure {value : Value} (holds : resolved value) :
    Resolves node held (Pure.pure value) resolved :=
  fun start => Ends.pure ⟨holds, [], .refl start.graph⟩

theorem violate (broken : Precondition) : Resolves node held (violate node broken) resolved :=
  fun _ => Ends.of_error rfl (.contract broken)

theorem bind {step : Lower Value} {next : Value → Lower Next}
    (first : Resolves node held step resolved)
    (second : ∀ value, resolved value → Resolves node held (next value) final) :
    Resolves node held (step >>= next) final := by
  intro start
  refine (first start).bind fun value middle ends => ?_
  obtain ⟨holds, constants, grows⟩ := ends
  refine (second value holds middle).mono ?_ fun _ _ => id
  rintro result after ⟨ends, more, grows'⟩
  refine ⟨ends, constants ++ more, ?_⟩
  rw [List.map_append]
  exact grows.trans grows'

end Resolves

/-- **A literal** is embedded as one constant, or rejected, or withheld. -/
theorem freeze_resolves (value : Literal) (given : held value) :
    Resolves node held (freeze value node) fun tensor =>
      Argument.Source tensor (.constant value) := by
  intro start
  refine checked_ends node "constant" ?_
  refine (build_ends (Build.freeze_ends value none start.graph)).mono ?_ ?_
  · rintro tensor after ⟨⟨accepted, named, grows⟩, _⟩
    exact ⟨.constant value accepted named, [⟨tensor.name, .ofLiteral value⟩], grows⟩
  · rintro failure after ⟨⟨fault, rfl, ⟨refused, _⟩ | ⟨typed, refused, _⟩⟩, _⟩
    · obtain ⟨reason, rfl⟩ := ElementType.requireCode_rejects refused
      exact .constant reason
    · rcases Literal.requireEmbeddable_refuses refused with ⟨reason, rfl⟩ | withheld
      · exact .constant reason
      · rw [withheld.onBehalf]
        exact .literal value fault given typed withheld

/-- A literal that is withheld fails alike on behalf of any node. -/
theorem freeze_withheld {value : Literal} {fault : Fault}
    (typed : value.dtype.computeCode?.isSome = true) (withheld : value.Withheld fault)
    (node : OperatorNode) (start : Context) :
    ∃ after, freeze value node start = .error (.graph fault) after := by
  have ends := Build.freeze_ends value none start.graph
  cases run : Build.freeze value none start.graph with
  | ok tensor graph =>
      have accepted := (ends.ok run).1
      rw [withheld.refused] at accepted
      cases accepted
  | error other graph =>
      have refused : other = fault := by
        rcases ends.error run with ⟨untyped, _⟩ | ⟨_, refused, _⟩
        · obtain ⟨code, computed⟩ := ElementType.requireCode_isOk.mpr typed
          rw [computed] at untyped
          cases untyped
        · rw [withheld.refused] at refused
          cases refused
          rfl
      subst refused
      have fails := checked_run_error node "constant" (build_run_error run)
      rw [withheld.onBehalf] at fails
      exact ⟨_, fails⟩

/-- **A required argument**. -/
theorem resolveTensor_resolves (argument : Argument) (name : String)
    (given : ∀ value, argument.HasLiteral value → held value) :
    Resolves node held (resolveTensor argument name node) fun tensor => argument.Source tensor := by
  cases argument with
  | tensor tensor => exact .pure .tensor
  | constant value => exact freeze_resolves value (given value .constant)
  | boxed tensor => exact .pure .boxed
  | absent => exact .violate _
  | list items => exact .violate _
  | foreign value => exact .violate _

/-- **An optional argument**. -/
theorem resolveOptional_resolves (argument : Argument) (name : String)
    (given : ∀ value, argument.HasLiteral value → held value) :
    Resolves node held (resolveOptional argument name node)
      fun found => ∀ tensor ∈ found.toList, argument.Source tensor := by
  unfold resolveOptional
  split
  · exact .pure nofun
  · refine (resolveTensor_resolves argument name given).bind fun tensor source => .pure ?_
    intro other member
    rwa [List.mem_singleton.mp member]

/-- **A recurrent state**. -/
theorem resolveState_resolves (argument : Argument) (name : String)
    (given : ∀ value, argument.HasLiteral value → held value) :
    Resolves node held (resolveState argument name node)
      fun state => argument.Source state.hidden ∧ argument.Source state.cell := by
  unfold resolveState
  split
  · next hidden cell =>
      have isFirst : hidden ∈ [hidden, cell] := List.mem_cons_self
      have isSecond : cell ∈ [hidden, cell] := List.mem_cons_of_mem _ List.mem_cons_self
      refine (resolveTensor_resolves hidden _ fun value holds =>
        given value (.item isFirst holds)).bind fun first firstSource => ?_
      refine (resolveTensor_resolves cell _ fun value holds =>
        given value (.item isSecond holds)).bind fun second secondSource => .pure ?_
      exact ⟨.item isFirst firstSource, .item isSecond secondSource⟩
  · exact .violate _
  · exact .violate _

/-- An argument that is there. -/
theorem argumentAt_resolves {arguments : List Argument} {position : Nat}
    (inside : position < arguments.length) :
    Resolves node held (argumentAt arguments position) fun argument => argument ∈ arguments := by
  unfold argumentAt
  rw [List.getElem?_eq_getElem inside]
  exact .pure (List.getElem_mem inside)

end Lower

/-- **Arguments are bound** if the node has an output for each result, no argument is one too many,
the ones that are left out are optional, and each one fits. -/
theorem Signature.bindArguments_eq_ok {signature : Signature} {outputs : Nat}
    {arguments bound : List Argument} :
    signature.bindArguments outputs arguments = .ok bound ↔
      outputs = signature.results.length ∧ arguments.length ≤ signature.parameters.length ∧
        Parameter.firstMissing signature.kind (signature.parameters.drop arguments.length) = none ∧
        firstMisfit signature.kind signature.parameters bound = none ∧
        bound = arguments ++
          List.replicate (signature.parameters.drop arguments.length).length .absent := by
  unfold bindArguments
  by_cases counts : outputs = signature.results.length
  · rw [if_neg (not_not_intro counts), and_iff_right counts]
    by_cases many : signature.parameters.length < arguments.length
    · rw [if_pos many]
      exact iff_of_false nofun fun holds => Nat.not_le.mpr many holds.1
    · rw [if_neg many, and_iff_right (Nat.le_of_not_lt many)]
      constructor
      · intro binds
        split at binds
        · cases binds
        · next fits =>
            cases binds
            exact ⟨(Option.or_eq_none_iff.mp fits).1, (Option.or_eq_none_iff.mp fits).2, rfl⟩
      · rintro ⟨given, fits, rfl⟩
        simp only [given, fits, Option.or_none]
  · rw [if_pos counts]
    exact iff_of_false nofun fun holds => counts holds.1

/-- **Bound arguments** are as many as the parameters: those that were given, and absent ones. The
node has as many outputs as the signature has results. -/
theorem Signature.bindArguments_ok {signature : Signature} {outputs : Nat}
    {arguments bound : List Argument}
    (binds : signature.bindArguments outputs arguments = .ok bound) :
    outputs = signature.results.length ∧ bound.length = signature.parameters.length ∧
      ∀ argument ∈ bound, argument ∈ arguments ∨ argument = .absent := by
  obtain ⟨counts, few, _, _, rfl⟩ := bindArguments_eq_ok.mp binds
  refine ⟨counts, ?_, ?_⟩
  · rw [List.length_append, List.length_replicate, List.length_drop]
    omega
  · intro argument member
    exact (List.mem_append.mp member).imp_right fun omitted => (List.mem_replicate.mp omitted).2

end OperatorLowering
