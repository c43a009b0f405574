/-
**Which calls are bound, and why the others are not.**

A call is bound exactly if it is well formed: an output for each result, no argument too many, what
is left out is optional, and each argument that is given is one that its parameter takes. The
parameters are looked at in two passes. The first one stops at the first parameter that is missing,
the second one at the first argument that is not taken. The absent arguments that the first pass
fills in stand at optional parameters, so the second pass stops at none of them.

* `Signature.Fits`: well-formed calls;
* `Signature.Breaks`: the contract that an ill-formed call breaks first;
* `bound_calls`: calls are bound or refused as these say, and what is bound is bound again as it is.
-/

import OperatorLowering.Lowering.Registry
import OperatorLowering.Proofs.Lowering.Arguments

namespace OperatorLowering

/-! ### One parameter -/

/-- An argument is absent, a list, or neither. -/
theorem Argument.form_cases {holds : Argument → Prop} (absent : holds .absent)
    (list : ∀ items, holds (.list items))
    (single : ∀ argument, argument ≠ .absent → (∀ items, argument ≠ .list items) → holds argument)
    (argument : Argument) : holds argument := by
  cases argument with
  | absent => exact absent
  | list items => exact list items
  | tensor tensor => exact single _ nofun nofun
  | boxed tensor => exact single _ nofun nofun
  | constant value => exact single _ nofun nofun
  | foreign value => exact single _ nofun nofun

namespace Parameter

variable {parameter : Parameter} {argument : Argument} {kind : String} {broken : Precondition}

/-- The outermost type is an optional one. -/
def Optional (parameter : Parameter) : Prop :=
  ∃ type, parameter.type = .optional type

/-- The outermost type is that of lists. -/
def Listed (parameter : Parameter) : Prop :=
  ∃ item, parameter.type = .list item

theorem isOptional_iff : parameter.type.isOptional = true ↔ parameter.Optional := by
  unfold Optional
  cases parameter.type <;> simp [ValueType.isOptional]

theorem isList_iff : parameter.type.isList = true ↔ parameter.Listed := by
  unfold Listed
  cases parameter.type <;> simp [ValueType.isList]

/-- **The arguments that a parameter takes**: an absent one if it is optional, a list if its type is
one of lists, and any other one if it is not. -/
inductive Takes (parameter : Parameter) : Argument → Prop
  | absent (optional : parameter.Optional) : Takes parameter .absent
  | list (items : List Argument) (listed : parameter.Listed) : Takes parameter (.list items)
  | single (argument : Argument) (given : argument ≠ .absent)
      (single : ∀ items, argument ≠ .list items) (unlisted : ¬ parameter.Listed) :
      Takes parameter argument

/-- **How an argument that is not taken breaks the contract** of an operator: it is absent, a list,
or neither. -/
inductive Refuses (kind : String) (parameter : Parameter) : Argument → Precondition → Prop
  | absent (required : ¬ parameter.Optional) :
      Refuses kind parameter .absent (.notOptional kind parameter.name)
  | list (items : List Argument) (unlisted : ¬ parameter.Listed) :
      Refuses kind parameter (.list items) (.wrongForm kind parameter.name false)
  | single (argument : Argument) (given : argument ≠ .absent)
      (single : ∀ items, argument ≠ .list items) (listed : parameter.Listed) :
      Refuses kind parameter argument (.wrongForm kind parameter.name true)

theorem misfit_absent : parameter.misfit kind .absent =
    if parameter.type.isOptional = true then none else some (.notOptional kind parameter.name) :=
  rfl

theorem misfit_list (items : List Argument) : parameter.misfit kind (.list items) =
    if parameter.type.isList = true then none
    else some (.wrongForm kind parameter.name parameter.type.isList) :=
  rfl

theorem misfit_single (given : argument ≠ .absent) (single : ∀ items, argument ≠ .list items) :
    parameter.misfit kind argument = if parameter.type.isList = false then none
      else some (.wrongForm kind parameter.name parameter.type.isList) := by
  cases argument with
  | absent => exact absurd rfl given
  | list items => exact absurd rfl (single items)
  | tensor tensor => rfl
  | boxed tensor => rfl
  | constant value => rfl
  | foreign value => rfl

/-- **Each argument** is taken, or refused in one way. -/
theorem misfit_spec (kind : String) (parameter : Parameter) (argument : Argument) :
    parameter.misfit kind argument = none ∧ parameter.Takes argument ∨
      ∃ broken, parameter.misfit kind argument = some broken ∧
        parameter.Refuses kind argument broken := by
  induction argument using Argument.form_cases with
  | absent =>
      rw [misfit_absent]
      by_cases optional : parameter.type.isOptional = true
      · exact Or.inl ⟨if_pos optional, .absent (isOptional_iff.mp optional)⟩
      · exact Or.inr ⟨_, if_neg optional, .absent (isOptional_iff.not.mp optional)⟩
  | list items =>
      by_cases listed : parameter.type.isList = true
      · exact Or.inl ⟨if_pos listed, .list items (isList_iff.mp listed)⟩
      · refine Or.inr ⟨_, ?_, .list items (isList_iff.not.mp listed)⟩
        rw [misfit_list, if_neg listed, Bool.eq_false_iff.mpr listed]
  | single argument given single =>
      rw [misfit_single given single]
      by_cases listed : parameter.type.isList = true
      · refine Or.inr ⟨_, ?_, .single argument given single (isList_iff.mp listed)⟩
        rw [listed]
        rfl
      · refine Or.inl ⟨if_pos (Bool.eq_false_iff.mpr listed), ?_⟩
        exact .single argument given single (isList_iff.not.mp listed)

/-- An argument that is refused is not taken. -/
theorem Refuses.not_takes (refuses : parameter.Refuses kind argument broken) :
    ¬ parameter.Takes argument := by
  intro takes
  cases refuses with
  | absent required =>
      cases takes with
      | absent optional => exact required optional
      | single _ given => exact given rfl
  | list items unlisted =>
      cases takes with
      | list _ listed => exact unlisted listed
      | single _ _ single => exact single items rfl
  | single _ given single listed =>
      cases takes with
      | absent => exact given rfl
      | list items => exact single items rfl
      | single _ _ _ unlisted => exact unlisted listed

theorem misfit_eq_none : parameter.misfit kind argument = none ↔ parameter.Takes argument := by
  rcases misfit_spec kind parameter argument with ⟨fits, takes⟩ | ⟨broken, misfits, refuses⟩
  · exact iff_of_true fits takes
  · rw [misfits]
    exact iff_of_false nofun refuses.not_takes

theorem refuses_of_misfit (misfits : parameter.misfit kind argument = some broken) :
    parameter.Refuses kind argument broken := by
  rcases misfit_spec kind parameter argument with ⟨fits, _⟩ | ⟨other, misfits', refuses⟩
  · rw [fits] at misfits
    cases misfits
  · rw [misfits'] at misfits
    cases misfits
    exact refuses

/-- **The first parameter that is missing**: no earlier one is required. -/
theorem missing_of_firstMissing {parameters : List Parameter}
    (missing : firstMissing kind parameters = some broken) :
    ∃ (index : Nat) (parameter : Parameter), parameters[index]? = some parameter ∧
      ¬ parameter.Optional ∧ broken = .missingArgument kind parameter.name ∧
      ∀ (earlier : Nat) other, earlier < index → parameters[earlier]? = some other →
        other.Optional := by
  obtain ⟨parameter, found, rfl⟩ := Option.map_eq_some_iff.mp missing
  obtain ⟨required, index, inside, rfl, first⟩ := List.find?_eq_some_iff_getElem.mp found
  refine ⟨index, _, List.getElem?_eq_getElem inside, fun optional => ?_, rfl, ?_⟩
  · rw [isOptional_iff.mpr optional] at required
    cases required
  · intro earlier other before present
    obtain ⟨_, rfl⟩ := List.getElem?_eq_some_iff.mp present
    have passed := first earlier before
    rw [Bool.not_not] at passed
    exact isOptional_iff.mp passed

theorem firstMissing_eq_none {parameters : List Parameter} :
    firstMissing kind parameters = none ↔ ∀ parameter ∈ parameters, parameter.Optional := by
  simp only [firstMissing, Option.map_eq_none_iff, List.find?_eq_none, ← isOptional_iff,
    Bool.not_eq_true, Bool.not_eq_false']

end Parameter

/-! ### Whole calls -/

namespace Signature

variable {kind : String} {broken : Precondition} {signature : Signature} {outputs : Nat}
  {arguments bound : List Argument}

/-- **Well-formed calls** with arguments in order. -/
structure Fits (signature : Signature) (outputs : Nat) (arguments : List Argument) : Prop where
  results : outputs = signature.results.length
  few : arguments.length ≤ signature.parameters.length
  omitted : ∀ index parameter, arguments.length ≤ index →
    signature.parameters[index]? = some parameter → parameter.Optional
  given : ∀ (index : Nat) parameter argument, signature.parameters[index]? = some parameter →
    arguments[index]? = some argument → parameter.Takes argument

/-- **The contract that a call breaks first**: the one on results, the one on the number of
arguments, the one on the first parameter that is missing, or the one on the first argument that is
not taken. -/
inductive Breaks (signature : Signature) (outputs : Nat) (arguments : List Argument) :
    Precondition → Prop
  | results (differ : outputs ≠ signature.results.length) :
      Breaks signature outputs arguments
        (.resultCount signature.kind signature.results.length outputs)
  | many (results : outputs = signature.results.length)
      (many : signature.parameters.length < arguments.length) :
      Breaks signature outputs arguments
        (.argumentCount signature.kind signature.parameters.length arguments.length)
  | missing (results : outputs = signature.results.length)
      (few : arguments.length ≤ signature.parameters.length) (index : Nat) (parameter : Parameter)
      (omitted : arguments.length ≤ index)
      (here : signature.parameters[index]? = some parameter) (required : ¬ parameter.Optional)
      (first : ∀ earlier other, arguments.length ≤ earlier → earlier < index →
        signature.parameters[earlier]? = some other → other.Optional) :
      Breaks signature outputs arguments (.missingArgument signature.kind parameter.name)
  | given (results : outputs = signature.results.length)
      (few : arguments.length ≤ signature.parameters.length)
      (omitted : ∀ index parameter, arguments.length ≤ index →
        signature.parameters[index]? = some parameter → parameter.Optional)
      (index : Nat) (parameter : Parameter) (argument : Argument) (broken : Precondition)
      (here : signature.parameters[index]? = some parameter)
      (given : arguments[index]? = some argument)
      (refused : parameter.Refuses signature.kind argument broken)
      (first : ∀ earlier other taken, earlier < index →
        signature.parameters[earlier]? = some other → arguments[earlier]? = some taken →
          other.Takes taken) :
      Breaks signature outputs arguments broken

/-- **Nothing is refused** exactly if each argument is taken. -/
theorem firstMisfit_eq_none {parameters : List Parameter} :
    firstMisfit kind parameters arguments = none ↔
      ∀ (index : Nat) parameter argument, parameters[index]? = some parameter →
        arguments[index]? = some argument → parameter.Takes argument := by
  induction parameters generalizing arguments with
  | nil => exact iff_of_true rfl nofun
  | cons parameter parameters ih =>
      cases arguments with
      | nil => exact iff_of_true rfl fun _ _ _ _ => nofun
      | cons argument arguments =>
          rw [firstMisfit, Option.or_eq_none_iff, Parameter.misfit_eq_none, ih]
          constructor
          · rintro ⟨first, rest⟩ (_ | index) other taken here given
            · cases here
              cases given
              exact first
            · exact rest index other taken here given
          · intro each
            exact ⟨each 0 _ _ rfl rfl, fun index => each (index + 1)⟩

/-- **The first argument that is refused**: each earlier one is taken. -/
theorem refused_of_firstMisfit {parameters : List Parameter}
    (refused : firstMisfit kind parameters arguments = some broken) :
    ∃ (index : Nat) (parameter : Parameter) (argument : Argument),
      parameters[index]? = some parameter ∧ arguments[index]? = some argument ∧
      parameter.Refuses kind argument broken ∧
      ∀ (earlier : Nat) other taken, earlier < index → parameters[earlier]? = some other →
        arguments[earlier]? = some taken → other.Takes taken := by
  induction parameters generalizing arguments with
  | nil => cases refused
  | cons parameter parameters ih =>
      cases arguments with
      | nil => cases refused
      | cons argument arguments =>
          rw [firstMisfit] at refused
          cases first : parameter.misfit kind argument with
          | some found =>
              rw [first] at refused
              cases refused
              exact ⟨0, parameter, argument, rfl, rfl, Parameter.refuses_of_misfit first, nofun⟩
          | none =>
              rw [first, Option.none_or] at refused
              obtain ⟨index, other, taken, here, given, refuses, before⟩ := ih refused
              refine ⟨index + 1, other, taken, here, given, refuses, ?_⟩
              rintro (_ | earlier) other' taken' below here' given'
              · cases here'
                cases given'
                exact Parameter.misfit_eq_none.mp first
              · exact before earlier other' taken' (Nat.lt_of_succ_lt_succ below) here' given'

/-- **What is left out is optional**, read off the parameters behind the arguments. -/
theorem firstMissing_drop {count : Nat} :
    Parameter.firstMissing kind (signature.parameters.drop count) = none ↔
      ∀ index parameter, count ≤ index → signature.parameters[index]? = some parameter →
        parameter.Optional := by
  rw [Parameter.firstMissing_eq_none]
  constructor
  · intro each index parameter behind here
    refine each parameter (List.mem_of_getElem? (i := index - count) ?_)
    rwa [List.getElem?_drop, Nat.add_sub_cancel' behind]
  · intro each parameter member
    obtain ⟨index, here⟩ := List.mem_iff_getElem?.mp member
    rw [List.getElem?_drop] at here
    exact each _ parameter (Nat.le_add_right count index) here

/-- The arguments that are filled in are absent ones, behind those that are given. -/
theorem getElem?_filled {count index : Nat} {argument : Argument}
    (there : (arguments ++ List.replicate count .absent)[index]? = some argument) :
    arguments[index]? = some argument ∨ arguments.length ≤ index ∧ argument = .absent := by
  by_cases given : index < arguments.length
  · rw [List.getElem?_append_left given] at there
    exact Or.inl there
  · have behind := Nat.le_of_not_lt given
    rw [List.getElem?_append_right behind] at there
    exact Or.inr ⟨behind, List.eq_of_mem_replicate (List.mem_of_getElem? there)⟩

/-- **Filling in absent arguments** refuses nothing, if what is left out is optional. -/
theorem firstMisfit_filled {count : Nat}
    (omitted : ∀ index parameter, arguments.length ≤ index →
      signature.parameters[index]? = some parameter → parameter.Optional) :
    firstMisfit kind signature.parameters (arguments ++ List.replicate count .absent) = none ↔
      ∀ (index : Nat) parameter argument, signature.parameters[index]? = some parameter →
        arguments[index]? = some argument → parameter.Takes argument := by
  rw [firstMisfit_eq_none]
  constructor
  · intro each index parameter argument here given
    refine each index parameter argument here ?_
    rwa [List.getElem?_append_left (List.getElem?_eq_some_iff.mp given).1]
  · intro each index parameter argument here there
    rcases getElem?_filled there with given | ⟨behind, rfl⟩
    · exact each index parameter argument here given
    · exact .absent (omitted index parameter behind here)

/-- **A call is bound** exactly if it is well formed. -/
theorem bound_iff_fits :
    (∃ bound, signature.bindArguments outputs arguments = .ok bound) ↔
      signature.Fits outputs arguments := by
  constructor
  · rintro ⟨bound, binds⟩
    obtain ⟨results, few, present, fit, rfl⟩ := bindArguments_eq_ok.mp binds
    have omitted := firstMissing_drop.mp present
    exact ⟨results, few, omitted, (firstMisfit_filled omitted).mp fit⟩
  · intro fits
    exact ⟨_, bindArguments_eq_ok.mpr ⟨fits.results, fits.few, firstMissing_drop.mpr fits.omitted,
      (firstMisfit_filled fits.omitted).mpr fits.given, rfl⟩⟩

/-- **A call that is not bound** breaks a contract, and is refused for the first one. -/
theorem breaks_of_bindArguments
    (refused : signature.bindArguments outputs arguments = .error broken) :
    signature.Breaks outputs arguments broken := by
  unfold bindArguments at refused
  split at refused
  · next differ =>
      cases refused
      exact .results differ
  next same =>
  have results := Decidable.not_not.mp same
  split at refused
  · next many =>
      cases refused
      exact .many results many
  next notMany =>
  have few := Nat.le_of_not_lt notMany
  cases missing : Parameter.firstMissing signature.kind
      (signature.parameters.drop arguments.length) with
  | some first =>
      simp only [missing, Option.some_or] at refused
      cases refused
      obtain ⟨index, parameter, here, required, rfl, before⟩ :=
        Parameter.missing_of_firstMissing missing
      rw [List.getElem?_drop] at here
      refine .missing results few _ parameter (Nat.le_add_right _ index) here required ?_
      intro earlier other omitted below there
      refine before (earlier - arguments.length) other (by omega) ?_
      rwa [List.getElem?_drop, Nat.add_sub_cancel' omitted]
  | none =>
      have omitted := firstMissing_drop.mp missing
      simp only [missing, Option.none_or] at refused
      split at refused
      · next first misfit =>
          cases refused
          obtain ⟨index, parameter, argument, here, there, refuses, before⟩ :=
            refused_of_firstMisfit misfit
          rcases getElem?_filled there with given | ⟨behind, rfl⟩
          · refine .given results few omitted index parameter argument _ here given refuses ?_
            intro earlier other taken below here' given'
            refine before earlier other taken below here' ?_
            rwa [List.getElem?_append_left (List.getElem?_eq_some_iff.mp given').1]
          · exact absurd (.absent (omitted index parameter behind here)) refuses.not_takes
      · cases refused

/-- **What is bound** is bound again as it is. -/
theorem bindArguments_again (binds : signature.bindArguments outputs arguments = .ok bound) :
    signature.bindArguments outputs bound = .ok bound := by
  obtain ⟨results, _, _, fit, _⟩ := bindArguments_eq_ok.mp binds
  have full := (bindArguments_ok binds).2.1
  refine bindArguments_eq_ok.mpr ⟨results, Nat.le_of_eq full, ?_, fit, ?_⟩
  · rw [full, List.drop_length]
    rfl
  · rw [full, List.drop_length, List.length_nil, List.replicate_zero, List.append_nil]

end Signature

/-- A node whose call is refused fails for the contract that it breaks, and leaves the context as it
was. -/
theorem Registry.convert_refused {registry : Registry} {node : OperatorNode}
    {entry : RegistryEntry} {arguments : List Argument} {broken : Precondition}
    (registered : registry.find? node.kind = some entry)
    (refused : entry.signature.bindArguments node.outputs.length arguments = .error broken)
    (context : Context) :
    registry.convert node arguments context =
      .error (.ofNode node (.precondition broken)) context := by
  simp only [convert, registered, RegistryEntry.convert, refused]
  rfl

/-- **Calls are bound exactly if they are well formed**, for every signature, node and list of
arguments. What is bound has an argument for each parameter: those that were given, unchanged, and
then absent ones; and it is bound again as it is. Every other call is refused for the contract that
it breaks first, and converting its node fails with that contract and the node's written form. -/
theorem bound_calls (signature : Signature) (node : OperatorNode) (arguments : List Argument) :
    ((∃ bound, signature.bindArguments node.outputs.length arguments = .ok bound) ↔
      signature.Fits node.outputs.length arguments) ∧
    (∀ bound, signature.bindArguments node.outputs.length arguments = .ok bound →
      bound.length = signature.parameters.length ∧
      (∃ count, bound = arguments ++ List.replicate count .absent) ∧
      signature.bindArguments node.outputs.length bound = .ok bound) ∧
    ∀ broken, signature.bindArguments node.outputs.length arguments = .error broken →
      signature.Breaks node.outputs.length arguments broken ∧
      ∀ (registry : Registry) (entry : RegistryEntry) (context : Context),
        registry.find? node.kind = some entry → entry.signature = signature →
          registry.convert node arguments context =
            .error (.ofNode node (.precondition broken)) context := by
  refine ⟨Signature.bound_iff_fits, fun bound binds => ?_, fun broken refused => ?_⟩
  · obtain ⟨_, _, _, _, filled⟩ := Signature.bindArguments_eq_ok.mp binds
    exact ⟨(Signature.bindArguments_ok binds).2.1, ⟨_, filled⟩, Signature.bindArguments_again binds⟩
  · refine ⟨Signature.breaks_of_bindArguments refused, ?_⟩
    rintro registry entry context registered rfl
    exact Registry.convert_refused registered refused context

end OperatorLowering
