/-
**Converters and their registry.**

A registry holds one entry for each operator kind, in the order in which the kinds were first
registered; registering a kind again replaces its entry. Converting a node looks up its kind, binds
its arguments against the registered signature, runs the converter, and collects the tensors bound
to the node's outputs.

Arguments are positional. Omitted ones at the end must be optional and become absent. Then each
argument must fit its parameter: an absent one needs an optional parameter, a list needs a list
parameter, and anything else a parameter that is no list. Counts are looked at first, then missing
arguments, then the fit, from left to right.

* `Signature.bindArguments`: one argument for each parameter, or the first broken contract;
* `Registry.register`: the registry with one more entry, or why its signature is none;
* `Registry.convert`: the conversion of a node;
* `Registry.standard`: the registry of the LSTM cell;
* `Converter.idle`, `Converter.forward`, `Converter.sum`: converters that need one primitive at most.
-/

import OperatorLowering.Lowering.Failure
import OperatorLowering.Lowering.LstmCell
import OperatorLowering.Operator.SignatureText
import OperatorLowering.Operator.ValueType

namespace OperatorLowering

/-! ### Binding arguments to parameters -/

/-- Parameters left out must be optional; the first that is not breaks the contract. -/
def Parameter.firstMissing (kind : String) (parameters : List Parameter) : Option Precondition :=
  (parameters.find? fun parameter => !parameter.type.isOptional).map fun parameter =>
    .missingArgument kind parameter.name

/-- How an argument fails to fit a parameter, if it does. -/
def Parameter.misfit (kind : String) (parameter : Parameter) (argument : Argument) :
    Option Precondition :=
  if argument.isAbsent then
    if parameter.type.isOptional then none else some (.notOptional kind parameter.name)
  else if parameter.type.isList = argument.isList then none
  else some (.wrongForm kind parameter.name parameter.type.isList)

namespace Signature

/-- The first misfit of arguments with their parameters. -/
def firstMisfit (kind : String) : List Parameter → List Argument → Option Precondition
  | parameter :: parameters, argument :: arguments =>
    (parameter.misfit kind argument).or (firstMisfit kind parameters arguments)
  | _, _ => none

/-- One argument for each parameter, omitted ones absent; or the first broken contract. -/
def bindArguments (signature : Signature) (outputs : Nat) (arguments : List Argument) :
    Except Precondition (List Argument) :=
  let omitted := signature.parameters.drop arguments.length
  let bound := arguments ++ List.replicate omitted.length .absent
  if outputs ≠ signature.results.length then
    .error (.resultCount signature.kind signature.results.length outputs)
  else if signature.parameters.length < arguments.length then
    .error (.argumentCount signature.kind signature.parameters.length arguments.length)
  else
    match (Parameter.firstMissing signature.kind omitted).or
        (firstMisfit signature.kind signature.parameters bound) with
    | some broken => .error broken
    | none => .ok bound

end Signature

/-! ### The registry -/

/-- A converter appends what computes a node and binds the node's outputs. -/
abbrev Converter := OperatorNode → List Argument → Lower Unit

/-- A registered converter with the signature it implements, as written and as read. -/
structure RegistryEntry where
  text : String
  signature : Signature
  converter : Converter

/-- Convert a node as an entry says: with its signature and its converter. -/
def RegistryEntry.convert (entry : RegistryEntry) (node : OperatorNode)
    (arguments : List Argument) : Lower (NameTable Handle) :=
  match entry.signature.bindArguments node.outputs.length arguments with
  | .error broken => Lower.violate node broken
  | .ok bound => do
    Lower.traceEvent (.converting node)
    entry.converter node bound
    Lower.requireOutputs node

/-- Converters under the kinds they convert. -/
structure Registry where
  entries : NameTable RegistryEntry

namespace Registry

/-- The registry without entries. -/
def empty : Registry := ⟨.empty⟩

/-- The entry of a kind. -/
def find? (registry : Registry) (kind : String) : Option RegistryEntry :=
  registry.entries.get? kind

/-- The kind has an entry. -/
def contains (registry : Registry) (kind : String) : Bool :=
  registry.entries.contains kind

/-- The number of registered kinds. -/
def size (registry : Registry) : Nat :=
  registry.entries.names.length

/-- The registered signatures as they were written. -/
def signatureTexts (registry : Registry) : List String :=
  registry.entries.values.map RegistryEntry.text

/-- The registry with an entry under the kind of its signature. -/
def insert (registry : Registry) (entry : RegistryEntry) : Registry :=
  ⟨registry.entries.insert entry.signature.kind entry⟩

/-- The registry with a converter for a signature, and what was registered; or why the text is no
signature. -/
def register (registry : Registry) (text : String) (converter : Converter) :
    Except SignatureFault (Registry × TraceEvent) := do
  let signature ← Signature.ofText text
  return (registry.insert ⟨text, signature, converter⟩, .registered signature.kind)

/-- Convert a node with the converter of its kind. -/
def convert (registry : Registry) (node : OperatorNode) (arguments : List Argument) :
    Lower (NameTable Handle) :=
  match registry.find? node.kind with
  | none => Lower.fail node (.unsupported node.kind)
  | some entry => entry.convert node arguments

end Registry

/-! ### The LSTM cell -/

/-- The signature of an LSTM cell as it is registered. -/
def lstmCellText : String :=
  "aten::lstm_cell(Tensor input, Tensor[] hx, Tensor w_ih, Tensor w_hh, " ++
    "Tensor? b_ih=None, Tensor? b_hh=None) -> (Tensor, Tensor)"

/-- The type of a single tensor. -/
def ValueType.tensor : ValueType := .base .tensor

/-- The signature of an LSTM cell. -/
def lstmCellSignature : Signature where
  kind := "aten::lstm_cell"
  parameters :=
    [⟨"input", .tensor⟩, ⟨"hx", .list .tensor⟩, ⟨"w_ih", .tensor⟩, ⟨"w_hh", .tensor⟩,
      ⟨"b_ih", .optional .tensor⟩, ⟨"b_hh", .optional .tensor⟩]
  results := [.tensor, .tensor]

/-- The text of the LSTM cell's signature reads as that signature. -/
theorem ofText_lstmCellText : Signature.ofText lstmCellText = .ok lstmCellSignature := by
  have read : (Signature.ofText lstmCellText).toOption = some lstmCellSignature := by
    decide +kernel
  cases result : Signature.ofText lstmCellText <;> simp_all [Except.toOption]

/-- The registry of the converters that the library has: the LSTM cell's. -/
def Registry.standard : Registry :=
  Registry.empty.insert ⟨lstmCellText, lstmCellSignature, Lower.convertLstmCell⟩

/-- What was registered in the standard registry. -/
def Registry.standardEvents : List TraceEvent :=
  [.registered lstmCellSignature.kind]

/-! ### Small converters -/

namespace Converter

/-- Does nothing, and so serves a node without outputs. -/
def idle : Converter := fun _ _ => pure ()

/-- Binds every output of the node to its first argument. -/
def forward : Converter := fun node arguments => do
  let tensor ← Lower.resolveTensor (← Lower.argumentAt arguments 0) "self" node
  node.outputs.forM fun value => discard (Lower.associate value tensor)

/-- Binds the first output of the node to the sum of its first argument and, if it is there, its
second. -/
def sum : Converter := fun node arguments => do
  let first ← Lower.resolveTensor (← Lower.argumentAt arguments 0) "self" node
  let second ← Lower.resolveOptional (← Lower.argumentAt arguments 1) "other" node
  let total ← match second with
    | some second => Lower.addBias first second "other" node
    | none => pure first
  discard (Lower.associate (← Lower.outputAt node 0) total)

/-- Converts an LSTM cell. -/
def lstmCell : Converter := Lower.convertLstmCell

end Converter

end OperatorLowering
