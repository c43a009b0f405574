/-
**Why a node cannot be lowered.**

A conversion error is a cause together with the node it concerns, in the node's written form. A
refused primitive becomes such an error of the node it was for and keeps the rejection. Everything
else that can go wrong is no verdict on a node.

* `ConversionCause.message`: the wording of a cause;
* `ConversionError.message`: with the node behind it, if there is one;
* `Failure.onBehalf`: a failure inside a step on behalf of a node.
-/

import OperatorLowering.Graph.Fault
import OperatorLowering.Operator.Node

namespace OperatorLowering

/-- How the arguments of an operator break its contract. -/
inductive Precondition where
  | absentTensor (argument : String)
  | listForTensor (argument : String) (length : Nat)
  | foreignArgument (argument typeName : String)
  | stateNotList (argument : String)
  | stateLength (argument : String) (length : Nat)
  | symbolicGate (dim : String)
  | indivisibleGate (width : Int)
  | resultCount (kind : String) (results outputs : Nat)
  | argumentCount (kind : String) (parameters arguments : Nat)
  | missingArgument (kind parameter : String)
  | notOptional (kind parameter : String)
  | wrongForm (kind parameter : String) (wantsList : Bool)
  /-- A contract of a caller's own, in the caller's words. -/
  | stated (message : String)
  deriving DecidableEq

/-- The wording of a broken contract. -/
def Precondition.message : Precondition → String
  | .absentTensor argument => s!"Required tensor argument '{argument}' is absent"
  | .listForTensor argument length =>
    s!"Argument '{argument}' must be a single tensor, got a list of {length}"
  | .foreignArgument argument typeName =>
    s!"Argument '{argument}' has unsupported kind {typeName}"
  | .stateNotList argument => s!"Argument '{argument}' must be a tensor list"
  | .stateLength argument length =>
    s!"Argument '{argument}' must hold exactly 2 tensors (hidden, cell), got {length}"
  | .symbolicGate dim => s!"Gate dimension must be static to slice, got '{dim}'"
  | .indivisibleGate width => s!"Gate dimension {width} is not divisible into 4 equal gates"
  | .resultCount kind results outputs =>
    s!"{kind} produces {results} outputs, node declares {outputs}"
  | .argumentCount kind parameters arguments =>
    s!"{kind} takes at most {parameters} arguments, got {arguments}"
  | .missingArgument kind parameter => s!"Missing required argument '{parameter}' of {kind}"
  | .notOptional kind parameter => s!"Argument '{parameter}' of {kind} is not optional"
  | .wrongForm kind parameter wantsList =>
    let wanted := if wantsList then "a tensor list" else "a single tensor"
    s!"Argument '{parameter}' of {kind} must be {wanted}"
  | .stated message => message

/-- Why a layer could not be made. -/
inductive LoweringReason where
  | rejected (reason : Rejection)
  | unbound (values : List String)
  | stated (text : String)
  deriving DecidableEq

/-- The wording of a reason. -/
def LoweringReason.text : LoweringReason → String
  | .rejected reason => reason.message
  | .unbound values => s!"no tensor bound to {OperatorNode.valueList values}"
  | .stated text => text

/-- The cause of a conversion error. -/
inductive ConversionCause where
  /-- A failure of no particular kind. -/
  | general (message : String)
  /-- The arguments break the operator's contract. -/
  | precondition (broken : Precondition)
  /-- An operand does not broadcast to the shape it is combined with. -/
  | shape (operand : String) (expected actual : Shape)
  /-- The graph refused a layer. -/
  | lowering (primitive : String) (reason : Option LoweringReason)
  /-- No converter is registered for the kind. -/
  | unsupported (kind : String)
  deriving DecidableEq

namespace ConversionCause

/-- The wording of a cause; an empty reason is not written. -/
def message : ConversionCause → String
  | .general message => message
  | .precondition broken => broken.message
  | .shape operand expected actual =>
    s!"{operand} with shape {actual.text} is not broadcastable to shape {expected.text}"
  | .lowering primitive reason =>
    let refused := s!"Unable to create {primitive} layer"
    match (reason.map LoweringReason.text).filter (· ≠ "") with
    | some text => s!"{refused}: {text}"
    | none => refused
  | .unsupported kind => s!"No converter registered for operator: {kind}"

end ConversionCause

/-- A failure to convert a node, named by its written form. -/
structure ConversionError where
  cause : ConversionCause
  node : Option String
  deriving DecidableEq

namespace ConversionError

/-- The wording of a conversion error; an empty node is not written. -/
def message (error : ConversionError) : String :=
  match error.node.filter (· ≠ "") with
  | some node => s!"{error.cause.message} (node: {node})"
  | none => error.cause.message

end ConversionError

/-- What a lowering step looks an element up in. -/
inductive Sequence where
  | arguments
  | outputs
  | dimensions
  deriving DecidableEq

/-- Why a lowering step fails. -/
inductive Failure where
  | conversion (error : ConversionError)
  | graph (fault : Fault)
  /-- An argument, output or dimension is not there. -/
  | outOfRange (sequence : Sequence)
  /-- A failure of a caller's own, in the caller's words. -/
  | stated (message : String)
  deriving DecidableEq

namespace Failure

/-- The wording of a failure. -/
def message : Failure → String
  | .conversion error => error.message
  | .graph fault => fault.message
  | .outOfRange .arguments => "list index out of range"
  | .outOfRange .outputs => "tuple index out of range"
  | .outOfRange .dimensions => "tuple index out of range"
  | .stated message => message

/-- The failure of a node for a cause. -/
def ofNode (node : OperatorNode) (cause : ConversionCause) : Failure :=
  .conversion ⟨cause, some node.text⟩

/-- What becomes of a failure inside a step on behalf of a node: a rejection is the node's failure
to make the primitive, and any other failure stays what it is. -/
def onBehalf (node : OperatorNode) (primitive : String) : Failure → Failure
  | .graph (.rejected reason) => .ofNode node (.lowering primitive (some (.rejected reason)))
  | failure => failure

end Failure

end OperatorLowering
