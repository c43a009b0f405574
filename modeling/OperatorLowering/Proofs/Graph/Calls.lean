/-
**Calls and programs of calls.**

A call on a graph may be accepted, refused by its check, or stopped between two constants. An
accepted call makes the additions of `Call.Adds`; any other call adds constants at most. In all
cases the graph it leaves has grown from the one it was made on: nothing is taken back, renamed or
entered twice. A program makes one call after the other and goes on with what each of them leaves.

* `Call.build_ends`: how every call ends, with any arguments;
* `Graph.Yields`: what programs of calls make of a graph;
* `Graph.Yields.keeps`: what accepted calls and constants keep, whole programs keep.
-/

import Mathlib.Logic.Relation
import OperatorLowering.Proofs.Graph.Acceptance
import OperatorLowering.Proofs.Graph.Sources

namespace OperatorLowering

/-- A graph grew into another by some additions. -/
def Graph.Grown (before after : Graph) : Prop :=
  ∃ additions, before.Grows additions after

namespace Graph.Grown

theorem refl (graph : Graph) : graph.Grown graph :=
  ⟨[], Grows.refl graph⟩

theorem trans {before middle after : Graph} (first : before.Grown middle)
    (second : middle.Grown after) : before.Grown after := by
  obtain ⟨additions, firstGrows⟩ := first
  obtain ⟨more, secondGrows⟩ := second
  exact ⟨additions ++ more, firstGrows.trans secondGrows⟩

theorem keeps_contains {before after : Graph} (grown : before.Grown after) {name : String}
    (there : before.tensors.contains name = true) : after.tensors.contains name = true := by
  obtain ⟨additions, grows⟩ := grown
  exact grows.keeps_contains there

theorem keeps_owns {before after : Graph} (grown : before.Grown after) {tensor : Handle}
    (owned : before.owns tensor = true) : after.owns tensor = true := by
  obtain ⟨additions, grows⟩ := grown
  exact grows.keeps_owns owned

end Graph.Grown

/-- The calls on a graph, with any arguments. -/
inductive Call where
  | addInput (name : String) (shape : Shape) (dtype : ElementType)
  | freeze (value : Literal) (name : Option String)
  | matmul (a b : Handle) (transposeA transposeB : Bool)
  | elementwise (a b : Handle) (op : Elementwise)
  | slice (a : Handle) (offsets : List (Option Int)) (sizes : List SizeRequest)
    (strides : List (Option Int))
  | activation (a : Handle) (request : ActivationRequest)
  | reshape (a : Handle) (shape : Shape)

/-- The call that asks for a primitive. -/
def Request.call : Request Handle → Call
  | .matmul a b transposeA transposeB => .matmul a b transposeA transposeB
  | .elementwise a b op => .elementwise a b op
  | .slice a offsets sizes strides =>
    .slice a (offsets.map some) (sizes.map .dim) (strides.map some)
  | .activation a kind => .activation a kind
  | .reshape a shape => .reshape a shape

namespace Call

/-- Make a call. -/
def build : Call → Build Handle
  | .addInput name shape dtype => Build.addInput name shape dtype
  | .freeze value name => Build.freeze value name
  | .matmul a b transposeA transposeB => Build.matmul a b transposeA transposeB
  | .elementwise a b op => Build.elementwise a b op
  | .slice a offsets sizes strides => Build.slice a offsets sizes strides
  | .activation a request => Build.activation a request
  | .reshape a shape => Build.reshape a shape

/-- The tensors that a call works on. -/
def operands : Call → List Handle
  | .addInput _ _ _ => []
  | .freeze _ _ => []
  | .matmul a b _ _ => [a, b]
  | .elementwise a b _ => [a, b]
  | .slice a _ _ _ => [a]
  | .activation a _ => [a]
  | .reshape a _ => [a]

/-- A call without doubles: a slice asks for integers and symbols alone. -/
def Exact : Call → Prop
  | .slice _ _ sizes _ => ∀ value, .real value ∉ sizes
  | _ => True

theorem exact_request (request : Request Handle) : request.call.Exact := by
  cases request with
  | slice a offsets sizes strides =>
      intro value member
      obtain ⟨size, _, same⟩ := List.mem_map.mp member
      cases same
  | matmul a b transposeA transposeB => trivial
  | elementwise a b op => trivial
  | activation a kind => trivial
  | reshape a shape => trivial

theorem build_request (request : Request Handle) : request.call.build = request.build := by
  cases request <;> rfl

theorem operands_request (request : Request Handle) : request.call.operands = request.operands := by
  cases request <;> rfl

/-- **The additions of an accepted call** that gives `output`. -/
inductive Adds : Call → Handle → List Addition → Prop
  | input (name : String) (shape : Shape) (dtype : ElementType) :
      Adds (.addInput name shape dtype) ⟨name, shape, dtype⟩ [.input ⟨name, shape, dtype⟩]
  | literal (value : Literal) (given : Option String) (name : String) :
      Adds (.freeze value given) (Constant.tensor ⟨name, .ofLiteral value⟩)
        [.constant ⟨name, .ofLiteral value⟩]
  | request (request : Request Handle) (output : Handle) (additions : List Addition)
      (unsliced : request.primitive.kind ≠ .slice)
      (typed : (request.map Handle.type).type? = some output.type)
      (adds : request.Adds output additions) : Adds request.call output additions
  | slice (a output : Handle) (offsets : List (Option Int)) (sizes : List SizeRequest)
      (strides : List (Option Int)) (spans : List Span) (indices : SliceIndices)
      (layer starts ends axes steps : String) (asked : a.spans offsets sizes strides = .ok spans)
      (fit : Span.indices? spans = some indices)
      (typed : output.type = ⟨spans.map Span.size, a.dtype⟩) :
      Adds (.slice a offsets sizes strides) output
        (sliceAdditions a spans indices layer starts ends axes steps output)

/-- **An accepted call without doubles** adds an input, a literal, or what a request adds. -/
theorem Adds.cases_of_exact {call : Call} {output : Handle} {additions : List Addition}
    (adds : call.Adds output additions) (exact : call.Exact) :
    (∃ tensor, additions = [.input tensor]) ∨
      (∃ name value, additions = [.constant ⟨name, .ofLiteral value⟩]) ∨
        ∃ request : Request Handle, request.operands = call.operands ∧
          (request.map Handle.type).type? = some output.type ∧ request.Adds output additions := by
  cases adds with
  | input name shape dtype => exact Or.inl ⟨_, rfl⟩
  | literal value given name => exact Or.inr (Or.inl ⟨name, value, rfl⟩)
  | request request _ _ _ typed adds =>
      exact Or.inr (Or.inr ⟨request, (operands_request request).symm, typed, adds⟩)
  | slice a _ offsets sizes strides spans indices layer starts ends axes steps asked fit typed =>
      have accepted := Handle.spans?_of_exact asked exact
      refine Or.inr (Or.inr ⟨.slice a (spans.map Span.start) (spans.map Span.size)
        (spans.map Span.step), rfl, ?_, .slice a output _ _ _ spans indices layer starts ends axes
          steps accepted fit⟩)
      rw [typed]
      simp only [Request.map, Request.type?, Handle.type, accepted, Option.bind_some, fit,
        Option.map_some]

/-- A graph accepted a call with `output`. -/
structure Accepted (call : Call) (before : Graph) (output : Handle) (after : Graph) : Prop where
  owned : ∀ tensor ∈ call.operands, before.owns tensor = true
  grows : ∃ additions, call.Adds output additions ∧ before.Grows additions after

/-- A graph has grown by constants alone. -/
def Refused (before after : Graph) : Prop :=
  ∃ constants : List Constant, before.Grows (constants.map Addition.constant) after

/-! ### The calls -/

variable {graph : Graph}

theorem request_ends (request : Request Handle) (graph : Graph)
    (unsliced : request.primitive.kind ≠ .slice) :
    Ends request.call.build graph (request.call.Accepted graph) (fun _ => Refused graph) := by
  rw [build_request]
  refine (request.build_ends graph).mono ?_ fun _ _ refused => refused.grows
  rintro output after ⟨owned, typed, additions, adds, grows⟩
  rw [← operands_request] at owned
  exact ⟨owned, additions, .request request output additions unsliced typed adds, grows⟩

theorem slice_ends (a : Handle) (offsets : List (Option Int)) (sizes : List SizeRequest)
    (strides : List (Option Int)) (graph : Graph) :
    Ends (build (.slice a offsets sizes strides)) graph
      (Accepted (.slice a offsets sizes strides) graph) (fun _ => Refused graph) := by
  refine (Build.slice_accepts_or_refuses a offsets sizes strides graph).mono ?_ ?_
  · rintro output after ⟨owned, spans, indices, asked, fit, typed, layer, starts, ends, axes, steps,
      grows⟩
    refine ⟨fun tensor member => ?_, _, .slice a output offsets sizes strides spans indices layer
      starts ends axes steps asked fit typed, grows⟩
    rwa [List.mem_singleton.mp member]
  · rintro fault after (_ | ⟨_, _, _, constants, _, _, _, grows⟩)
    · exact ⟨[], Graph.Grows.refl graph⟩
    · exact ⟨constants, grows⟩

theorem activation_ends (a : Handle) (request : ActivationRequest) (graph : Graph) :
    Ends (build (.activation a request)) graph (Accepted (.activation a request) graph)
      (fun _ => Refused graph) := by
  cases request with
  | known kind => exact request_ends (.activation a kind) graph nofun
  | other value =>
      obtain ⟨fault, fails⟩ : ∃ fault, graph.activationKind a (.other value) = .error fault := by
        rcases graph.requireOwned_bind a (refuse (.unsupportedActivation value)) with
          ⟨_, refused⟩ | ⟨_, refused⟩
        · exact ⟨_, refused⟩
        · exact ⟨_, refused⟩
      exact Ends.of_error (bind_run_error (Build.inspect_error fails))
        ⟨[], Graph.Grows.refl graph⟩

theorem addInput_ends (name : String) (shape : Shape) (dtype : ElementType) (graph : Graph) :
    Ends (build (.addInput name shape dtype)) graph (Accepted (.addInput name shape dtype) graph)
      (fun _ => Refused graph) := by
  refine (Build.addInput_ends name shape dtype graph).mono ?_ ?_
  · rintro tensor after ⟨rfl, grows⟩
    exact ⟨nofun, _, .input name shape dtype, grows⟩
  · rintro fault after ⟨_, rfl⟩
    exact ⟨[], Graph.Grows.refl after⟩

theorem freeze_ends (value : Literal) (name : Option String) (graph : Graph) :
    Ends (build (.freeze value name)) graph (Accepted (.freeze value name) graph)
      (fun _ => Refused graph) := by
  refine (Build.freeze_ends value name graph).mono ?_ ?_
  · rintro tensor after ⟨_, same, grows⟩
    rw [same]
    exact ⟨nofun, _, .literal value name tensor.name, grows⟩
  · rintro fault after (⟨_, rfl⟩ | ⟨_, _, counter, rises, rfl, _⟩)
    · exact ⟨[], Graph.Grows.refl after⟩
    · exact ⟨[], .done graph counter rises⟩

/-- **Every call** is accepted, or adds constants at most. -/
theorem build_ends (call : Call) (graph : Graph) :
    Ends call.build graph (call.Accepted graph) (fun _ => Refused graph) := by
  cases call with
  | addInput name shape dtype => exact addInput_ends name shape dtype graph
  | freeze value name => exact freeze_ends value name graph
  | matmul a b transposeA transposeB =>
      exact request_ends (.matmul a b transposeA transposeB) graph nofun
  | elementwise a b op => exact request_ends (.elementwise a b op) graph nofun
  | slice a offsets sizes strides => exact slice_ends a offsets sizes strides graph
  | activation a request => exact activation_ends a request graph
  | reshape a shape => exact request_ends (.reshape a shape) graph nofun

end Call

/-! ### Programs -/

namespace Graph

/-- **What programs make of a graph** with calls that are allowed, whatever each call ends in. -/
def Yields (allowed : Call → Prop) : Graph → Graph → Prop :=
  Relation.ReflTransGen fun before after => ∃ call, allowed call ∧ after = final call.build before

/-- The graph after some calls, whatever each of them ends in. -/
def after (graph : Graph) (calls : List Call) : Graph :=
  calls.foldl (fun before call => final call.build before) graph

/-- Calls one after the other are a program. -/
theorem yields_after {allowed : Call → Prop} (graph : Graph) (calls : List Call)
    (permitted : ∀ call ∈ calls, allowed call) : graph.Yields allowed (graph.after calls) := by
  induction calls generalizing graph with
  | nil => exact .refl
  | cons call rest ih =>
      exact .head ⟨call, permitted call List.mem_cons_self, rfl⟩
        (ih _ fun later member => permitted later (List.mem_cons_of_mem call member))

namespace Yields

variable {allowed : Call → Prop} {first after : Graph}

/-- **What every accepted call keeps**, and constants keep, a program keeps. -/
theorem keeps {holds : Graph → Prop} (yields : first.Yields allowed after)
    (accepted : ∀ call before output additions later, allowed call →
      (∀ tensor ∈ call.operands, before.owns tensor = true) → call.Adds output additions →
        before.Grows additions later → holds before → holds later)
    (refused : ∀ before (constants : List Constant) later,
      before.Grows (constants.map Addition.constant) later → holds before → holds later)
    (start : holds first) : holds after := by
  induction yields with
  | refl => exact start
  | tail _ step held =>
      obtain ⟨call, permitted, rfl⟩ := step
      refine ((call.build_ends _).mono ?_ ?_).final
      · rintro output later ⟨owned, additions, adds, grows⟩
        exact accepted call _ output additions later permitted owned adds grows held
      · rintro _ later ⟨constants, grows⟩
        exact refused _ constants later grows held

/-- A program of calls that are allowed is one where more are. -/
theorem mono {more : Call → Prop} (yields : first.Yields allowed after)
    (allows : ∀ call, allowed call → more call) : first.Yields more after :=
  Relation.ReflTransGen.mono
    (fun _ _ ⟨call, permitted, made⟩ => ⟨call, allows call permitted, made⟩) _ _ yields

/-- **Every program** lets its graph grow. -/
theorem grown (yields : first.Yields allowed after) : first.Grown after :=
  yields.keeps (fun _ _ _ additions _ _ _ _ grows held => held.trans ⟨additions, grows⟩)
    (fun _ _ _ grows held => held.trans ⟨_, grows⟩) (Grown.refl first)

end Yields

end Graph

end OperatorLowering
