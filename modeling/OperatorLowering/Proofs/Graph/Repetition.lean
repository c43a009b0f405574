/-
**Calls that are accepted again.**

A graph accepts a call for the types of its operands, as long as it owns them. So a call that one
graph accepted is accepted by every graph that owns operands of the same types, and gives a tensor
of the same type.

* `Graph.Makes`: a tensor is made that is like another one;
* `Call.makes`: it is by each accepted call that declares no input;
* `Request.accepted_again`, `Build.slice_accepted_again`, `Build.freeze_accepted_again`: the calls.
-/

import OperatorLowering.Proofs.Graph.Extension

namespace OperatorLowering

/-- **A graph grows by a tensor** of the type of another one, that has a name. It declares no input.
-/
structure Graph.Makes (before : Graph) (like output : Handle) (after : Graph) : Prop where
  grown : before.Grown after
  inputs : after.inputs = before.inputs
  owned : after.owns output = true
  named : output.name ≠ ""
  type : like.type = output.type

/-! ### Generated names -/

theorem variant_ne_empty (stem : String) (number : Nat) : variant stem number ≠ "" := by
  unfold variant
  simp [toString]

/-- A graph hands out no empty name unless it is asked for one. -/
theorem Graph.uniqueName_ne_empty (graph : Graph) {name : String} (named : name ≠ "") :
    (graph.uniqueName name).1 ≠ "" := by
  unfold uniqueName
  split
  · exact variant_ne_empty _ _
  · exact named

namespace Build

variable {Value : Type}

/-- Whatever tensor a step gives has a name. -/
def Names (step : Build Handle) : Prop :=
  ∀ graph, Ends step graph (fun output _ => output.name ≠ "") (fun _ _ => True)

theorem names_bind {step : Build Value} {next : Value → Build Handle}
    (names : ∀ value, Names (next value)) : Names (step >>= next) :=
  fun graph => ((ends_final step graph).mono (fun _ _ _ => trivial) (fun _ _ _ => trivial)).bind
    fun value after _ => names value after

theorem names_declare {name : String} (named : name ≠ "") (shape : Shape) (dtype : ElementType) :
    Names (declare name shape dtype) := by
  intro graph
  cases taken : graph.tensors.contains name with
  | true =>
      have refused : declare name shape dtype graph =
          .error (.rejected (.nameTaken name)) graph := by
        simp only [declare, taken, if_true]
      exact Ends.of_error refused trivial
  | false => exact Ends.of_ok (declare_run shape dtype taken) named

theorem names_append (layer : String) (primitive : Primitive) (operands : List Handle)
    (reads : List String) (shape : Shape) (dtype : ElementType) :
    Names (append layer primitive operands reads shape dtype) := by
  intro graph
  have stem : s!"{layer}_out" ≠ "" := by simp [toString]
  have declared : Ends (declareFresh s!"{layer}_out" shape dtype) graph
      (fun output _ => output.name ≠ "") (fun _ _ => True) :=
    Ends.after_ok rfl (names_declare (graph.uniqueName_ne_empty stem) shape dtype _)
  refine declared.bind fun output after named => ?_
  exact Ends.after_ok (emit_run _ _) (Ends.after_ok (record_run _ _) (Ends.pure named))

theorem names_slice (a : Handle) (offsets : List (Option Int)) (sizes : List SizeRequest)
    (strides : List (Option Int)) : Names (slice a offsets sizes strides) :=
  names_bind fun _ => names_bind fun _ => names_bind fun _ => names_bind fun _ =>
    names_bind fun _ => names_bind fun _ => names_bind fun _ => names_append _ _ _ _ _ _

/-- **The result of a request has a name.** -/
theorem names_request (request : Request Handle) : Names request.build := by
  cases request with
  | matmul a b transposeA transposeB =>
      exact names_bind fun _ => names_bind fun _ => names_bind fun _ => names_bind fun _ =>
        names_append _ _ _ _ _ _
  | elementwise a b op => exact names_bind fun _ => names_bind fun _ => names_append _ _ _ _ _ _
  | slice a offsets sizes strides => exact names_slice _ _ _ _
  | activation a kind => exact names_bind fun _ => names_bind fun _ => names_append _ _ _ _ _ _
  | reshape a shape =>
      exact names_bind fun _ => names_bind fun _ => names_bind fun _ => names_append _ _ _ _ _ _

/-- The constant of a literal has a name, even if it was given none. -/
theorem names_freeze (value : Literal) (name : Option String) : Names (freeze value name) := by
  have embedded {given : String} (named : given ≠ "") : Names (do
      let name ← uniqueName given
      inspect fun _ => value.requireEmbeddable
      embed name (.ofLiteral value)) := by
    intro graph
    refine Ends.after_ok rfl (names_bind (fun _ => ?_) _)
    intro graph'
    refine (names_declare (graph.uniqueName_ne_empty named) _ _ graph').bind ?_
    exact fun tensor after named => Ends.after_ok rfl (Ends.pure named)
  refine names_bind fun _ graph => ?_
  cases given : name.filter (· ≠ "") with
  | some found =>
      obtain ⟨_, named⟩ := Option.filter_eq_some_iff.mp given
      exact embedded (of_decide_eq_true named) graph
  | none => exact Ends.after_ok rfl (embedded (variant_ne_empty _ _) _)

end Build

/-! ### Calls -/

/-- **What a call gives** is a tensor of the graph. -/
theorem Call.Accepted.owns {call : Call} {before after : Graph} {output : Handle}
    (accepted : call.Accepted before output after) : after.owns output = true := by
  obtain ⟨_, additions, adds, grows⟩ := accepted
  have entered : ∃ addition ∈ additions, addition.tensor? = some output := by
    cases adds with
    | input name shape dtype => exact ⟨_, List.mem_cons_self, rfl⟩
    | literal value given name => exact ⟨_, List.mem_cons_self, rfl⟩
    | request request _ _ _ _ adds => exact Request.output_of_adds adds
    | slice =>
        obtain ⟨addition, added, entered⟩ := Request.mem_ending _ _ _ _ output
        exact ⟨addition, List.mem_append_right _ added, entered⟩
  obtain ⟨addition, added, entered⟩ := entered
  exact (grows.enters added entered).2

/-- **A call that is accepted** makes a tensor, if it gives it a name and declares no input. -/
theorem Call.makes {call : Call} {graph later : Graph} {like output : Handle}
    (run : call.build graph = .ok output later)
    (undeclared : ∀ name shape dtype, call ≠ .addInput name shape dtype)
    (named : Build.Names call.build) (type : like.type = output.type) :
    graph.Makes like output later where
  grown := by
    obtain ⟨additions, _, grows⟩ := ((call.build_ends graph).ok run).grows
    exact ⟨additions, grows⟩
  inputs := (Call.inputs_of_undeclared undeclared graph).ok run
  owned := ((call.build_ends graph).ok run).owns
  named := (named graph).ok run
  type := type

/-- **A request is accepted again** with operands of the same types. -/
theorem Request.accepted_again {request request' : Request Handle} {before after graph : Graph}
    {output : Handle} (accepted : request.Accepted before output after)
    (same : request.map Handle.type = request'.map Handle.type)
    (owned : ∀ tensor ∈ request'.operands, graph.owns tensor = true) :
    ∃ output' later, request'.build graph = .ok output' later ∧
      graph.Makes output output' later := by
  have typed := accepted.typed
  rw [same] at typed
  obtain ⟨output', later, run, type, _⟩ := Request.accepts owned typed
  refine ⟨output', later, run, ?_⟩
  have undeclared (name : String) (shape : Shape) (dtype : ElementType) :
      request'.call ≠ .addInput name shape dtype := by
    cases request' <;> nofun
  have called := Call.build_request request'
  exact Call.makes (called ▸ run) undeclared (called ▸ Build.names_request request') type.symm

namespace Build

/-- A slice is accepted again, of a tensor of the same type. -/
theorem slice_accepted_again {a a' output : Handle} {offsets : List (Option Int)}
    {sizes : List SizeRequest} {strides : List (Option Int)} {before after graph : Graph}
    (accepted : SliceAccepted a offsets sizes strides before output after)
    (same : a.type = a'.type) (owned : graph.owns a' = true) :
    ∃ output' later, slice a' offsets sizes strides graph = .ok output' later ∧
      graph.Makes output output' later := by
  obtain ⟨_, spans, indices, asked, fit, typed, _⟩ := accepted
  have shape : a.shape = a'.shape := congrArg TensorType.shape same
  have rank : a.rank = a'.rank := congrArg List.length shape
  have asked' : a'.spans offsets sizes strides = .ok spans := by
    rw [← asked, Handle.spans, Handle.spans, shape, rank]
  cases run : slice a' offsets sizes strides graph with
  | error fault later =>
      cases (slice_accepts_or_refuses a' offsets sizes strides graph).error run with
      | checked _ fails =>
          rw [Graph.sliceSpans_eq_ok.mpr ⟨owned, asked'⟩] at fails
          cases fails
      | unfit found _ _ _ asked unfit =>
          rw [asked'] at asked
          cases asked
          rw [fit] at unfit
          cases unfit
  | ok output' later =>
      obtain ⟨_, spans', _, asked, _, typed', _⟩ :=
        (slice_accepts_or_refuses a' offsets sizes strides graph).ok run
      rw [asked'] at asked
      cases asked
      have type : output.type = output'.type := by
        rw [typed, typed', show a.dtype = a'.dtype from congrArg TensorType.dtype same]
      exact ⟨output', later, rfl, @Call.makes (.slice a' offsets sizes strides) _ _ _ _ run nofun
        (names_slice a' offsets sizes strides) type⟩

/-- A literal is accepted again. -/
theorem freeze_accepted_again {value : Literal} {name : Option String} {output : Handle}
    {before after : Graph} (accepted : freeze value name before = .ok output after)
    (graph : Graph) :
    ∃ output' later, freeze value name graph = .ok output' later ∧
      graph.Makes output output' later := by
  obtain ⟨embeddable, made, _⟩ := (freeze_ends value name before).ok accepted
  cases run : freeze value name graph with
  | error fault later =>
      rcases (freeze_ends value name graph).error run with ⟨untyped, _⟩ | ⟨_, refused, _⟩
      · have refused : freeze value name before = .error fault before :=
          bind_run_error (inspect_error untyped)
        rw [refused] at accepted
        cases accepted
      · rw [embeddable] at refused
        cases refused
  | ok output' later =>
      obtain ⟨_, made', _⟩ := (freeze_ends value name graph).ok run
      have type : output.type = output'.type := by
        rw [made, made']
        rfl
      exact ⟨output', later, rfl, @Call.makes (.freeze value name) _ _ _ _ run nofun
        (names_freeze value name) type⟩

end Build

end OperatorLowering
