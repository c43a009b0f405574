/-
**How a run ends.**

A step on a graph or on a lowering's context ends in a value or in a failure, and in a state either
way. `Ends step before done failed` says which values and states, and which failures and states, a
run from `before` may end in. A run of two steps ends as the second one does, or as the first one if
that fails (`Ends.bind`).
-/

namespace OperatorLowering

variable {Error State Value Next : Type} {step : EStateM Error State Value}
  {next : Value → EStateM Error State Next} {before after : State}

/-- Two checks that both pass. -/
theorem except_bind_eq_ok {check : Except Error Value} {next : Value → Except Error Next}
    {result : Next} :
    (check >>= next) = .ok result ↔ ∃ value, check = .ok value ∧ next value = .ok result := by
  cases check with
  | ok value =>
      exact ⟨fun passes => ⟨value, rfl, passes⟩, fun ⟨_, same, passes⟩ => Except.ok.inj same ▸ passes⟩
  | error error => exact iff_of_false nofun nofun

theorem except_bind_ok {check : Except Error Value} {next : Value → Except Error Next}
    {result : Next} (passes : (check >>= next) = .ok result) :
    ∃ value, check = .ok value ∧ next value = .ok result :=
  except_bind_eq_ok.mp passes

/-- A check in front of another one. -/
theorem except_check_eq_ok {check : Except Error Unit} {next : Unit → Except Error Next}
    {result : Next} :
    (check >>= next) = .ok result ↔ check = .ok () ∧ next () = .ok result :=
  except_bind_eq_ok.trans ⟨fun ⟨_, passes⟩ => passes, fun passes => ⟨(), passes⟩⟩

/-- A check passes on a list if it passes on each member. -/
theorem forM_passes_iff {Item : Type} {check : Item → Except Error Unit} {items : List Item} :
    items.forM check = .ok () ↔ ∀ item ∈ items, check item = .ok () := by
  induction items with
  | nil => exact iff_of_true rfl nofun
  | cons first rest ih =>
      rw [List.forall_mem_cons, ← ih]
      exact except_check_eq_ok

theorem bind_run_ok {value : Value} (run : step before = .ok value after) :
    (step >>= next) before = next value after := by
  simp only [bind, EStateM.bind, run]

theorem bind_run_error {error : Error} (run : step before = .error error after) :
    (step >>= next) before = .error error after := by
  simp only [bind, EStateM.bind, run]

/-- Two steps give a value if the first one does and the second one behind it. -/
theorem bind_run_eq_ok {result : Next} :
    (step >>= next) before = .ok result after ↔
      ∃ value middle, step before = .ok value middle ∧ next value middle = .ok result after := by
  cases run : step before with
  | ok value middle =>
      rw [bind_run_ok run]
      exact ⟨fun rest => ⟨value, middle, rfl, rest⟩, fun ⟨_, _, same, rest⟩ => by
        cases same
        exact rest⟩
  | error error middle =>
      rw [bind_run_error run]
      exact iff_of_false nofun nofun

theorem modify_run (change : State → State) (before : State) :
    (modify change : EStateM Error State PUnit) before = .ok ⟨⟩ (change before) :=
  rfl

/-- The run of a step from a state ends in a value and a state that are `done`, or in a failure and
a state that `failed` allows. -/
def Ends (step : EStateM Error State Value) (before : State) (done : Value → State → Prop)
    (failed : Error → State → Prop) : Prop :=
  match step before with
  | .ok value after => done value after
  | .error error after => failed error after

namespace Ends

variable {done done' : Value → State → Prop} {failed failed' : Error → State → Prop}

theorem of_ok {value : Value} (run : step before = .ok value after) (holds : done value after) :
    Ends step before done failed := by
  unfold Ends
  rw [run]
  exact holds

theorem of_error {error : Error} (run : step before = .error error after)
    (holds : failed error after) : Ends step before done failed := by
  unfold Ends
  rw [run]
  exact holds

theorem ok (ends : Ends step before done failed) {value : Value}
    (run : step before = .ok value after) : done value after := by
  unfold Ends at ends
  rwa [run] at ends

theorem error (ends : Ends step before done failed) {error : Error}
    (run : step before = .error error after) : failed error after := by
  unfold Ends at ends
  rwa [run] at ends

theorem mono (ends : Ends step before done failed)
    (weakerDone : ∀ value after, done value after → done' value after)
    (weakerFailed : ∀ error after, failed error after → failed' error after) :
    Ends step before done' failed' := by
  unfold Ends at ends ⊢
  cases run : step before with
  | ok value after => exact weakerDone value after (by rwa [run] at ends)
  | error error after => exact weakerFailed error after (by rwa [run] at ends)

/-- A value that is handed on leaves the state alone. -/
theorem pure {value : Value} (holds : done value before) :
    Ends (Pure.pure value) before done failed :=
  holds

/-- **Two steps**: the second one starts where the first one ends. -/
theorem bind {final : Next → State → Prop} (first : Ends step before done failed)
    (second : ∀ value after, done value after → Ends (next value) after final failed) :
    Ends (step >>= next) before final failed := by
  unfold Ends at first
  cases run : step before with
  | ok value after =>
      rw [run] at first
      have rest := second value after first
      unfold Ends at rest ⊢
      rwa [bind_run_ok run]
  | error error after =>
      rw [run] at first
      exact of_error (bind_run_error run) first

/-- A first step that is known to give a value. -/
theorem after_ok {done : Next → State → Prop} {value : Value}
    (run : step before = .ok value after) (rest : Ends (next value) after done failed) :
    Ends (step >>= next) before done failed := by
  unfold Ends at rest ⊢
  rwa [bind_run_ok run]

end Ends

/-- The state in which a run ends, with a value or with a failure. -/
def final (step : EStateM Error State Value) (before : State) : State :=
  match step before with
  | .ok _ after => after
  | .error _ after => after

/-- A run ends in its final state. -/
theorem ends_final (step : EStateM Error State Value) (before : State) :
    Ends step before (fun _ after => after = final step before)
      (fun _ after => after = final step before) := by
  unfold Ends final
  cases step before <;> rfl

/-- What holds of the states of both endings holds of the final state. -/
theorem Ends.final {holds : State → Prop}
    (ends : Ends step before (fun _ => holds) (fun _ => holds)) : holds (final step before) := by
  unfold Ends at ends
  unfold OperatorLowering.final
  cases run : step before <;> rwa [run] at ends

end OperatorLowering
