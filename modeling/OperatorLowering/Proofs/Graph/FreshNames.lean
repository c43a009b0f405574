/-
**The search for a free name.**

A name is asked for; while a tensor has it, the next variant of the name is tried. Each try costs
a number. The search looks at no bound of its own. It ends since the variants differ from each other
and from the name: among as many tries as there are names in the table, one is free.

* `Graph.Search`: the search, round by round;
* `Graph.search_uniqueName`: it ends in the name that the graph hands out, within as many rounds as
  the table has names;
* `settled_names`: which name that is, what it costs, and that no step that enters a tensor under it
  finds it taken.
-/

import OperatorLowering.Proofs.Graph.Rejection

namespace OperatorLowering

/-! ### Rounds -/

namespace Graph

/-- **The search for a free name**, from a name that is tried in a graph, by its number of rounds: a
name that no tensor has is found, one that is taken is given up for the next variant of the stem. -/
inductive Search (stem : String) : Nat → String × Graph → String × Graph → Prop
  | found {name : String} {graph : Graph} (free : graph.tensors.contains name = false) :
      Search stem 0 (name, graph) (name, graph)
  | again {name : String} {graph : Graph} {rounds : Nat} {result : String × Graph}
      (taken : graph.tensors.contains name = true)
      (rest : Search stem rounds (graph.freshName stem) result) :
      Search stem (rounds + 1) (name, graph) result

/-- **A search has one end.** -/
theorem Search.functional {stem : String} {rounds rounds' : Nat}
    {start result result' : String × Graph} (search : Search stem rounds start result)
    (other : Search stem rounds' start result') : rounds' = rounds ∧ result' = result := by
  induction search generalizing rounds' with
  | found free =>
      cases other with
      | found _ => exact ⟨rfl, rfl⟩
      | again taken _ => exact absurd (free.symm.trans taken) nofun
  | again taken _ ih =>
      cases other with
      | found free => exact absurd (free.symm.trans taken) nofun
      | again _ rest =>
          obtain ⟨same, ended⟩ := ih rest
          exact ⟨congrArg (· + 1) same, ended⟩

/-- A search past variants that are taken ends at the first one that is free. -/
theorem search_variant {stem name : String} {graph : Graph} (rounds : Nat)
    (taken : graph.tensors.contains name = true)
    (busy : ∀ number, graph.counter < number → number ≤ graph.counter + rounds →
      graph.tensors.contains (variant stem number) = true)
    (free : graph.tensors.contains (variant stem (graph.counter + rounds + 1)) = false) :
    Search stem (rounds + 1) (name, graph) (variant stem (graph.counter + rounds + 1),
      { graph with counter := graph.counter + rounds + 1 }) := by
  refine .again taken ?_
  -- The next try is one number further; the graph that it is made in has the same tensors.
  induction rounds generalizing graph name with
  | zero => exact .found free
  | succ rounds ih =>
      let counted : Graph := { graph with counter := graph.counter + 1 }
      have shift (extra : Nat) : counted.counter + extra = graph.counter + (extra + 1) := by
        show graph.counter + 1 + extra = _
        omega
      have passed : graph.tensors.contains (variant stem (graph.counter + 1)) = true :=
        busy _ (Nat.lt_succ_self _) (by omega)
      have later : ∀ number, counted.counter < number → number ≤ counted.counter + rounds →
          counted.tensors.contains (variant stem number) = true := by
        intro number above within
        rw [shift] at within
        exact busy number (Nat.lt_of_succ_lt above) within
      rw [← shift rounds] at free ⊢
      exact .again passed (@ih _ counted passed later free)

variable (graph : Graph) (name : String)

/-- The first free variant of a name, among the names of a graph. -/
theorem uniqueName_of_taken (taken : graph.tensors.contains name = true) :
    ∃ number, graph.uniqueName name = (variant name number, { graph with counter := number }) ∧
      IsLeast {number | graph.counter < number ∧
        graph.tensors.contains (variant name number) = false} number ∧
      number ≤ graph.counter + graph.tensors.names.toFinset.card := by
  refine ⟨firstFree graph.tensors.names name graph.counter, ?_, ?_, ?_⟩
  · simp only [uniqueName, taken, if_true]
  · have least := firstFree_isLeast graph.tensors.names name graph.counter
    simpa only [← Bool.not_eq_true, NameTable.contains_iff] using least
  · exact firstFree_le ((NameTable.contains_iff _ _).mp taken) graph.counter

/-- **The search ends** in the name that the graph hands out, after as many rounds as the counter
rises: no more than the table has names. -/
theorem search_uniqueName :
    ∃ rounds ≤ graph.tensors.names.toFinset.card,
      Search name rounds (name, graph) (graph.uniqueName name) := by
  cases taken : graph.tensors.contains name with
  | false =>
      refine ⟨0, Nat.zero_le _, ?_⟩
      simp only [uniqueName, taken, Bool.false_eq_true, if_false]
      exact .found taken
  | true =>
      obtain ⟨number, named, ⟨⟨above, free⟩, least⟩, near⟩ := graph.uniqueName_of_taken name taken
      obtain ⟨rounds, rfl⟩ := Nat.exists_eq_add_of_lt above
      refine ⟨rounds + 1, by omega, ?_⟩
      rw [named]
      refine search_variant rounds taken (fun other above within => ?_) free
      by_contra freeOther
      have further := least ⟨above, Bool.eq_false_iff.mpr freeOther⟩
      omega

/-- **The name that a graph settles on** when it is asked for a name, and the graph afterwards. -/
structure Settles (unique : String × Graph) : Prop where
  searched : ∃ rounds ≤ graph.tensors.names.toFinset.card,
    Search name rounds (name, graph) unique ∧
      ∀ rounds' result, Search name rounds' (name, graph) result →
        rounds' = rounds ∧ result = unique
  kept : graph.tensors.contains name = false → unique = (name, graph)
  renamed : graph.tensors.contains name = true → ∃ number,
    unique = (variant name number, { graph with counter := number }) ∧
      IsLeast {number | graph.counter < number ∧
        graph.tensors.contains (variant name number) = false} number ∧
      number ≤ graph.counter + graph.tensors.names.toFinset.card
  free : graph.tensors.contains unique.1 = false
  onlyCounts : ∃ counter, unique.2 = { graph with counter }

theorem settles_uniqueName : graph.Settles name (graph.uniqueName name) where
  searched := by
    obtain ⟨rounds, few, search⟩ := graph.search_uniqueName name
    exact ⟨rounds, few, search, fun _ _ other => search.functional other⟩
  kept free := by simp only [uniqueName, free, Bool.false_eq_true, if_false]
  renamed := graph.uniqueName_of_taken name
  free := graph.uniqueName_free name
  onlyCounts := by
    obtain ⟨counter, _, counted⟩ := graph.uniqueName_graph name
    exact ⟨counter, counted⟩

end Graph

/-! ### Steps that enter a tensor under a settled name -/

/-- The fault says that a tensor's name is already taken. -/
def Fault.AlreadyDefined (fault : Fault) : Prop :=
  ∃ name, fault = .rejected (.nameTaken name)

/-- A step that never finds a name taken: from no graph does it fail for that. -/
def Build.NeverCollides {Value : Type} (step : Build Value) : Prop :=
  ∀ graph, Ends step graph (fun _ _ => True) fun fault _ => ¬ fault.AlreadyDefined

theorem Fault.not_alreadyDefined {reason : Rejection} (other : ∀ name, reason ≠ .nameTaken name) :
    ¬ (Fault.rejected reason).AlreadyDefined := by
  rintro ⟨name, same⟩
  exact other name (Fault.rejected.inj same)

/-- The faults of a check, none of which says that a name is taken. -/
abbrev CollisionFree {Value : Type} (check : Except Fault Value) : Prop :=
  Faults (fun fault => ¬ fault.AlreadyDefined) check

namespace CollisionFree

variable {Value : Type}

theorem refused {reason : Rejection} (other : ∀ name, reason ≠ .nameTaken name) :
    CollisionFree (refuse reason : Except Fault Value) :=
  Faults.error (Fault.not_alreadyDefined other)

theorem requireOwned (graph : Graph) (tensor : Handle) :
    CollisionFree (graph.requireOwned tensor) :=
  .ite (.ok ()) (refused nofun)

theorem elementwiseShape (graph : Graph) (a b : Handle) (op : Elementwise) :
    CollisionFree (graph.elementwiseShape a b op) := by
  refine .bind (requireOwned graph a) fun _ => .bind (requireOwned graph b) fun _ => ?_
  refine .ite (refused nofun) ?_
  split
  · exact .ok _
  · exact refused nofun

theorem activationKind (graph : Graph) (a : Handle) (request : ActivationRequest) :
    CollisionFree (graph.activationKind a request) := by
  refine .bind (requireOwned graph a) fun _ => ?_
  cases request with
  | known kind => exact .ok kind
  | other value => exact refused nofun

theorem productShape (graph : Graph) (a b : Handle) (transposeA transposeB : Bool) :
    CollisionFree (graph.productShape a b transposeA transposeB) := by
  have product (first second : MatrixShape) : CollisionFree (first.product second) := by
    refine .ite (refused nofun) ?_
    split
    · exact .ok _
    · exact refused nofun
  refine .bind (requireOwned graph a) fun _ => .bind (requireOwned graph b) fun _ => ?_
  split
  · exact .ite (refused nofun) (product _ _)
  · exact refused nofun

theorem targetDims (shape newShape : Shape) (axis : Nat) :
    CollisionFree (shape.targetDims axis newShape) := by
  induction newShape generalizing axis with
  | nil => exact .ok []
  | cons dim rest ih =>
      refine .bind ?_ fun _ => .bind (ih (axis + 1)) fun _ => .ok _
      cases dim with
      | size size => exact .ite (refused nofun) (.ok _)
      | symbol name => exact .ok _

theorem reshapeTarget (graph : Graph) (a : Handle) (newShape : Shape) :
    CollisionFree (graph.reshapeTarget a newShape) := by
  have volumes : CollisionFree (a.shape.requireSameVolume newShape) := by
    unfold Shape.requireSameVolume
    split
    · exact .ite (.ok ()) (refused nofun)
    · exact .ok ()
  refine .bind (requireOwned graph a) fun _ => .bind volumes fun _ => ?_
  exact .bind (targetDims _ _ 0) fun _ => .ite (refused nofun) (.ok _)

theorem sliceSpans (graph : Graph) (a : Handle) (offsets : List (Option Int))
    (sizes : List SizeRequest) (strides : List (Option Int)) :
    CollisionFree (graph.sliceSpans a offsets sizes strides) :=
  sliceSpans_faults (fun _ other => Fault.not_alreadyDefined other) nofun (fun _ => nofun) graph a
    offsets sizes strides

theorem toIndex (number : Number) : CollisionFree number.toIndex := by
  cases number with
  | integer value => exact .ite (.ok _) (.error nofun)
  | real value => exact .ite (refused nofun) (.ite (.error nofun) (.ite (.ok _) (.error nofun)))

theorem requireCode (dtype : ElementType) : CollisionFree dtype.requireCode := by
  unfold ElementType.requireCode
  split
  · exact .ok _
  · exact refused nofun

theorem requireEmbeddable (value : Literal) : CollisionFree value.requireEmbeddable := by
  unfold Literal.requireEmbeddable
  split
  · exact .error nofun
  · exact .ite (refused nofun) (.ite (refused nofun) (.ite (.error nofun) (.ok ())))

end CollisionFree

namespace Build.NeverCollides

variable {Value Next : Type}

theorem bind {step : Build Value} {next : Value → Build Next} (first : NeverCollides step)
    (second : ∀ value, NeverCollides (next value)) : NeverCollides (step >>= next) :=
  fun graph => (first graph).bind fun value after _ => second value after

theorem inspect {check : Graph → Except Fault Value}
    (harmless : ∀ graph, CollisionFree (check graph)) : NeverCollides (Build.inspect check) := by
  intro graph
  cases answer : check graph with
  | ok value => exact Ends.of_ok (inspect_ok answer) trivial
  | error fault => exact Ends.of_error (inspect_error answer) (harmless graph fault answer)

theorem freshName (stem : String) : NeverCollides (Build.freshName stem) :=
  fun graph => Ends.of_ok (freshName_run stem graph) trivial

theorem declareFresh (name : String) (shape : Shape) (dtype : ElementType) :
    NeverCollides (Build.declareFresh name shape dtype) := by
  intro graph
  obtain ⟨_, _, _, _, declared⟩ := declareFresh_run name shape dtype graph
  exact Ends.of_ok declared trivial

/-- A constant takes the name that was settled on for it, whatever is checked in between. -/
theorem embedUnique (name : String) (value : ConstantValue) {check : Graph → Except Fault Unit}
    (harmless : ∀ graph, CollisionFree (check graph)) :
    NeverCollides (do
      let unique ← Build.uniqueName name
      Build.inspect check
      embed unique value) := by
  intro graph
  obtain ⟨unique, counter, _, free, named⟩ := uniqueName_run name graph
  refine Ends.after_ok named ?_
  cases answer : check { graph with counter } with
  | ok _ =>
      obtain ⟨_, embedded, _⟩ := embed_run unique value { graph with counter } free
      exact Ends.after_ok (inspect_ok answer) (Ends.of_ok embedded trivial)
  | error fault =>
      exact Ends.of_error (bind_run_error (inspect_error answer)) (harmless _ fault answer)

theorem freeze (value : Literal) (name : Option String) :
    NeverCollides (Build.freeze value name) := by
  have embeds (stem : String) : NeverCollides (do
      let unique ← Build.uniqueName stem
      Build.inspect fun _ => value.requireEmbeddable
      embed unique (.ofLiteral value)) :=
    embedUnique stem (.ofLiteral value) fun _ => CollisionFree.requireEmbeddable value
  unfold Build.freeze
  refine .bind (.inspect fun _ => CollisionFree.requireCode value.dtype) fun _ => ?_
  split
  · exact embeds _
  · exact .bind (.freshName "const") fun generated => embeds generated

theorem embedIndices (layer role : String) (values : List Int) :
    NeverCollides (Build.embedIndices layer role values) := by
  intro graph
  cases fits : values.all fitsIndex with
  | true =>
      obtain ⟨_, _, embedded, _⟩ := embedIndices_run layer role values graph fits
      exact Ends.of_ok embedded trivial
  | false => exact Ends.of_error (embedIndices_refused layer role values graph fits) nofun

theorem factor (swap : Bool) (tensor : Handle) (matrix : MatrixShape) (layer operand : String) :
    NeverCollides (Build.factor swap tensor matrix layer operand) := by
  cases swap with
  | false => exact fun _ => trivial
  | true => exact .bind (.declareFresh _ _ _) fun _ => fun _ => trivial

theorem append (layer : String) (primitive : Primitive) (operands : List Handle)
    (reads : List String) (shape : Shape) (dtype : ElementType) :
    NeverCollides (Build.append layer primitive operands reads shape dtype) :=
  fun graph => append_never_fails layer primitive operands reads shape dtype graph

/-- **Every call but the declaration of an input** enters its tensors under settled names. -/
theorem build (call : Call) (noInput : ∀ name shape dtype, call ≠ .addInput name shape dtype) :
    NeverCollides call.build := by
  cases call with
  | addInput name shape dtype => exact absurd rfl (noInput name shape dtype)
  | freeze value name => exact freeze value name
  | matmul a b transposeA transposeB =>
      refine .bind (.inspect (CollisionFree.productShape · a b _ _)) fun product => ?_
      refine .bind (.freshName _) fun layer => .bind (factor _ _ _ _ _) fun first => ?_
      exact .bind (factor _ _ _ _ _) fun second => append _ _ _ _ _ _
  | elementwise a b op =>
      refine .bind (.inspect (CollisionFree.elementwiseShape · a b op)) fun shape => ?_
      exact .bind (.freshName _) fun layer => append _ _ _ _ _ _
  | slice a offsets sizes strides =>
      refine .bind (.inspect (CollisionFree.sliceSpans · a _ _ _)) fun spans => ?_
      refine .bind (.freshName _) fun layer => .bind (embedIndices _ _ _) fun starts => ?_
      refine .bind (.inspect fun _ => .mapM _ CollisionFree.toIndex) fun stops => ?_
      refine .bind (embedIndices _ _ _) fun ends => .bind (embedIndices _ _ _) fun axes => ?_
      exact .bind (embedIndices _ _ _) fun steps => append _ _ _ _ _ _
  | activation a request =>
      refine .bind (.inspect (CollisionFree.activationKind · a request)) fun kind => ?_
      exact .bind (.freshName _) fun layer => append _ _ _ _ _ _
  | reshape a shape =>
      refine .bind (.inspect (CollisionFree.reshapeTarget · a shape)) fun target => ?_
      refine .bind (.freshName _) fun layer => ?_
      exact .bind (embedIndices _ _ _) fun indices => append _ _ _ _ _ _

end Build.NeverCollides

/-- **Names settle.** In every graph, whatever its tensors and its counter, a name that is asked for
settles as `Graph.Settles` says: the search ends, in the name itself or in its least free variant. A
tensor that is then entered under it finds it free, so neither the constants of a layer, nor a
transposed operand, nor any call but the declaration of an input fails because a name is taken. -/
theorem settled_names :
    (∀ (graph : Graph) (name : String), graph.Settles name (graph.uniqueName name)) ∧
      (∀ name shape dtype, (Build.declareFresh name shape dtype).NeverCollides) ∧
      (∀ layer role values, (Build.embedIndices layer role values).NeverCollides) ∧
      (∀ swap tensor matrix layer operand,
        (Build.factor swap tensor matrix layer operand).NeverCollides) ∧
      ∀ call : Call, (∀ name shape dtype, call ≠ .addInput name shape dtype) →
        call.build.NeverCollides :=
  ⟨Graph.settles_uniqueName, .declareFresh, .embedIndices, .factor, .build⟩

end OperatorLowering
