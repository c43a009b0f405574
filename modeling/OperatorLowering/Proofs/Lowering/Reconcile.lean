/-
**Reconciling an operand.**

An operand that the primary tensor absorbs is handed back if its rank is the same, and reshaped with
leading ones if its rank is lower. Whether it is absorbed and whether the reshape is accepted are
two questions: the ones in front move every symbol of the operand to another axis, and a reshape
leaves no more than one such symbol to the backend.

* `reconcile_returns_iff`: so not every operand that broadcasts is reconciled;
* `reconcile_settles`: what is returned has the primary's rank, combines with it to its own shape, and
  is handed back as it is from then on.
-/

import OperatorLowering.Lowering.Operands
import OperatorLowering.Proofs.Graph.Ranges
import OperatorLowering.Proofs.Lowering.Reachable
import OperatorLowering.Proofs.Shape.Broadcast

namespace OperatorLowering

/-- At most one symbol of a shape comes to stand where it was not when ones are put in front. -/
def Shape.MovesOne (shape : Shape) (rank : Nat) : Prop :=
  ∀ i j, shape.Moved (shape.padTo rank) i → shape.Moved (shape.padTo rank) j → i = j

/-- No symbol of a shape moves that is long enough. -/
theorem Shape.movesOne_of_length_le {shape : Shape} {rank : Nat} (longEnough : rank ≤ shape.length) :
    shape.MovesOne rank := by
  rintro i j ⟨name, there, gone⟩
  rw [padTo_of_length_le longEnough] at there
  exact absurd there gone

namespace Lower

variable {primary secondary : Handle}

theorem shape_ne_of_lower (lower : secondary.rank < primary.rank) :
    primary.shape ≠ secondary.shape := by
  intro same
  unfold Handle.rank at lower
  rw [same] at lower
  exact Nat.lt_irrefl _ lower

/-- An operand of lower rank that broadcasts is reshaped. -/
theorem reconcile_lower (name : String) (absorbed : primary.shape.absorbs secondary.shape = true)
    (lower : secondary.rank < primary.rank) :
    reconcile primary secondary name = (do
      traceEvent (.reshaped name)
      build (Build.reshape secondary (secondary.shape.padTo primary.rank))) := by
  unfold reconcile
  rw [if_neg (shape_ne_of_lower lower), if_neg (by rw [absorbed]; exact Bool.noConfusion),
    if_neg (Nat.ne_of_lt lower)]

/-- An operand of the same rank that broadcasts stays what it is. -/
theorem reconcile_level (name : String) (absorbed : primary.shape.absorbs secondary.shape = true)
    (level : secondary.rank = primary.rank) : reconcile primary secondary name = pure secondary := by
  unfold reconcile
  by_cases same : primary.shape = secondary.shape
  · rw [if_pos same]
  · rw [if_neg same, if_neg (by rw [absorbed]; exact Bool.noConfusion), if_pos level]

/-- The failure of an operand that does not broadcast. -/
def notBroadcastable (primary secondary : Handle) (name : String) : Failure :=
  .conversion ⟨.shape name primary.shape secondary.shape, none⟩

/-- An operand that does not broadcast is refused, and nothing has changed. -/
theorem reconcile_wider (name : String) (context : Context)
    (wider : primary.shape.absorbs secondary.shape = false) :
    reconcile primary secondary name context =
      .error (notBroadcastable primary secondary name) context := by
  have different : primary.shape ≠ secondary.shape := by
    intro same
    simp [same, Shape.absorbs] at wider
  unfold reconcile
  rw [if_neg different, if_pos wider]
  rfl

/-- An operand that broadcasts is of the same rank or of a lower one. -/
theorem level_or_lower (absorbed : primary.shape.absorbs secondary.shape = true) :
    secondary.rank = primary.rank ∨ secondary.rank < primary.rank :=
  (Nat.lt_or_eq_of_le (Shape.absorbs_iff.mp absorbed).1).symm

end Lower

/-! ### The reshape -/

namespace Build

variable {a : Handle} {shape : Shape} {graph : Graph}

/-- **A reshape that is accepted** gives the shape that was asked for and logs one layer. -/
theorem reshape_logs {output : Handle} {after : Graph}
    (run : reshape a shape graph = .ok output after) :
    output.shape = shape ∧ output.dtype = a.dtype ∧ ∃ layer,
      after.layers = graph.layers ++ [⟨.reshape shape, layer, [a.name], output.name⟩] := by
  obtain ⟨_, typed, additions, adds, grows⟩ := (reshape_ends a shape graph).ok run
  obtain ⟨_, _, type⟩ := Option.map_eq_some_iff.mp typed
  obtain ⟨layer, logged⟩ := Request.layers_of_adds adds
  refine ⟨(congrArg TensorType.shape type).symm, (congrArg TensorType.dtype type).symm, layer, ?_⟩
  rw [grows.layers, logged]
  rfl

/-- An owned tensor is reshaped as its shape allows. -/
theorem reshapeTarget_of_owned (owned : graph.owns a = true) :
    graph.reshapeTarget a shape = a.shape.reshapeTarget shape := by
  rcases graph.requireOwned_bind a (a.shape.reshapeTarget shape) with ⟨_, goesOn⟩ | ⟨foreign, _⟩
  · exact goesOn
  · rw [owned] at foreign
    cases foreign

/-- A padded shape that is a target moves one symbol at most. -/
theorem movesOne_of_reshapeTarget {rank : Nat} {target : List TargetDim}
    (found : shape.reshapeTarget (shape.padTo rank) = .ok target) : shape.MovesOne rank := by
  obtain ⟨_, dims, few⟩ := Shape.reshapeTarget_eq_ok.mp found
  intro i j movedI movedJ
  -- A symbol that has moved is left to the backend, which takes one.
  exact count_le_one_iff.mp few i j ((Shape.inferred_iff dims i).mpr movedI)
    ((Shape.inferred_iff dims j).mpr movedJ)

/-- **Leading ones are refused** in front of an owned tensor if more than one symbol moves. -/
theorem reshape_padTo_refused {rank : Nat} (owned : graph.owns a = true)
    (inRange : a.shape.InRange) (several : ¬ a.shape.MovesOne rank) :
    reshape a (a.shape.padTo rank) graph =
      .error (.rejected (.reshapeUnresolved (a.shape.padTo rank))) graph := by
  cases found : a.shape.reshapeTarget (a.shape.padTo rank) with
  | error fault =>
      rw [Shape.reshapeTarget_padTo_refused inRange found] at found
      exact bind_run_error (inspect_error ((reshapeTarget_of_owned owned).trans found))
  | ok target => exact absurd (movesOne_of_reshapeTarget found) several

/-- **Leading ones are put in front** of an owned tensor exactly if at most one symbol moves. -/
theorem reshape_padTo_returns_iff (rank : Nat) (owned : graph.owns a = true)
    (inRange : a.shape.InRange) :
    (∃ output after, reshape a (a.shape.padTo rank) graph = .ok output after) ↔
      a.shape.MovesOne rank := by
  constructor
  · rintro ⟨output, after, run⟩
    by_contra several
    rw [reshape_padTo_refused owned inRange several] at run
    cases run
  · intro single
    have foreseen : (a.shape.targetIndices? (a.shape.padTo rank)).isSome = true :=
      Shape.targetIndices?_padTo_isSome.mpr ⟨inRange, single⟩
    obtain ⟨indices, found⟩ := Option.isSome_iff_exists.mp foreseen
    have typed : ((Request.reshape a (a.shape.padTo rank)).map Handle.type).type? =
        some ⟨a.shape.padTo rank, a.dtype⟩ := Option.map_eq_some_iff.mpr ⟨indices, found, rfl⟩
    have operands : ∀ tensor ∈ (Request.reshape a (a.shape.padTo rank)).operands,
        graph.owns tensor = true := by
      intro tensor member
      rwa [List.mem_singleton.mp member]
    obtain ⟨output, after, run, _⟩ := Request.accepts operands typed
    exact ⟨output, after, run⟩

end Build

/-! ### What comes of an operand -/

open Lower in
/-- **Not every operand that broadcasts is reconciled.** An owned operand whose known dimensions are
in range is returned, reshaped or not, if and only if it broadcasts and padding it moves one symbol
at most. If it does not broadcast, this is the failure and nothing has changed. If padding moves
more symbols, the graph rejects the reshape, and nothing has changed but the trace. -/
theorem reconcile_returns_iff {primary secondary : Handle} {context : Context} (name : String)
    (owned : context.graph.owns secondary = true) (inRange : secondary.shape.InRange) :
    ((∃ result after, reconcile primary secondary name context = .ok result after) ↔
        primary.shape.absorbs secondary.shape = true ∧ secondary.shape.MovesOne primary.rank) ∧
      (primary.shape.absorbs secondary.shape = false →
        reconcile primary secondary name context =
          .error (notBroadcastable primary secondary name) context) ∧
      (primary.shape.absorbs secondary.shape = true → ¬ secondary.shape.MovesOne primary.rank →
        reconcile primary secondary name context =
          .error (.graph (.rejected (.reshapeUnresolved (secondary.shape.padTo primary.rank))))
            { context with trace := context.trace ++ [.reshaped name] }) := by
  have refused (wider : primary.shape.absorbs secondary.shape = false) :=
    reconcile_wider name context wider
  have rejected (absorbed : primary.shape.absorbs secondary.shape = true)
      (several : ¬ secondary.shape.MovesOne primary.rank) :
      reconcile primary secondary name context =
        .error (.graph (.rejected (.reshapeUnresolved (secondary.shape.padTo primary.rank))))
          { context with trace := context.trace ++ [.reshaped name] } := by
    rcases level_or_lower absorbed with level | lower
    · exact absurd (Shape.movesOne_of_length_le (Nat.le_of_eq level.symm)) several
    · rw [reconcile_lower name absorbed lower]
      refine (bind_run_ok (modify_run _ context)).trans ?_
      exact build_run_error (Build.reshape_padTo_refused owned inRange several)
  refine ⟨⟨?_, ?_⟩, refused, rejected⟩
  · rintro ⟨result, after, run⟩
    cases absorbed : primary.shape.absorbs secondary.shape with
    | false =>
        rw [refused absorbed] at run
        cases run
    | true =>
        refine ⟨rfl, ?_⟩
        by_contra several
        rw [rejected absorbed several] at run
        cases run
  · rintro ⟨absorbed, single⟩
    rcases level_or_lower absorbed with level | lower
    · exact ⟨secondary, context, by rw [reconcile_level name absorbed level]; rfl⟩
    · obtain ⟨output, after, run⟩ :=
        (Build.reshape_padTo_returns_iff primary.rank owned inRange).mpr single
      refine ⟨output, { context with graph := after, trace := context.trace ++ [.reshaped name] }, ?_⟩
      rw [reconcile_lower name absorbed lower]
      refine (bind_run_ok (modify_run _ context)).trans ?_
      exact build_run_ok run

/-- A stack of matrices. -/
def Handle.stack : Handle := ⟨"p", [.symbol "n", .symbol "a", .symbol "b"], .float32⟩

/-- One matrix of the size of those in the stack. -/
def Handle.matrix : Handle := ⟨"s", [.symbol "a", .symbol "b"], .float32⟩

/-- One vector of the size of their rows. -/
def Handle.vector : Handle := ⟨"v", [.symbol "b"], .float32⟩

/-- A graph with the three of them as inputs. -/
def Graph.stacked : Graph :=
  Graph.empty.after ([Handle.stack, Handle.matrix, Handle.vector].map fun tensor =>
    .addInput tensor.name tensor.shape tensor.dtype)

/-- **The matrix broadcasts to the stack**, and their sum needs no reshape; but reconciling asks for
one and fails. -/
theorem matrix_not_reconciled :
    Graph.empty.Reaches .stacked ∧ Graph.stacked.owns .stack = true ∧
      Graph.stacked.owns .matrix = true ∧ Handle.stack.shape.InRange ∧ Handle.matrix.shape.InRange ∧
      Handle.stack.shape.absorbs Handle.matrix.shape = true ∧
      (∃ after, Lower.reconcile .stack .matrix "secondary" ⟨.stacked, .empty, [], []⟩ =
        .error (.graph (.rejected (.reshapeUnresolved [.one, .symbol "a", .symbol "b"]))) after) ∧
      ∃ sum after, Build.elementwise .stack .matrix .sum .stacked = .ok sum after := by
  have symbolic (shape : Shape) (no : ∀ dim ∈ shape, dim.size? = none) : shape.InRange :=
    fun size member => by cases no _ member
  have reached : Graph.empty.Reaches .stacked :=
    (Graph.yields_after .empty _ fun _ _ => trivial : Graph.Yields (fun _ => True) _ _).reaches
  exact ⟨reached, by decide, by decide, symbolic _ (by decide), symbolic _ (by decide), by decide,
    ⟨_, rfl⟩, ⟨_, _, rfl⟩⟩

/-- The vector moves one symbol and is reconciled. -/
theorem vector_reconciled :
    Graph.stacked.owns .vector = true ∧ Handle.vector.shape.InRange ∧
      ∃ result after, Lower.reconcile .stack .vector "secondary" ⟨.stacked, .empty, [], []⟩ =
        .ok result after := by
  have inRange : Handle.vector.shape.InRange := fun size member => by
    cases List.mem_singleton.mp member
  have single : Handle.vector.shape.MovesOne Handle.stack.rank := by
    rintro i j ⟨name, there, _⟩ ⟨name', there', _⟩
    have last (index : Nat) (name : String)
        (there : (Shape.padTo 3 Handle.vector.shape)[index]? = some (.symbol name)) :
        index = 2 := by
      match index with
      | 0 => cases there
      | 1 => cases there
      | 2 => rfl
      | _ + 3 => cases there
    rw [last i name there, last j name' there']
  exact ⟨by decide, inRange, (reconcile_returns_iff "secondary" (by decide) inRange).1.mpr
    ⟨by decide, single⟩⟩

/-- **What reconciling returns**, between the graph before and the graph after it. -/
structure Reconciled (primary secondary result : Handle) (before after : Graph) : Prop where
  /-- The shape of the operand, padded to the rank of the primary tensor. -/
  shape : secondary.shape.pad primary.rank = .ok result.shape
  rank : result.rank = primary.rank
  dtype : result.dtype = secondary.dtype
  /-- The primary tensor keeps its shape when the two are combined. -/
  combines : primary.shape.broadcast? result.shape = some primary.shape
  itself : (result = secondary ∧ after = before) ↔ secondary.rank = primary.rank
  /-- One layer was logged, the reshape of the operand. -/
  reshaped : secondary.rank ≠ primary.rank → ∃ layer, after.layers =
    before.layers ++ [⟨.reshape result.shape, layer, [secondary.name], result.name⟩]
  /-- From then on it is handed back as it is, whatever else becomes of the graph. -/
  settled : ∀ name later, Lower.reconcile primary result name later = .ok result later

/-- A shape that absorbs another can be had by padding that one. -/
theorem Shape.pad_of_absorbs {shape other : Shape} (absorbed : shape.absorbs other = true) :
    other.pad shape.length = .ok (other.padTo shape.length) := by
  have shorter := (Shape.absorbs_iff.mp absorbed).1
  unfold pad
  rw [if_neg (by omega), Int.toNat_natCast]

namespace Reconciled

variable {primary secondary : Handle}

/-- An operand that is handed back. -/
theorem level {graph : Graph} (absorbed : primary.shape.absorbs secondary.shape = true)
    (level : secondary.rank = primary.rank) :
    Reconciled primary secondary secondary graph graph where
  shape := by
    have padded : secondary.shape.pad primary.rank = .ok (secondary.shape.padTo primary.rank) :=
      Shape.pad_of_absorbs absorbed
    rwa [Shape.padTo_of_length_le (Nat.le_of_eq level.symm)] at padded
  rank := level
  dtype := rfl
  combines := Shape.broadcast?_of_absorbs absorbed
  itself := iff_of_true ⟨rfl, rfl⟩ level
  reshaped different := absurd level different
  settled name later := by
    rw [Lower.reconcile_level name absorbed level]
    rfl

/-- An operand that is reshaped. -/
theorem lower {result : Handle} {before after : Graph} {layer : String}
    (absorbed : primary.shape.absorbs secondary.shape = true)
    (lower : secondary.rank < primary.rank)
    (shaped : result.shape = secondary.shape.padTo primary.rank)
    (typed : result.dtype = secondary.dtype) (logged : after.layers = before.layers ++
      [⟨.reshape result.shape, layer, [secondary.name], result.name⟩]) :
    Reconciled primary secondary result before after := by
  have padded : primary.shape.absorbs result.shape = true := by
    rw [shaped]
    exact Shape.absorbs_padTo absorbed
  have level : result.rank = primary.rank := by
    rw [Handle.rank, shaped, Shape.length_padTo]
    exact Nat.max_eq_left (Nat.le_of_lt lower)
  refine ⟨?_, level, typed, Shape.broadcast?_of_absorbs padded, iff_of_false ?_ (Nat.ne_of_lt lower),
    fun _ => ⟨layer, logged⟩, fun name later => ?_⟩
  · rw [shaped]
    exact Shape.pad_of_absorbs absorbed
  · rintro ⟨rfl, _⟩
    exact Nat.ne_of_lt lower level
  · rw [Lower.reconcile_level name padded level]
    rfl

end Reconciled

/-- An operand that broadcasts is reconciled, or the graph is at fault. -/
theorem Lower.reconcile_ends {primary secondary : Handle} (name : String) (context : Context)
    (absorbed : primary.shape.absorbs secondary.shape = true) :
    Ends (reconcile primary secondary name) context
      (fun result after => Reconciled primary secondary result context.graph after.graph)
      (fun failure _ => ∃ fault, failure = .graph fault) := by
  rcases level_or_lower absorbed with level | lower
  · rw [reconcile_level name absorbed level]
    exact Ends.pure (.level absorbed level)
  · rw [reconcile_lower name absorbed lower]
    refine Ends.after_ok (modify_run _ context) ?_
    cases run : Build.reshape secondary (secondary.shape.padTo primary.rank) context.graph with
    | error fault after => exact Ends.of_error (build_run_error run) ⟨fault, rfl⟩
    | ok output after =>
        obtain ⟨shaped, typed, layer, logged⟩ := Build.reshape_logs run
        rw [← shaped] at logged
        exact Ends.of_ok (build_run_ok run) (.lower absorbed lower shaped typed logged)

open Lower in
/-- **Reconciling is settled by one run**, with any two handles in any context. It fails for the
shapes if and only if the operand does not broadcast, and then nothing has changed. What it returns
has the rank of the primary tensor and combines with it to its own shape; it is the operand itself,
or its reshape in one new layer; and it is returned as it is in every later state. -/
theorem reconcile_settles (primary secondary : Handle) (name : String) (context : Context) :
    ((∃ operand expected actual node after, reconcile primary secondary name context =
        .error (.conversion ⟨.shape operand expected actual, node⟩) after) ↔
      primary.shape.absorbs secondary.shape = false) ∧
    (primary.shape.absorbs secondary.shape = false → reconcile primary secondary name context =
      .error (notBroadcastable primary secondary name) context) ∧
    ∀ result after, reconcile primary secondary name context = .ok result after →
      Reconciled primary secondary result context.graph after.graph := by
  have refused (wider : primary.shape.absorbs secondary.shape = false) :=
    reconcile_wider name context wider
  refine ⟨⟨?_, fun wider => ⟨_, _, _, _, _, refused wider⟩⟩, refused, fun result after run => ?_⟩
  · rintro ⟨operand, expected, actual, node, after, run⟩
    refine eq_false_of_ne_true fun absorbed => ?_
    obtain ⟨fault, same⟩ := (reconcile_ends name context absorbed).error run
    cases same
  · cases absorbed : primary.shape.absorbs secondary.shape with
    | false =>
        rw [refused absorbed] at run
        cases run
    | true => exact (reconcile_ends name context absorbed).ok run

end OperatorLowering
