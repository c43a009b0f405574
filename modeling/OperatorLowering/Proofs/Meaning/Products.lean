/-
**Products of stacks of matrices.**

A product takes two stacks of matrices of any ranks. If a flag is set, the operand goes through a
node that exchanges its last two axes. The batches broadcast, and each entry of the result is the
sum of the products along a row of the first operand and a column of the second one, where rows and
columns of a transposed operand are exchanged:

* `Tensor.transpose?_stack`, `Tensor.matmul?_stacks`: the two operators on stacks;
* `Build.matmul_refuses`: the grounds for which a product is refused;
* `matmul_multiplies`: accepted products, what they compute, and when there is none.
-/

import OperatorLowering.Proofs.Meaning.Request
import OperatorLowering.Proofs.Meaning.Shapes
import OperatorLowering.Proofs.Shape.Order

namespace OperatorLowering

variable {Element : Type} {sizes : String → Nat}

/-! ### Entries of stacks -/

/-- The place of an entry of a matrix in a stack whose last two axes may be exchanged. -/
def Index.entry (swap : Bool) (stacked : List Nat) (row column : Nat) : List Nat :=
  stacked ++ if swap then [column, row] else [row, column]

/-- The parts of an index vector of a stack. -/
theorem Index.stack_parts {stacked : List Nat} {rank : Nat} (row column : Nat)
    (length : stacked.length = rank) :
    (stacked ++ [row, column]).take rank = stacked ∧
      (stacked ++ [row, column]).getD rank 0 = row ∧
        (stacked ++ [row, column]).getD (rank + 1) 0 = column := by
  subst length
  refine ⟨List.take_left, ?_, ?_⟩
  · simp [List.getD_eq_getElem?_getD]
  · simp [List.getD_eq_getElem?_getD]

/-- Where the axes of a stack stand after the exchange. -/
theorem idxOf_swapLastTwoAxes (rank : Nat) :
    (∀ axis < rank, (swapLastTwoAxes (rank + 2)).idxOf axis = axis) ∧
      (swapLastTwoAxes (rank + 2)).idxOf rank = rank + 1 ∧
        (swapLastTwoAxes (rank + 2)).idxOf (rank + 1) = rank := by
  have order : swapLastTwoAxes (rank + 2) = List.range rank ++ [rank + 1, rank] := rfl
  rw [order]
  refine ⟨fun axis inside => ?_, ?_, ?_⟩
  · rw [List.idxOf_append_of_mem (List.mem_range.mpr inside)]
    have there : axis < (List.range rank).length := by rwa [List.length_range]
    have found := List.nodup_range.idxOf_getElem axis there
    rwa [List.getElem_range] at found
  · rw [List.idxOf_append_of_notMem List.not_mem_range_self, List.length_range]
    simp
  · rw [List.idxOf_append_of_notMem (by simp), List.length_range]
    simp

namespace Tensor

/-- The last two axes of a stack are exchanged, and its entries with them. -/
theorem transpose?_stack {tensor : Tensor Element} {batch : List Nat} {rows columns : Nat}
    (dims : tensor.dims = batch ++ [rows, columns]) :
    ∃ transposed, tensor.transpose? (swapLastTwoAxes (batch.length + 2)) = some transposed ∧
      transposed.dims = batch ++ [columns, rows] ∧
      ∀ stacked : List Nat, stacked.length = batch.length → ∀ row column,
        transposed.entry (stacked ++ [row, column]) = tensor.entry (stacked ++ [column, row]) := by
  let perm := swapLastTwoAxes (batch.length + 2)
  let transposed : Tensor Element := {
    dims := batch ++ [columns, rows]
    entry := fun index => tensor.entry ((List.range tensor.dims.length).map fun axis =>
      index.getD (perm.idxOf axis) 0) }
  have exchanged := transposeDims?_swap batch rows columns
  unfold transposeDims? at exchanged
  split at exchanged
  case isFalse => cases exchanged
  case isTrue valid =>
    refine ⟨transposed, ?_, rfl, ?_⟩
    · unfold transpose?
      rw [dims, if_pos valid, Option.some.inj exchanged, ← dims]
    · intro stacked length row column
      obtain ⟨_, isRow, isColumn⟩ := Index.stack_parts row column length
      obtain ⟨front, first, second⟩ := idxOf_swapLastTwoAxes batch.length
      refine congrArg tensor.entry ?_
      rw [dims, List.length_append, List.length_cons, List.length_singleton, List.range_succ,
        List.range_succ, List.map_append, List.map_append]
      have stays : (List.range batch.length).map
          (fun axis => (stacked ++ [row, column]).getD (perm.idxOf axis) 0) = stacked := by
        refine List.ext_getElem (by simp [length]) fun axis _ inside => ?_
        rw [List.getElem_map, List.getElem_range, front axis (length ▸ inside),
          List.getD_eq_getElem _ _ (by rw [List.length_append]; omega),
          List.getElem_append_left inside]
      rw [stays, List.map_singleton, List.map_singleton, first, second, isRow, isColumn,
        List.append_assoc]
      rfl

/-- **Stacks that multiply** do so matrix by matrix, where their batches broadcast. -/
theorem matmul?_stacks (arithmetic : Arithmetic Element) {a b : Tensor Element}
    {first second batch : List Nat} {rows inner columns : Nat}
    (dimsA : a.dims = first ++ [rows, inner]) (dimsB : b.dims = second ++ [inner, columns])
    (batches : broadcastDims? first second = some batch) :
    ∃ product, a.matmul? arithmetic b = some product ∧ product.dims = batch ++ [rows, columns] ∧
      ∀ stacked : List Nat, stacked.length = batch.length → ∀ row column,
        product.entry (stacked ++ [row, column]) = arithmetic.sum inner fun position =>
          arithmetic.mul (a.entry (Index.broadcast first stacked ++ [row, position]))
            (b.entry (Index.broadcast second stacked ++ [position, column])) := by
  have reversed (batch : List Nat) (rows columns : Nat) :
      (batch ++ [rows, columns]).reverse = columns :: rows :: batch.reverse :=
    List.reverse_append
  let product : Tensor Element := {
    dims := batch ++ [rows, columns]
    entry := fun index => arithmetic.sum inner fun position => arithmetic.mul
      (a.entry (Index.broadcast first (index.take batch.length) ++
        [index.getD batch.length 0, position]))
      (b.entry (Index.broadcast second (index.take batch.length) ++
        [position, index.getD (batch.length + 1) 0])) }
  refine ⟨product, ?_, rfl, ?_⟩
  · unfold matmul?
    rw [dimsA, dimsB, reversed, reversed]
    simp only [if_true, List.reverse_reverse, batches, Option.map_some]
    rfl
  · intro stacked length row column
    obtain ⟨front, isRow, isColumn⟩ := Index.stack_parts row column length
    show arithmetic.sum inner (fun position => arithmetic.mul (a.entry _) (b.entry _)) = _
    rw [front, isRow, isColumn]

end Tensor

/-! ### Factors -/

theorem MatrixShape.batch_transposeIf (stack : MatrixShape) (swap : Bool) :
    (stack.transposeIf swap).batch = stack.batch := by
  cases swap <;> rfl

/-- The dimensions of a stack, its batch in front. -/
theorem MatrixShape.under_toShape (stack : MatrixShape) :
    stack.toShape.under sizes =
      stack.batch.under sizes ++ [stack.rows.under sizes, stack.columns.under sizes] := by
  rw [toShape, Shape.under_append]
  rfl

/-- **A factor of a product** has the dimensions of its stack, and the entries of the operand, rows
and columns exchanged if its flag is set. -/
theorem Request.factor?_stack {value : TypedTensor Element} {stack : MatrixShape}
    (shaped : value.type.shape = stack.toShape)
    (dims : value.tensor.dims = value.type.shape.under sizes) (swap : Bool) :
    ∃ factor, factor? swap value = some factor ∧
      factor.dims = (stack.transposeIf swap).toShape.under sizes ∧
      ∀ stacked : List Nat, stacked.length = stack.batch.length → ∀ row column,
        factor.entry (stacked ++ [row, column]) =
          value.tensor.entry (Index.entry swap stacked row column) := by
  cases swap with
  | false => exact ⟨value.tensor, rfl, by rw [dims, shaped]; rfl, fun _ _ _ _ => rfl⟩
  | true =>
      obtain ⟨transposed, found, transposedDims, entries⟩ :=
        Tensor.transpose?_stack (dims.trans (shaped ▸ stack.under_toShape))
      have rank : value.type.shape.length = (stack.batch.under sizes).length + 2 := by
        rw [shaped, Shape.length_under]
        exact List.length_append
      refine ⟨transposed, ?_, ?_, fun stacked length row column => ?_⟩
      · rw [factor?, if_pos rfl, rank, found]
      · rw [transposedDims, MatrixShape.under_toShape]
        rfl
      · exact entries stacked (length.trans (Shape.length_under sizes stack.batch).symm) row column

/-- An entry of a stack lies within its dimensions, wherever its last two axes stand. -/
theorem Index.within_entry {stack : MatrixShape} {swap : Bool} {stacked : List Nat}
    {row column : Nat} (front : Index.Within (stack.batch.under sizes) stacked)
    (above : row < (stack.transposeIf swap).rows.under sizes)
    (left : column < (stack.transposeIf swap).columns.under sizes) :
    Index.Within (stack.toShape.under sizes) (Index.entry swap stacked row column) := by
  rw [stack.under_toShape]
  cases swap with
  | false => exact List.rel_append front (.cons above (.cons left .nil))
  | true => exact List.rel_append front (.cons left (.cons above .nil))

/-! ### Values of products -/

/-- **The entries of a product** of two operands, once symbols have sizes. -/
def Tensor.Multiplies (arithmetic : Arithmetic Element) (sizes : String → Nat)
    (first second : MatrixShape) (batch : Shape) (transposeA transposeB : Bool)
    (x y result : Tensor Element) : Prop :=
  ∀ stacked row column, Index.Within (batch.under sizes) stacked →
    row < (first.transposeIf transposeA).rows.under sizes →
    column < (second.transposeIf transposeB).columns.under sizes →
    let rowOf (position : Nat) := Index.entry transposeA
      (Index.broadcast (first.batch.under sizes) stacked) row position
    let columnOf (position : Nat) := Index.entry transposeB
      (Index.broadcast (second.batch.under sizes) stacked) position column
    let inner := (first.transposeIf transposeA).columns.under sizes
    result.entry (stacked ++ [row, column]) = (arithmetic.sum inner fun position =>
      arithmetic.mul (x.entry (rowOf position)) (y.entry (columnOf position))) ∧
    ∀ position < inner, Index.Within (first.toShape.under sizes) (rowOf position) ∧
      Index.Within (second.toShape.under sizes) (columnOf position)

/-- **The value of a product** of two operands whose inner dimensions are the same and whose batches
broadcast. -/
theorem Request.denote?_matmul (arithmetic : Arithmetic Element) (sizes : String → Nat)
    {a b : TypedTensor Element} {first second : MatrixShape} {batch : Shape}
    {transposeA transposeB : Bool} (isA : a.type.shape = first.toShape)
    (isB : b.type.shape = second.toShape)
    (inner : (first.transposeIf transposeA).columns = (second.transposeIf transposeB).rows)
    (batches : first.batch.broadcast? second.batch = some batch)
    (dimsA : a.tensor.dims = a.type.shape.under sizes)
    (dimsB : b.tensor.dims = b.type.shape.under sizes) :
    ∃ result, (Request.matmul a b transposeA transposeB).denote? arithmetic = some result ∧
      result.dims = Shape.under sizes (batch ++ [(first.transposeIf transposeA).rows,
        (second.transposeIf transposeB).columns]) ∧
      Tensor.Multiplies arithmetic sizes first second batch transposeA transposeB a.tensor b.tensor
        result := by
  obtain ⟨left, factorA, leftDims, leftEntries⟩ := factor?_stack isA dimsA transposeA
  obtain ⟨right, factorB, rightDims, rightEntries⟩ := factor?_stack isB dimsB transposeB
  rw [MatrixShape.under_toShape, MatrixShape.batch_transposeIf] at leftDims rightDims
  rw [← inner] at rightDims
  obtain ⟨result, multiplied, dims, entries⟩ :=
    Tensor.matmul?_stacks arithmetic leftDims rightDims (broadcastDims?_under batches)
  refine ⟨result, ?_, ?_, ?_⟩
  · show (factor? transposeA a).bind (fun factor => (factor? transposeB b).bind _) = _
    rw [factorA, factorB]
    exact multiplied
  · rw [dims, Shape.under_append]
    rfl
  · intro stacked row column front above beside
    have long : stacked.length = batch.length := by
      rw [front.length_eq, Shape.length_under]
    obtain ⟨belowA, belowB⟩ := Shape.le_of_broadcast? batches
    have frontA := Index.within_broadcast belowA front
    have frontB := Index.within_broadcast belowB front
    refine ⟨?_, fun position inside => ⟨Index.within_entry frontA above inside,
      Index.within_entry frontB (inner ▸ inside) beside⟩⟩
    rw [entries stacked (long.trans (Shape.length_under sizes batch).symm)]
    simp only [leftEntries _ (frontA.length_eq.trans (Shape.length_under sizes _)),
      rightEntries _ (frontB.length_eq.trans (Shape.length_under sizes _))]

/-! ### Refusals -/

/-- **The grounds for which a product is refused**, with what the rejection says. -/
inductive ProductRefused (graph : Graph) (a b : Handle) (transposeA transposeB : Bool) :
    Rejection → Prop
  | foreign {tensor : Handle} (operand : tensor ∈ [a, b]) (foreign : graph.owns tensor = false) :
    ProductRefused graph a b transposeA transposeB (.foreignTensor tensor)
  | rank (low : a.rank < 2 ∨ b.rank < 2) :
    ProductRefused graph a b transposeA transposeB (.matmulRank a b)
  | types (different : a.dtype ≠ b.dtype) :
    ProductRefused graph a b transposeA transposeB (.matmulTypes a.dtype b.dtype)
  | inner {first second : MatrixShape} (isA : a.shape = first.toShape)
    (isB : b.shape = second.toShape)
    (different : (first.transposeIf transposeA).columns ≠ (second.transposeIf transposeB).rows) :
    ProductRefused graph a b transposeA transposeB
      (.matmulInner (first.transposeIf transposeA).toShape (second.transposeIf transposeB).toShape)
  | batch {first second : MatrixShape} (isA : a.shape = first.toShape)
    (isB : b.shape = second.toShape) (apart : first.batch.broadcast? second.batch = none) :
    ProductRefused graph a b transposeA transposeB
      (.matmulBatch (first.transposeIf transposeA).toShape (second.transposeIf transposeB).toShape)

section Refusals

variable {graph : Graph} {a b : Handle} {transposeA transposeB : Bool}

/-- A tensor of rank below two is no stack of matrices. -/
theorem Handle.rank_lt_two_iff (tensor : Handle) :
    tensor.rank < 2 ↔ MatrixShape.ofShape? tensor.shape = none := by
  rw [← Option.not_isSome_iff_eq_none, MatrixShape.ofShape?_isSome, decide_eq_true_eq]
  exact Nat.not_le.symm

/-- Two stacks that have no product. -/
theorem MatrixShape.product_refused {first second : MatrixShape} {fault : Fault}
    (isA : a.shape = first.toShape) (isB : b.shape = second.toShape)
    (failed : (first.transposeIf transposeA).product (second.transposeIf transposeB) =
      .error fault) :
    ∃ reason, fault = .rejected reason ∧
      ProductRefused graph a b transposeA transposeB reason := by
  unfold product at failed
  by_cases inner : (first.transposeIf transposeA).columns = (second.transposeIf transposeB).rows
  · rw [if_neg (not_not_intro inner), batch_transposeIf, batch_transposeIf] at failed
    cases batches : first.batch.broadcast? second.batch with
    | some batch =>
        rw [batches] at failed
        cases failed
    | none =>
        rw [batches] at failed
        cases failed
        exact ⟨_, rfl, .batch isA isB batches⟩
  · rw [if_pos inner] at failed
    cases failed
    exact ⟨_, rfl, .inner isA isB inner⟩

/-- **A check of two factors** that fails has one of the grounds. -/
theorem Graph.productShape_error {fault : Fault}
    (failed : graph.productShape a b transposeA transposeB = .error fault) :
    ∃ reason, fault = .rejected reason ∧
      ProductRefused graph a b transposeA transposeB reason := by
  unfold productShape at failed
  rcases graph.requireOwned_bind_two a b _ with ⟨_, goesOn⟩ | ⟨_, operand, foreign, fails⟩
  · rw [goesOn] at failed
    cases stackA : MatrixShape.ofShape? a.shape with
    | none =>
        rw [stackA] at failed
        cases failed
        exact ⟨_, rfl, .rank (Or.inl (a.rank_lt_two_iff.mpr stackA))⟩
    | some first =>
        cases stackB : MatrixShape.ofShape? b.shape with
        | none =>
            rw [stackA, stackB] at failed
            cases failed
            exact ⟨_, rfl, .rank (Or.inr (b.rank_lt_two_iff.mpr stackB))⟩
        | some second =>
            rw [stackA, stackB] at failed
            by_cases types : a.dtype = b.dtype
            · simp only [types, ne_eq, not_true, if_false] at failed
              exact MatrixShape.product_refused (MatrixShape.ofShape?_eq_some.mp stackA)
                (MatrixShape.ofShape?_eq_some.mp stackB) failed
            · simp only [types, ne_eq, not_false_eq_true, if_true] at failed
              cases failed
              exact ⟨_, rfl, .types types⟩
  · rw [fails] at failed
    cases failed
    exact ⟨_, rfl, .foreign operand foreign⟩

/-- Where there is a ground, no product is accepted. -/
theorem ProductRefused.not_accepted {reason : Rejection} {out : Handle} {after : Graph}
    (refused : ProductRefused graph a b transposeA transposeB reason) :
    ¬ (Request.matmul a b transposeA transposeB).Accepted graph out after := by
  intro accepted
  obtain ⟨dtypes, _, first, second, batch, isA, isB, inner, batches, _⟩ :=
    Request.type?_matmul.mp accepted.typed
  have ofShape {shape : Shape} {stack other : MatrixShape} (one : shape = stack.toShape)
      (two : shape = other.toShape) : stack = other :=
    Option.some.inj ((MatrixShape.ofShape?_eq_some.mpr one).symm.trans
      (MatrixShape.ofShape?_eq_some.mpr two))
  cases refused with
  | foreign operand foreign =>
      rw [accepted.owned _ operand] at foreign
      cases foreign
  | rank low =>
      have stackA : MatrixShape.ofShape? a.shape = some first :=
        MatrixShape.ofShape?_eq_some.mpr isA
      have stackB : MatrixShape.ofShape? b.shape = some second :=
        MatrixShape.ofShape?_eq_some.mpr isB
      rw [Handle.rank_lt_two_iff, Handle.rank_lt_two_iff, stackA, stackB] at low
      exact low.elim nofun nofun
  | types different => exact different dtypes
  | inner isA' isB' different =>
      cases ofShape isA isA'
      cases ofShape isB isB'
      exact different inner
  | batch isA' isB' apart =>
      cases ofShape isA isA'
      cases ofShape isB isB'
      rw [MatrixShape.batch_transposeIf, MatrixShape.batch_transposeIf, apart] at batches
      cases batches

/-- **A product is accepted**, or refused for one of the grounds and the graph is left as it was. -/
theorem Build.matmul_refuses (graph : Graph) (a b : Handle) (transposeA transposeB : Bool) :
    Ends (matmul a b transposeA transposeB) graph
      ((Request.matmul a b transposeA transposeB).Accepted graph) (fun fault after =>
        after = graph ∧ ∃ reason, fault = .rejected reason ∧
          ProductRefused graph a b transposeA transposeB reason) := by
  cases check : graph.productShape a b transposeA transposeB with
  | error fault =>
      exact Ends.of_error (bind_run_error (inspect_error check))
        ⟨rfl, Graph.productShape_error check⟩
  | ok product =>
      obtain ⟨out, after, run, accepted⟩ := Request.accepts_of_checks
        (graph.productShape_checks a b transposeA transposeB) check
        fun _ passed => Option.isSome_of_eq_some passed.2.2
      exact Ends.of_ok run accepted

end Refusals

/-! ### The product -/

/-- **What an accepted product is**, between the graph before and the graph after it. -/
structure Multiplied (a b : Handle) (transposeA transposeB : Bool) (out : Handle)
    (before after : Graph) : Prop where
  dtypes : a.dtype = b.dtype
  dtype : out.dtype = a.dtype
  /-- A node for each operand that is transposed, and one for the product. -/
  operators : (after.nodes.drop before.nodes.length).map Node.op =
    (if transposeA then [.transpose (swapLastTwoAxes a.rank)] else []) ++
      (if transposeB then [.transpose (swapLastTwoAxes b.rank)] else []) ++ [.matMul]
  /-- The operands are stacks whose batches combine to that of the result. For all sizes of the symbols
  and all values of the operands the new nodes compute their product. -/
  product : ∃ first second batch, a.shape = MatrixShape.toShape first ∧
    b.shape = MatrixShape.toShape second ∧ first.batch.broadcast? second.batch = some batch ∧
    (first.transposeIf transposeA).columns = (second.transposeIf transposeB).rows ∧
    out.shape = batch ++ [(first.transposeIf transposeA).rows,
      (second.transposeIf transposeB).columns] ∧
    ∀ {Element : Type} (arithmetic : Arithmetic Element) (sizes : String → Nat)
      (x y : Tensor Element) (environment : Environment Element),
      environment.read a = some ⟨a.type, x⟩ → environment.read b = some ⟨b.type, y⟩ →
      x.dims = a.shape.under sizes → y.dims = b.shape.under sizes →
      ∃ final result, before.evaluateSince? after arithmetic environment = some final ∧
        final.read out = some ⟨out.type, result⟩ ∧ result.dims = out.shape.under sizes ∧
        Tensor.Multiplies arithmetic sizes first second batch transposeA transposeB x y result

/-- **An accepted product** multiplies its operands. -/
theorem Request.Accepted.multiplied {a b out : Handle} {transposeA transposeB : Bool}
    {before after : Graph}
    (accepted : (Request.matmul a b transposeA transposeB).Accepted before out after) :
    Multiplied a b transposeA transposeB out before after := by
  obtain ⟨dtypes, dtype, first, second, batch, isA, isB, inner, batches, shape⟩ :=
    Request.type?_matmul.mp accepted.typed
  rw [MatrixShape.batch_transposeIf, MatrixShape.batch_transposeIf] at batches
  refine ⟨dtypes, dtype, ?_, first, second, batch, isA, isB, batches, inner, shape, ?_⟩
  · obtain ⟨additions, adds, grows⟩ := accepted.grows
    rw [grows.drop_nodes]
    cases adds
    cases transposeA <;> cases transposeB <;> rfl
  · intro Element arithmetic sizes x y environment readA readB dimsA dimsB
    have reads : (Request.matmul a b transposeA transposeB).traverse environment.read =
        some (.matmul ⟨a.type, x⟩ ⟨b.type, y⟩ transposeA transposeB) := by
      simp only [Request.traverse, readA, readB]
      rfl
    let left : TypedTensor Element := ⟨a.type, x⟩
    let right : TypedTensor Element := ⟨b.type, y⟩
    have stackA : left.type.shape = first.toShape := isA
    have stackB : right.type.shape = second.toShape := isB
    obtain ⟨result, denoted, dims, entries⟩ :=
      Request.denote?_matmul arithmetic sizes stackA stackB inner batches dimsA dimsB
    obtain ⟨final, evaluated, read⟩ := accepted.evaluatesSince reads denoted
    refine ⟨final, result, evaluated, read, ?_, entries⟩
    rw [dims]
    exact congrArg (Shape.under sizes) shape.symm

/-- **A product multiplies stacks of matrices** of any ranks, either transposed first, in every
graph. What is returned has the declared shape and holds, for all sizes of the symbols and all
values, the sums of the products along the rows of the first and the columns of the second operand,
whose batches broadcast. It is refused if and only if an operand is not owned, has a rank below
two, the element types or the inner dimensions differ, or the batches do not broadcast; then
nothing has changed. -/
theorem matmul_multiplies (a b : Handle) (transposeA transposeB : Bool) (graph : Graph) :
    (∀ out after, Build.matmul a b transposeA transposeB graph = .ok out after →
      Multiplied a b transposeA transposeB out graph after) ∧
    (∀ fault after, Build.matmul a b transposeA transposeB graph = .error fault after →
      after = graph ∧ ∃ reason, fault = .rejected reason ∧
        ProductRefused graph a b transposeA transposeB reason) ∧
    ((∃ out after, Build.matmul a b transposeA transposeB graph = .ok out after) ↔
      ¬ ∃ reason, ProductRefused graph a b transposeA transposeB reason) := by
  have ends := Build.matmul_refuses graph a b transposeA transposeB
  refine ⟨fun out after run => (ends.ok run).multiplied, fun fault after run => ends.error run,
    ?_, ?_⟩
  · intro returns grounds
    obtain ⟨out, after, run⟩ := returns
    obtain ⟨reason, refused⟩ := grounds
    exact refused.not_accepted (ends.ok run)
  · intro grounds
    cases run : Build.matmul a b transposeA transposeB graph with
    | ok out after => exact ⟨out, after, rfl⟩
    | error fault after =>
        obtain ⟨_, reason, _, refused⟩ := ends.error run
        exact absurd ⟨reason, refused⟩ grounds

end OperatorLowering
