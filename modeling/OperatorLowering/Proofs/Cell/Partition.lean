/-
**The gates partition the columns.**

Pre-activations of any rank whose last dimension is four times a width are split into four gates,
whatever the graph holds: all checks of the four slices pass as long as 64 bits hold the known
dimensions. Read by their constants, the slices take all other axes whole, and a column is read by
that slice alone whose number is its quotient by the width, at its remainder.

* `Lower.splitGates_returns`: the four slices and activations are accepted;
* `mem_gate_iff`: which column stands where;
* `splitGates_partitions`: the split as a whole, and when there is none.
-/

import Mathlib.Tactic.Choose
import OperatorLowering.Proofs.Cell.Matrices

namespace OperatorLowering

variable {sizes : String → Nat}

/-! ### Accepted splits -/

/-- The activations of the four gates, in the order of their quarters. -/
def Activation.ofGate : Fin 4 → Activation
  | 0 => .sigmoid
  | 1 => .sigmoid
  | 2 => .tanh
  | 3 => .sigmoid

/-- The four gates, in the order of their quarters. -/
def GateTensors.gate (gates : GateTensors) : Fin 4 → Handle
  | 0 => gates.input
  | 1 => gates.forget
  | 2 => gates.cell
  | 3 => gates.output

/-- The slices of a tensor into four gates, and their activations. -/
def Handle.split (gates : Handle) : List (Request Wire) :=
  [gates.shape.gateRequest (.tensor gates) 0, .activation (.layer 0) .sigmoid,
    gates.shape.gateRequest (.tensor gates) 1, .activation (.layer 2) .sigmoid,
    gates.shape.gateRequest (.tensor gates) 2, .activation (.layer 4) .tanh,
    gates.shape.gateRequest (.tensor gates) 3, .activation (.layer 6) .sigmoid]

/-- What the requests of a split give: each slice, and then its gate. -/
def GateTensors.outputs (gates : GateTensors) (chunks : Fin 4 → Handle) : List Handle :=
  [chunks 0, gates.input, chunks 1, gates.forget, chunks 2, gates.cell, chunks 3, gates.output]

/-- The slice of a gate and its activation are planned next to each other. -/
theorem Handle.getElem?_split (gates : Handle) (index : Fin 4) :
    gates.split[2 * (index : Nat)]? = some (gates.shape.gateRequest (.tensor gates) index) ∧
      gates.split[2 * (index : Nat) + 1]? =
        some (.activation (.layer (2 * index)) (.ofGate index)) := by
  match index with
  | 0 => exact ⟨rfl, rfl⟩
  | 1 => exact ⟨rfl, rfl⟩
  | 2 => exact ⟨rfl, rfl⟩
  | 3 => exact ⟨rfl, rfl⟩

theorem GateTensors.getElem?_outputs (gates : GateTensors) (chunks : Fin 4 → Handle)
    (index : Fin 4) :
    (gates.outputs chunks)[2 * (index : Nat)]? = some (chunks index) ∧
      (gates.outputs chunks)[2 * (index : Nat) + 1]? = some (gates.gate index) := by
  match index with
  | 0 => exact ⟨rfl, rfl⟩
  | 1 => exact ⟨rfl, rfl⟩
  | 2 => exact ⟨rfl, rfl⟩
  | 3 => exact ⟨rfl, rfl⟩

namespace Lower

variable {node : OperatorNode} {start context : Context} {made : List (Request Wire)}
  {outputs : List Handle} {gates : Handle} {lead : Shape} {width : Int}

/-- **One gate** of an owned tensor is accepted. -/
theorem gate_accepted {failed : Failure → Context → Prop}
    (walked : Walked start made outputs context) (owned : start.graph.owns gates = true)
    (split : gates.shape = lead ++ [.size (4 * width)]) (inRange : gates.shape.InRange)
    (ranked : lead.length ≤ indexMax) {index : Nat} (few : index < 4) (kind : Activation) :
    Ends (gate node gates gates.shape.quarter index kind) context
      (fun gate after => ∃ chunk, Walked start
        (made ++ [gates.shape.gateRequest (.tensor gates) index,
          .activation (.layer outputs.length) kind]) (outputs ++ [chunk, gate]) after) failed := by
  obtain ⟨leading, wide, most⟩ := (@CellOperands.inRange_iff gates.type _ _ split).mp inRange
  have typed : (gates.type.shape.gateRequest gates.type index).type? = some gates.type.gate := by
    refine (CellOperands.gateRequest_type? split few).mpr ⟨⟨leading, wide, ?_, ranked⟩, rfl⟩
    exact Int.le_trans (Int.mul_le_mul_of_nonneg_right (by omega) (by omega)) most
  have still : context.graph.owns gates = true := walked.follows.grown.keeps_owns owned
  have sliced : (gates.shape.gateRequest (Wire.tensor gates) index).traverse
      (Wire.read id outputs) = some (gates.shape.gateRequest gates index) := rfl
  refine Ends.bind (accepted_ends "slice" walked sliced
    (fun tensor member => List.mem_singleton.mp member ▸ still) typed) fun chunk after ends => ?_
  obtain ⟨walked, _⟩ := ends
  have activated : (Request.activation (.layer outputs.length) kind).traverse
      (Wire.read id (outputs ++ [chunk])) = some (.activation chunk kind) := by
    simp only [Request.traverse, Wire.read_last]
    rfl
  have entered : after.graph.owns chunk = true :=
    (walked.follows.enters (List.mem_append_right outputs (List.mem_singleton_self chunk))).2
  refine (accepted_ends _ walked activated
    (fun tensor member => List.mem_singleton.mp member ▸ entered) rfl).mono ?_ fun _ _ => id
  rintro gate after ⟨walked, _⟩
  refine ⟨chunk, ?_⟩
  simpa using walked

/-- **The four gates** of an owned tensor are accepted, in the context as it is. -/
theorem splitGates_returns (node : OperatorNode) (owned : start.graph.owns gates = true)
    (split : gates.shape = lead ++ [.size (4 * width)]) (inRange : gates.shape.InRange)
    (ranked : lead.length ≤ indexMax) :
    ∃ result after chunks, splitGates node gates start = .ok result after ∧
      Walked start gates.split (result.outputs chunks) after := by
  have quartered : gateWidth gates node start = .ok gates.shape.quarter start := by
    have last : gates.shape.getLast? = some (.size (4 * width)) := by
      rw [split]
      exact List.getLast?_concat
    unfold gateWidth Shape.quarter
    simp only [last]
    rw [if_pos (Int.mul_emod_right 4 width)]
    rfl
  have ends : Ends (splitGates node gates) start (fun result after => ∃ chunks,
      Walked start gates.split (result.outputs chunks) after) (fun _ _ => False) := by
    unfold splitGates
    refine Ends.after_ok quartered ?_
    have walked : Walked start [] [] start := ⟨.start, rfl⟩
    refine (gate_accepted walked owned split inRange ranked (show 0 < 4 by decide) .sigmoid).bind
      fun input _ ends => ?_
    obtain ⟨one, walked⟩ := ends
    refine (gate_accepted walked owned split inRange ranked (show 1 < 4 by decide) .sigmoid).bind
      fun forget _ ends => ?_
    obtain ⟨two, walked⟩ := ends
    refine (gate_accepted walked owned split inRange ranked (show 2 < 4 by decide) .tanh).bind
      fun cell _ ends => ?_
    obtain ⟨three, walked⟩ := ends
    refine (gate_accepted walked owned split inRange ranked (show 3 < 4 by decide) .sigmoid).bind
      fun output _ ends => ?_
    obtain ⟨four, walked⟩ := ends
    exact Ends.pure ⟨fun
      | 0 => one
      | 1 => two
      | 2 => three
      | 3 => four, walked⟩
  cases run : splitGates node gates start with
  | ok result after =>
      obtain ⟨chunks, walked⟩ := ends.ok run
      exact ⟨result, after, chunks, rfl, walked⟩
  | error failure after => exact (ends.error run).elim

end Lower

/-! ### Columns -/

/-- **A column** stands in the slice of its quotient by the width, at its remainder. -/
theorem mem_gate_iff {width index column place : Nat} (wide : 0 < width) (few : index < 4) :
    (List.range' (index * width) width)[place]? = some column ↔
      column < 4 * width ∧ index = column / width ∧ place = column % width := by
  have partition : column / width = index ∧ column % width = place ↔
      place + width * index = column ∧ place < width :=
    Nat.div_mod_unique wide
  have reach : width * index + width ≤ width * 4 := Nat.mul_le_mul_left width few
  rw [eq_comm (a := index), eq_comm (a := place), partition, Nat.mul_comm index]
  by_cases inside : place < width
  · rw [List.getElem?_range' inside, Option.some.injEq, Nat.one_mul]
    omega
  · rw [List.getElem?_eq_none (by simpa using inside)]
    exact iff_of_false nofun fun holds => inside holds.2.2

/-! ### The split as a whole -/

/-- **A gate in a graph**: a layer that slices a quarter out of `gates`, the layer of its
activation, and the node of the slice. -/
structure Graph.HoldsGate (graph : Graph) (gates gate : Handle) (lead : Shape) (width : Nat)
    (index : Fin 4) (slice activation : Layer) (node : Node) : Prop where
  sliced : slice.primitive = .slice (List.replicate lead.length 0 ++ [(index * width : Int)])
    (lead ++ [.size width]) (List.replicate lead.length 1 ++ [1])
  reads : slice.inputs = [gates.name]
  activated : activation.primitive = .activation (.ofGate index)
  feeds : activation.inputs = [slice.output]
  gives : activation.output = gate.name
  listed : node ∈ graph.nodes
  op : node.op = .slice
  operand : node.inputs.head? = some gates.name
  writes : node.output = slice.output

section Walked

variable {start after : Context} {gates : Handle} {result : GateTensors} {chunks : Fin 4 → Handle}
  {lead : Shape} {width : Nat}

/-- The slices of a followed split. -/
theorem Walked.slices (walked : Walked start gates.split (result.outputs chunks) after)
    (single : start.graph.SingleAssignment) (split : gates.shape = lead ++ [.size (4 * width)])
    (index : Fin 4) :
    ∃ node, after.graph.Slices node gates (chunks index)
      (List.replicate lead.length 0 ++ [(index * width : Int)]) (lead ++ [.size width])
      (List.replicate lead.length 1 ++ [1]) := by
  have planned := (gates.getElem?_split index).1
  have request := @CellOperands.gateRequest_eq gates.type _ _ _ split (Wire.tensor gates) index
  obtain ⟨node, operand, chunk, read, listed, slices⟩ :=
    walked.follows.slices single (planned.trans (congrArg some request))
  rw [(result.getElem?_outputs chunks index).1] at listed
  cases read
  cases listed
  exact ⟨node, slices⟩

/-- Eight entries that are known two by two. -/
theorem eq_of_pairs {Entry : Type} {entries : List Entry} {first second : Fin 4 → Entry}
    (length : entries.length = 8)
    (evens : ∀ index : Fin 4, entries[2 * (index : Nat)]? = some (first index))
    (odds : ∀ index : Fin 4, entries[2 * (index : Nat) + 1]? = some (second index)) :
    entries = [first 0, second 0, first 1, second 1, first 2, second 2, first 3, second 3] := by
  match entries, length with
  | [a, b, c, d, e, f, g, h], _ =>
    obtain rfl : a = first 0 := Option.some.inj (evens 0)
    obtain rfl : b = second 0 := Option.some.inj (odds 0)
    obtain rfl : c = first 1 := Option.some.inj (evens 1)
    obtain rfl : d = second 1 := Option.some.inj (odds 1)
    obtain rfl : e = first 2 := Option.some.inj (evens 2)
    obtain rfl : f = second 2 := Option.some.inj (odds 2)
    obtain rfl : g = first 3 := Option.some.inj (evens 3)
    obtain rfl : h = second 3 := Option.some.inj (odds 3)
    rfl

/-- The layers of a followed split. -/
theorem Walked.layers (walked : Walked start gates.split (result.outputs chunks) after) :
    ∃ layers : List Layer, after.graph.layers = start.graph.layers ++ layers ∧
      layers.length = 8 ∧ ∀ index : Fin 4, ∃ slice activation,
        layers[2 * (index : Nat)]? = some slice ∧
        layers[2 * (index : Nat) + 1]? = some activation ∧
        slice.output = (chunks index).name ∧ activation.output = (result.gate index).name ∧
        Layer.Realizes layers (gates.shape.gateRequest (.tensor gates) index) slice ∧
        Layer.Realizes layers (.activation (.layer (2 * index)) (.ofGate index)) activation := by
  obtain ⟨layers, logged, named, realized⟩ := walked.follows.layers
  have length : layers.length = 8 := realized.length_eq.symm
  have made {place : Nat} {request : Request Wire} {output : Handle}
      (planned : gates.split[place]? = some request)
      (found : (result.outputs chunks)[place]? = some output) :
      ∃ layer, layers[place]? = some layer ∧ layer.output = output.name ∧
        Layer.Realizes layers request layer := by
    obtain ⟨inside, rfl⟩ := List.getElem?_eq_some_iff.mp planned
    have inside : place < layers.length := realized.length_eq ▸ inside
    have here := congrArg (fun names => names[place]?) named
    simp only [List.getElem?_map, found, List.getElem?_eq_getElem inside, Option.map_some] at here
    exact ⟨layers[place], List.getElem?_eq_getElem inside, Option.some.inj here,
      (List.forall₂_iff_get.mp realized).2 place _ inside⟩
  refine ⟨layers, logged, length, fun index => ?_⟩
  obtain ⟨sliced, activated⟩ := gates.getElem?_split index
  obtain ⟨chunk, gate⟩ := result.getElem?_outputs chunks index
  obtain ⟨slice, isSlice, isChunk, slices⟩ := made sliced chunk
  obtain ⟨activation, isActivation, isGate, activates⟩ := made activated gate
  exact ⟨slice, activation, isSlice, isActivation, isChunk, isGate, slices, activates⟩

/-- The layers and the node of one gate, as they were planned. -/
theorem Graph.holdsGate_of_realizes {graph : Graph} {gate chunk : Handle} {place : Nat}
    {index : Fin 4} {slice activation : Layer} {node : Node} {layers : List Layer}
    (split : gates.shape = lead ++ [.size (4 * width)])
    (slices : graph.Slices node gates chunk (List.replicate lead.length 0 ++ [(index * width : Int)])
      (lead ++ [.size width]) (List.replicate lead.length 1 ++ [1]))
    (sliced : Layer.Realizes layers (gates.shape.gateRequest (.tensor gates) index) slice)
    (activated : Layer.Realizes layers (.activation (.layer place) (.ofGate index)) activation)
    (here : layers[place]? = some slice) (chunkIs : slice.output = chunk.name)
    (gateIs : activation.output = gate.name) :
    graph.HoldsGate gates gate lead width index slice activation node where
  sliced := by
    have request := @CellOperands.gateRequest_eq gates.type _ _ _ split (Wire.tensor gates) index
    rw [sliced.1]
    exact congrArg Request.primitive request
  reads := sliced.inputs_eq rfl
  activated := activated.1
  feeds := by
    refine activated.inputs_eq ?_
    show [(layers.map Layer.output)[place]?] = _
    rw [List.getElem?_map, here]
    rfl
  gives := gateIs
  listed := slices.listed
  op := slices.op
  operand := by
    obtain ⟨_, _, _, _, inputs, _⟩ := slices.reads
    rw [inputs]
    rfl
  writes := slices.writes.trans chunkIs.symm

end Walked

/-- **The split into gates is a partition of the columns.** Pre-activations of known dimensions in
range whose last one is four times a width, of no more axes than 64 bits count, are split whatever
the graph holds. The split appends a slice and an activation four times; each slice takes all other
axes whole, for all sizes of the symbols in range, and a column stands in the slice of its quotient
by the width alone, at its remainder. Without four equal known quarters nothing is built. -/
theorem splitGates_partitions (node : OperatorNode) (start : Context) (gates : Handle)
    (reached : Graph.empty.Reaches start.graph) (owned : start.graph.owns gates = true) :
    (∀ (lead : Shape) (width : Nat), gates.shape = lead ++ [.size (4 * width)] →
      gates.shape.InRange → lead.length ≤ indexMax →
      ∃ (result : GateTensors) (after : Context) (slices activations : Fin 4 → Layer)
          (nodes : Fin 4 → Node),
        Lower.splitGates node gates start = .ok result after ∧
        after.graph.layers = start.graph.layers ++ [slices 0, activations 0, slices 1,
          activations 1, slices 2, activations 2, slices 3, activations 3] ∧
        (∀ index, after.graph.HoldsGate gates (result.gate index) lead width index (slices index)
          (activations index) (nodes index)) ∧
        ∀ sizes, SizesInRange sizes → ∀ index, ∃ columns,
          after.graph.slicePositions? (nodes index) (gates.shape.under sizes) =
            some ((lead.under sizes).map List.range ++ [columns]) ∧
          ∀ column place : Nat, columns[place]? = some column ↔
            column < 4 * width ∧ index = column / width ∧ place = column % width) ∧
    (∀ name, gates.shape.getLast? = some (.symbol name) → Lower.splitGates node gates start =
      .error (.ofNode node (.precondition (.symbolicGate name))) start) ∧
    ∀ width, gates.shape.getLast? = some (.size width) → width % 4 ≠ 0 →
      Lower.splitGates node gates start =
        .error (.ofNode node (.precondition (.indivisibleGate width))) start := by
  refine ⟨?_, ?_, ?_⟩
  · intro lead width split inRange ranked
    obtain ⟨result, after, chunks, run, walked⟩ :=
      Lower.splitGates_returns node owned split inRange ranked
    have single : start.graph.SingleAssignment := by
      obtain ⟨additions, grows⟩ := reached.grown
      exact .of_grows grows .empty
    obtain ⟨leading, wide, _⟩ := (@CellOperands.inRange_iff gates.type _ _ split).mp inRange
    obtain ⟨layers, logged, length, each⟩ := walked.layers
    choose slices activations isSlice isActivation isChunk isGate sliced activated using each
    choose nodes isNode using walked.slices single split
    refine ⟨result, after, slices, activations, nodes, run, ?_, fun index => ?_, ?_⟩
    · rw [logged, eq_of_pairs length isSlice isActivation]
    · exact Graph.holdsGate_of_realizes split (isNode index) (sliced index) (activated index)
        (isSlice index) (isChunk index) (isGate index)
    · intro sizes sized index
      refine ⟨List.range' (index * width) width, ?_, fun column place =>
        mem_gate_iff (by omega) index.isLt⟩
      rw [(isNode index).positions, split]
      exact gate_positions (fun name _ => (sized name).2) (fun size member => (leading size member).1)
        (Int.ofNat_lt.mp wide) index.isLt
  · intro name last
    unfold Lower.splitGates Lower.gateWidth
    simp only [last]
    rfl
  · intro width last indivisible
    unfold Lower.splitGates Lower.gateWidth
    simp only [last, if_neg indivisible]
    rfl

/-- A graph that holds eight columns for a batch of symbolic size. -/
def Graph.octet : Graph :=
  final (Call.addInput "g" [.symbol "n", .size 2, .size 8] .float32).build .empty

/-- Five times two rows of eight columns: each gate has two of the columns. -/
theorem splitGates_partitions_octet :
    ∃ (result : GateTensors) (after : Context) (nodes : Fin 4 → Node),
      Lower.splitGates ⟨"cell", "aten::lstm_cell", [], ["hy", "cy"]⟩
        ⟨"g", [.symbol "n", .size 2, .size 8], .float32⟩ ⟨.octet, .empty, [], []⟩ =
          .ok result after ∧
      after.graph.layers.length = 8 ∧
      ∀ index, ∃ columns, after.graph.slicePositions? (nodes index) [5, 2, 8] =
          some [List.range 5, List.range 2, columns] ∧
        ∀ column place : Nat, columns[place]? = some column ↔
          column < 8 ∧ index = column / 2 ∧ place = column % 2 := by
  have reached : Graph.empty.Reaches .octet :=
    .call .empty (.addInput "g" [.symbol "n", .size 2, .size 8] .float32) (.start .empty)
  have inRange : Shape.InRange [.symbol "n", .size 2, .size 8] := by
    intro size member
    simp only [List.mem_cons, reduceCtorEq, Dim.size.injEq, List.not_mem_nil, or_false,
      false_or] at member
    rcases member with rfl | rfl <;> decide
  obtain ⟨splits, _, _⟩ := splitGates_partitions
    ⟨"cell", "aten::lstm_cell", [], ["hy", "cy"]⟩ ⟨.octet, .empty, [], []⟩
    ⟨"g", [.symbol "n", .size 2, .size 8], .float32⟩ reached (by decide)
  obtain ⟨result, after, slices, activations, nodes, run, layers, _, reads⟩ :=
    splits [.symbol "n", .size 2] 2 rfl inRange (by decide)
  have five : SizesInRange fun _ => 5 :=
    fun _ => ⟨Nat.le_add_left 1 4, show (5 : Int) ≤ indexMax by decide⟩
  refine ⟨result, after, nodes, run, ?_, reads (fun _ => 5) five⟩
  rw [layers]
  rfl

end OperatorLowering
