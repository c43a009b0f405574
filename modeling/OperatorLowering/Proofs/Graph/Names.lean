/-
**Names of layers and nodes.**

No table is asked whether the name of a layer or of a node is free. Layers are numbered by the
counter, which every accepted call raises before it names its layer; the number ends the name, so it
alone tells two layers apart. The last node of a layer bears the layer's name, and a node before it,
which transposes an operand, ends in that operand's letter instead of a number.

* `Graph.Numbered`: the invariant, with the numbers bounded by the counter;
* `Call.logs`: what a call logs bears the next number, and the counter has passed it;
* `Call.nodeNames_of_adds`: the nodes that a call adds are those of the layer that it logs;
* `reachable_names_distinct`: no two layers and no two nodes of a graph bear one name.
-/

import OperatorLowering.Proofs.Lowering.Reachable

namespace OperatorLowering

/-! ### The nodes of a layer -/

/-- The name of the node that transposes an operand of a layer. -/
def transpositionName (layer operand : String) : String :=
  s!"{layer}_transpose_{operand}"

/-- The operands that a primitive has transposed by nodes of their own. -/
def Primitive.transposed : Primitive → List String
  | .matmul transposeFirst transposeSecond =>
    (if transposeFirst then ["a"] else []) ++ if transposeSecond then ["b"] else []
  | _ => []

/-- The names of the nodes of a layer, in the order in which they are appended. -/
def Layer.nodeNames (layer : Layer) : List String :=
  layer.primitive.transposed.map (transpositionName layer.name) ++ [layer.name]

theorem Primitive.transposed_cases {primitive : Primitive} {operand : String}
    (member : operand ∈ primitive.transposed) : operand = "a" ∨ operand = "b" := by
  cases primitive with
  | matmul transposeFirst transposeSecond =>
      cases transposeFirst <;> cases transposeSecond <;> simp_all [transposed]
  | elementwise op => cases member
  | slice offsets sizes strides => cases member
  | activation kind => cases member
  | reshape shape => cases member

theorem Primitive.nodup_transposed (primitive : Primitive) : primitive.transposed.Nodup := by
  cases primitive with
  | matmul transposeFirst transposeSecond =>
      cases transposeFirst <;> cases transposeSecond <;> decide
  | elementwise op => exact List.nodup_nil
  | slice offsets sizes strides => exact List.nodup_nil
  | activation kind => exact List.nodup_nil
  | reshape shape => exact List.nodup_nil

/-- A transposition ends in the letter of its operand. -/
theorem lastPart_transpositionName (layer : String) {operand : String}
    (letter : operand = "a" ∨ operand = "b") :
    lastPart (transpositionName layer operand) = operand.toList := by
  have split : transpositionName layer operand = layer ++ "_transpose" ++ "_" ++ operand := by
    rw [← String.toList_inj]
    simp [transpositionName, toString]
  have whole : '_' ∉ operand.toList := by
    rcases letter with rfl | rfl <;> decide
  rw [split, lastPart_append whole]

/-- **A transposition is named neither like a layer nor like another transposition.** -/
theorem transpositionName_ne_variant (layer stem : String) (number : Nat) {operand : String}
    (letter : operand = "a" ∨ operand = "b") :
    transpositionName layer operand ≠ variant stem number := by
  intro same
  have digits : operand.toList = Nat.toDigits 10 number := by
    rw [← lastPart_transpositionName layer letter, same, lastPart_variant]
  have numeral (char : Char) (member : char ∈ operand.toList) : char.isDigit = true := by
    rw [digits] at member
    exact Nat.isDigit_of_mem_toDigits (by decide) (by decide) member
  rcases letter with rfl | rfl
  · exact absurd (numeral 'a' (by decide)) (by decide)
  · exact absurd (numeral 'b' (by decide)) (by decide)

theorem transpositionName_inj {layer other operand last : String}
    (letter : operand = "a" ∨ operand = "b") (letter' : last = "a" ∨ last = "b")
    (same : transpositionName layer operand = transpositionName other last) :
    layer = other ∧ operand = last := by
  obtain rfl : operand = last := by
    rw [← String.toList_inj, ← lastPart_transpositionName layer letter, same,
      lastPart_transpositionName other letter']
  exact ⟨(String.append_left_inj _).mp ((String.append_left_inj _).mp same), rfl⟩

namespace Layer

theorem mem_nodeNames {layer : Layer} {name : String} :
    name ∈ layer.nodeNames ↔ name = layer.name ∨
      ∃ operand ∈ layer.primitive.transposed, name = transpositionName layer.name operand := by
  simp only [nodeNames, List.mem_append, List.mem_map, List.mem_singleton, eq_comm, or_comm]

/-- A layer bears a number that the counter has reached. -/
def NumberedTo (limit : Nat) (layer : Layer) : Prop :=
  ∃ stem number, layer.name = variant stem number ∧ number ≤ limit

variable {layer other : Layer} {limit : Nat}

theorem NumberedTo.mono {more : Nat} (numbered : layer.NumberedTo limit) (rises : limit ≤ more) :
    layer.NumberedTo more := by
  obtain ⟨stem, number, named, reached⟩ := numbered
  exact ⟨stem, number, named, Nat.le_trans reached rises⟩

/-- **The nodes of one layer** have different names. -/
theorem nodup_nodeNames (numbered : layer.NumberedTo limit) : layer.nodeNames.Nodup := by
  obtain ⟨stem, number, named, _⟩ := numbered
  refine List.nodup_append.mpr ⟨?_, List.nodup_singleton _, ?_⟩
  · refine List.Nodup.map_on (fun operand member last member' same => ?_)
      layer.primitive.nodup_transposed
    exact (transpositionName_inj (Primitive.transposed_cases member)
      (Primitive.transposed_cases member') same).2
  · intro name member last isLayer
    obtain ⟨operand, transposed, rfl⟩ := List.mem_map.mp member
    rw [List.mem_singleton.mp isLayer]
    -- The name of the layer stands on both sides; only as a name of its own is it a variant.
    conv_rhs => rw [named]
    exact transpositionName_ne_variant _ stem number (Primitive.transposed_cases transposed)

/-- **The nodes of two layers** that are named differently are named differently. -/
theorem disjoint_nodeNames (numbered : layer.NumberedTo limit) (numbered' : other.NumberedTo limit)
    (different : layer.name ≠ other.name) : layer.nodeNames.Disjoint other.nodeNames := by
  obtain ⟨stem, number, named, _⟩ := numbered
  obtain ⟨stem', number', named', _⟩ := numbered'
  intro name member member'
  rcases mem_nodeNames.mp member with rfl | ⟨operand, transposed, rfl⟩
  · rcases mem_nodeNames.mp member' with same | ⟨last, transposed', same⟩
    · exact different same
    · rw [named] at same
      exact transpositionName_ne_variant _ stem number (Primitive.transposed_cases transposed')
        same.symm
  · rcases mem_nodeNames.mp member' with same | ⟨last, transposed', same⟩
    · rw [named'] at same
      exact transpositionName_ne_variant _ stem' number' (Primitive.transposed_cases transposed)
        same
    · exact different (transpositionName_inj (Primitive.transposed_cases transposed)
        (Primitive.transposed_cases transposed') same).1

end Layer

/-! ### What a call logs -/

/-- Behind the layers `old` a graph has logged layers of one name only, and has counted
to `limit`. -/
structure Graph.Logged (old : List Layer) (name : String) (limit : Nat) (graph : Graph) : Prop where
  counted : limit ≤ graph.counter
  named : ∃ more, graph.layers = old ++ more ∧ ∀ layer ∈ more, layer.name = name

namespace Build

variable {Value Next : Type} {old : List Layer} {name : String} {limit : Nat}

/-- A step logs under one name only, however it ends. -/
def Logs (old : List Layer) (name : String) (limit : Nat) (step : Build Value) : Prop :=
  ∀ before, before.Logged old name limit →
    Ends step before (fun _ => Graph.Logged old name limit) (fun _ => Graph.Logged old name limit)

theorem logs_bind {step : Build Value} {next : Value → Build Next} (first : Logs old name limit step)
    (second : ∀ value, Logs old name limit (next value)) : Logs old name limit (step >>= next) :=
  fun before logged => (first before logged).bind fun value after => second value after

theorem logs_pure (value : Value) : Logs old name limit (pure value : Build Value) :=
  fun _ logged => logged

theorem logs_inspect (check : Graph → Except Fault Value) :
    Logs old name limit (inspect check) := by
  intro before logged
  cases checked : check before with
  | ok value => exact Ends.of_ok (inspect_ok checked) logged
  | error fault => exact Ends.of_error (inspect_error checked) logged

theorem logs_uniqueName (wanted : String) : Logs old name limit (uniqueName wanted) := by
  intro before logged
  obtain ⟨unique, counter, rises, _, run⟩ := uniqueName_run wanted before
  exact Ends.of_ok run ⟨Nat.le_trans logged.counted rises, logged.named⟩

theorem logs_declare (wanted : String) (shape : Shape) (dtype : ElementType) :
    Logs old name limit (declare wanted shape dtype) := by
  intro before logged
  unfold Ends declare
  split
  · next run => split at run <;> cases run; exact ⟨logged.counted, logged.named⟩
  · next run => split at run <;> cases run; exact logged

theorem logs_declareFresh (wanted : String) (shape : Shape) (dtype : ElementType) :
    Logs old name limit (declareFresh wanted shape dtype) :=
  logs_bind (logs_uniqueName wanted) fun unique => logs_declare unique shape dtype

theorem logs_emit (node : Node) : Logs old name limit (emit node) :=
  fun _ logged => ⟨logged.counted, logged.named⟩

/-- A layer of the right name goes to the end of the log. -/
theorem logs_record (layer : Layer) (named : layer.name = name) :
    Logs old name limit (record layer) := by
  rintro before ⟨counted, more, split, same⟩
  refine ⟨counted, more ++ [layer], ?_, fun logged member => ?_⟩
  · show before.layers ++ [layer] = old ++ (more ++ [layer])
    rw [split, List.append_assoc]
  · rcases List.mem_append.mp member with earlier | last
    · exact same logged earlier
    · rwa [List.mem_singleton.mp last]

theorem logs_embed (wanted : String) (value : ConstantValue) :
    Logs old name limit (embed wanted value) :=
  logs_bind (logs_declare _ _ _) fun tensor =>
    logs_bind (fun _ logged => ⟨logged.counted, logged.named⟩) fun _ => logs_pure tensor

theorem logs_embedIndices (layer role : String) (values : List Int) :
    Logs old name limit (embedIndices layer role values) :=
  logs_bind (logs_inspect _) fun _ => logs_bind (logs_uniqueName _) fun _ =>
    logs_bind (logs_embed _ _) fun tensor => logs_pure tensor.name

theorem logs_factor (swap : Bool) (tensor : Handle) (matrix : MatrixShape)
    (layer operand : String) : Logs old name limit (factor swap tensor matrix layer operand) := by
  unfold factor
  cases swap with
  | false => exact logs_pure tensor.name
  | true =>
      exact logs_bind (logs_declareFresh _ _ _) fun output => logs_bind (logs_emit _) fun _ =>
        logs_pure output.name

theorem logs_append (primitive : Primitive) (operands : List Handle) (reads : List String)
    (shape : Shape) (dtype : ElementType) :
    Logs old name limit (append name primitive operands reads shape dtype) :=
  logs_bind (logs_declareFresh _ _ _) fun output => logs_bind (logs_emit _) fun _ =>
    logs_bind (logs_record _ rfl) fun _ => logs_pure output

end Build

namespace Call

variable {call : Call} {output : Handle} {additions : List Addition}

/-- What comes behind a check and the next number logs under that number. -/
theorem logs_checked {Checked : Type} (check : Graph → Except Fault Checked)
    (stem : Checked → String) (rest : Checked → String → Build Handle)
    (logs : ∀ checked old name limit, Build.Logs old name limit (rest checked name))
    (before : Graph) :
    let step := Build.inspect check >>= fun checked =>
      Build.freshName (stem checked) >>= rest checked
    final step before = before ∨ ∃ stem, (final step before).Logged before.layers
      (variant stem (before.counter + 1)) (before.counter + 1) := by
  intro step
  cases passes : check before with
  | error fault =>
      have stopped : step before = .error fault before :=
        bind_run_error (Build.inspect_error passes)
      unfold final
      rw [stopped]
      exact Or.inl rfl
  | ok checked =>
      refine Or.inr ⟨stem checked, Ends.final ?_⟩
      exact Ends.after_ok (Build.inspect_ok passes) (Ends.after_ok (Build.freshName_run _ _)
        (logs checked _ _ _ _ ⟨Nat.le_refl _, [], (List.append_nil _).symm, nofun⟩))

/-- **What a call logs** bears the next number, which the counter has then reached. -/
theorem logs (call : Call) (before : Graph) :
    (final call.build before).layers = before.layers ∨
      ∃ stem, (final call.build before).Logged before.layers (variant stem (before.counter + 1))
        (before.counter + 1) := by
  let silent (after : Graph) : Prop := after.layers = before.layers
  have unchanged {after : Graph} {logged : Prop} (ends : after = before ∨ logged) :
      after.layers = before.layers ∨ logged := ends.imp_left (congrArg Graph.layers)
  cases call with
  | addInput name shape dtype =>
      refine Or.inl (show silent _ from
        ((Build.addInput_ends name shape dtype before).mono ?_ ?_).final)
      · rintro tensor after ⟨_, grows⟩
        exact grows.layers.trans (List.append_nil _)
      · rintro fault after ⟨_, rfl⟩
        rfl
  | freeze value name =>
      refine Or.inl (show silent _ from ((Build.freeze_ends value name before).mono ?_ ?_).final)
      · rintro tensor after ⟨_, _, grows⟩
        exact grows.layers.trans (List.append_nil _)
      · rintro fault after (⟨_, rfl⟩ | ⟨_, _, counter, _, rfl, _⟩)
        · rfl
        · rfl
  | matmul a b transposeA transposeB =>
      refine unchanged (logs_checked _ (fun _ => "matmul") _ (fun product old name limit => ?_) before)
      exact Build.logs_bind (Build.logs_factor _ _ _ _ _) fun first =>
        Build.logs_bind (Build.logs_factor _ _ _ _ _) fun second => Build.logs_append _ _ _ _ _
  | elementwise a b op =>
      exact unchanged (logs_checked _ (fun _ => op.stem) _
        (fun shape old name limit => Build.logs_append _ _ _ _ _) before)
  | slice a offsets sizes strides =>
      refine unchanged (logs_checked _ (fun _ => "slice") _ (fun spans old name limit => ?_) before)
      exact Build.logs_bind (Build.logs_embedIndices _ _ _) fun starts =>
        Build.logs_bind (Build.logs_inspect _) fun stops =>
        Build.logs_bind (Build.logs_embedIndices _ _ _) fun ends =>
        Build.logs_bind (Build.logs_embedIndices _ _ _) fun axes =>
        Build.logs_bind (Build.logs_embedIndices _ _ _) fun steps => Build.logs_append _ _ _ _ _
  | activation a request =>
      exact unchanged (logs_checked _ Activation.stem _
        (fun kind old name limit => Build.logs_append _ _ _ _ _) before)
  | reshape a shape =>
      refine unchanged (logs_checked _ (fun _ => "reshape") _
        (fun target old name limit => ?_) before)
      exact Build.logs_bind (Build.logs_embedIndices _ _ _) fun shape =>
        Build.logs_append _ _ _ _ _

/-- The nodes that transpose an operand are named for it. -/
theorem names_factorAdditions (swap : Bool) (tensor : Handle) (matrix : MatrixShape)
    (layer operand name : String) :
    ((Build.factorAdditions swap tensor matrix layer operand name).filterMap Addition.node?).map
        Node.name =
      (if swap then [operand] else []).map (transpositionName layer) := by
  cases swap <;> rfl

/-- **The nodes that a request adds** are those of its one layer. -/
theorem nodeNames_of_request {request : Request Handle} (adds : request.Adds output additions) :
    ∃ layer, additions.filterMap Addition.layer? = [layer] ∧
      (additions.filterMap Addition.node?).map Node.name = layer.nodeNames := by
  cases adds with
  | matmul a b _ transposeA transposeB first second layer firstName secondName =>
      refine ⟨⟨.matmul transposeA transposeB, layer, [a.name, b.name], output.name⟩, ?_, ?_⟩
      · rw [List.filterMap_append, List.filterMap_append, Request.layers_factorAdditions,
          Request.layers_factorAdditions]
        rfl
      · rw [List.filterMap_append, List.filterMap_append, List.map_append, List.map_append,
          names_factorAdditions, names_factorAdditions, ← List.map_append]
        rfl
  | elementwise a b _ op layer => exact ⟨_, rfl, rfl⟩
  | slice a _ offsets sizes strides spans indices layer => exact ⟨_, rfl, rfl⟩
  | activation a _ kind layer => exact ⟨_, rfl, rfl⟩
  | reshape a _ shape target layer => exact ⟨_, rfl, rfl⟩

/-- **The nodes that a call adds** are those of the layer that it logs, if it logs one. -/
theorem nodeNames_of_adds (adds : call.Adds output additions) :
    ∃ made : Option Layer, additions.filterMap Addition.layer? = made.toList ∧
      (additions.filterMap Addition.node?).map Node.name =
        made.toList.flatMap Layer.nodeNames := by
  cases adds with
  | input name shape dtype => exact ⟨none, rfl, rfl⟩
  | literal value given name => exact ⟨none, rfl, rfl⟩
  | request request _ _ _ _ adds =>
      obtain ⟨layer, logged, named⟩ := nodeNames_of_request adds
      exact ⟨some layer, logged, by rw [named, Option.toList_some, List.flatMap_singleton]⟩
  | slice a _ offsets sizes strides spans indices layer => exact ⟨some _, rfl, rfl⟩

/-- However a call ends, it logs one layer at most and adds the nodes of that layer. -/
theorem adds_nodeNames (call : Call) (before : Graph) :
    ∃ made : Option Layer, (final call.build before).layers = before.layers ++ made.toList ∧
      (final call.build before).nodes.map Node.name =
        before.nodes.map Node.name ++ made.toList.flatMap Layer.nodeNames := by
  let names (after : Graph) : Prop := ∃ made : Option Layer,
    after.layers = before.layers ++ made.toList ∧
      after.nodes.map Node.name =
        before.nodes.map Node.name ++ made.toList.flatMap Layer.nodeNames
  refine show names _ from ((call.build_ends before).mono ?_ ?_).final
  · rintro output after ⟨_, additions, adds, grows⟩
    obtain ⟨made, logged, named⟩ := nodeNames_of_adds adds
    refine ⟨made, ?_, ?_⟩
    · rw [grows.layers, logged]
    · rw [grows.nodes, List.map_append, named]
  · rintro fault after ⟨constants, grows⟩
    refine ⟨none, ?_, ?_⟩
    · rw [grows.layers_of_constants, Option.toList_none, List.append_nil]
    · rw [grows.nodes_of_constants, Option.toList_none, List.flatMap_nil, List.append_nil]

end Call

/-! ### Whole programs -/

namespace Graph

/-- **Numbered graphs**: the layers bear different numbers up to the counter, and the nodes are
named for them. -/
structure Numbered (graph : Graph) : Prop where
  numbered : ∀ layer ∈ graph.layers, layer.NumberedTo graph.counter
  distinct : (graph.layers.map Layer.name).Nodup
  nodes : graph.nodes.map Node.name = graph.layers.flatMap Layer.nodeNames

namespace Numbered

theorem empty : Graph.empty.Numbered :=
  ⟨nofun, List.nodup_nil, rfl⟩

/-- A layer that bears the next number is named like no layer before it. -/
theorem next_ne {graph : Graph} (numbered : graph.Numbered) {layer : Layer}
    (member : layer ∈ graph.layers) (stem : String) :
    layer.name ≠ variant stem (graph.counter + 1) := by
  obtain ⟨other, number, named, reached⟩ := numbered.numbered layer member
  intro same
  have next := number_of_variant (named.symm.trans same)
  omega

/-- **One call**, however it ends, keeps a graph numbered. -/
theorem call {before : Graph} (numbered : before.Numbered) (call : Call) :
    (final call.build before).Numbered := by
  have rises : before.counter ≤ (final call.build before).counter := by
    obtain ⟨additions, grows⟩ := Graph.Reaches.grown (.call before call (.start before))
    exact grows.counter
  have older (layer : Layer) (member : layer ∈ before.layers) :
      layer.NumberedTo (final call.build before).counter :=
    (numbered.numbered layer member).mono rises
  obtain ⟨made, layers, nodes⟩ := call.adds_nodeNames before
  rw [numbered.nodes, ← List.flatMap_append, ← layers] at nodes
  rcases call.logs before with silent | ⟨stem, counted, logged, split, named⟩
  · refine ⟨?_, ?_, nodes⟩
    · rwa [silent]
    · rw [silent]
      exact numbered.distinct
  · -- The layer has the next number, and those before it have numbers up to the counter.
    obtain rfl : made.toList = logged := List.append_cancel_left (layers.symm.trans split)
    refine ⟨fun layer member => ?_, ?_, nodes⟩
    · rw [layers] at member
      rcases List.mem_append.mp member with earlier | new
      · exact older layer earlier
      · exact ⟨stem, before.counter + 1, named layer new, counted⟩
    · rw [layers, List.map_append]
      refine List.nodup_append.mpr ⟨numbered.distinct, ?_, ?_⟩
      · cases made with
        | none => exact List.nodup_nil
        | some layer => exact List.nodup_singleton layer.name
      · intro name earlier last new same
        obtain ⟨old, member, rfl⟩ := List.mem_map.mp earlier
        obtain ⟨layer, made, rfl⟩ := List.mem_map.mp new
        exact numbered.next_ne member stem (same.trans (named layer made))

/-- Every program keeps a graph numbered. -/
theorem of_yields {allowed : Call → Prop} {first after : Graph}
    (yields : first.Yields allowed after) (numbered : first.Numbered) : after.Numbered := by
  induction yields with
  | refl => exact numbered
  | tail _ step held =>
      obtain ⟨call, _, rfl⟩ := step
      exact held.call call

/-- **No two nodes** of a numbered graph bear one name. -/
theorem distinct_nodes {graph : Graph} (numbered : graph.Numbered) :
    (graph.nodes.map Node.name).Nodup := by
  rw [numbered.nodes, List.nodup_flatMap]
  refine ⟨fun layer member => Layer.nodup_nodeNames (numbered.numbered layer member), ?_⟩
  refine (List.pairwise_map.mp numbered.distinct).imp_of_mem fun member member' different => ?_
  exact Layer.disjoint_nodeNames (numbered.numbered _ member) (numbered.numbered _ member') different

end Numbered

end Graph

/-- **Names of layers and nodes never collide** in a graph that calls and lowerings make of the
empty one, however each of them ends and whatever names inputs and literals were given. -/
theorem reachable_names_distinct {graph : Graph} (reached : Graph.empty.Reaches graph) :
    (graph.layers.map Layer.name).Nodup ∧ (graph.nodes.map Node.name).Nodup ∧
      graph.nodes.map Node.name = graph.layers.flatMap Layer.nodeNames :=
  have numbered := Graph.Numbered.of_yields reached.yields .empty
  ⟨numbered.distinct, numbered.distinct_nodes, numbered.nodes⟩

/-- Two products of the same tensors, both transposed. The inputs bear names of nodes, the output of
the first product has to give way to one of them, and a reshape between them fails only after it has
taken a number. -/
def Graph.imitated : Graph :=
  let a : Handle := ⟨"matmul_1", [.size 2, .symbol "n"], .float32⟩
  let b : Handle := ⟨"matmul_4_transpose_a", [.symbol "n", .size 2], .float32⟩
  Graph.empty.after
    [.addInput a.name a.shape a.dtype, .addInput b.name b.shape b.dtype,
      .addInput "matmul_1_out" [.size 2] .float32, .matmul a b true true,
      .reshape a [.size (indexMax + 1)], .matmul a b true true]

/-- The number that was taken in vain is not given again. -/
theorem imitated_names_distinct :
    Graph.imitated.layers.map Layer.name = ["matmul_1", "matmul_4"] ∧
      (Graph.imitated.layers.map Layer.name).Nodup ∧ (Graph.imitated.nodes.map Node.name).Nodup ∧
        Graph.imitated.nodes.map Node.name = Graph.imitated.layers.flatMap Layer.nodeNames := by
  have reached : Graph.empty.Reaches Graph.imitated :=
    (Graph.yields_after .empty _ fun _ _ => trivial : Graph.Yields (fun _ => True) _ _).reaches
  exact ⟨by decide, reachable_names_distinct reached⟩

end OperatorLowering
