/-
**Which accepted reshapes keep the number of elements.**

A reshape compares the numbers of elements only where both are known. With symbols it may be
accepted though no sizes of them make the numbers the same: `n` rows of three entries have an
accepted reshape to `n` rows of two. Whether there are such sizes is decided here. The symbols that
both shapes have cancel. What is left of the new shape is one symbol at most, since each of them is
left to the backend; it can make up for everything, if the known factors leave room. If nothing is
left there, the missing factor must be a product of the symbols that have gone. These may be any
numbers, so this is a matter of each prime: its exponent is a sum of multiplicities.

* `Shape.Fills`: the condition, read off the known dimensions and the symbols;
* `balanced_exact`, `balanced_inferred`: the equation of the two numbers of elements is solved
  exactly under it;
* `reshape_fills_iff`: so an accepted reshape can keep the number of elements exactly under it, and
  the backend then finds the declared shape.
-/

import Mathlib.Algebra.BigOperators.Ring.Multiset
import Mathlib.Algebra.Group.Submonoid.Membership
import Mathlib.Algebra.Order.BigOperators.GroupWithZero.Finset
import Mathlib.Data.Nat.Factorization.Basic
import OperatorLowering.Proofs.Lowering.Reachable
import OperatorLowering.Proofs.Meaning.Shapes

namespace OperatorLowering

/-! ### Known dimensions and symbols -/

/-- The name of a dimension that is a symbol. -/
def Dim.symbol? : Dim → Option String
  | .size _ => none
  | .symbol name => some name

/-- Sizes that are not zero have a product that is not zero. -/
theorem prod_map_ne_zero {sizes : String → Nat} (positive : ∀ name, 0 < sizes name)
    (symbols : Multiset String) : (symbols.map sizes).prod ≠ 0 := by
  refine Multiset.prod_ne_zero fun zero => ?_
  obtain ⟨name, _, same⟩ := Multiset.mem_map.mp zero
  exact Nat.ne_of_gt (positive name) same

namespace Shape

/-- The product of the known dimensions. -/
def knownSize (shape : Shape) : Nat :=
  ((shape.filterMap Dim.size?).map Int.toNat).prod

/-- The symbols, as often as they stand in the shape. -/
def symbols (shape : Shape) : Multiset String :=
  ↑(shape.filterMap Dim.symbol?)

/-- The symbols that a shape has more often than another one, by as often. -/
def surplus (shape other : Shape) : Multiset String :=
  shape.symbols - other.symbols

variable {shape newShape : Shape} {sizes : String → Nat}

theorem knownSize_size (size : Int) (shape : Shape) :
    knownSize (.size size :: shape) = size.toNat * shape.knownSize :=
  List.prod_cons

theorem knownSize_symbol (name : String) (shape : Shape) :
    knownSize (.symbol name :: shape) = shape.knownSize :=
  rfl

theorem symbols_size (size : Int) (shape : Shape) :
    symbols (.size size :: shape) = shape.symbols :=
  rfl

theorem symbols_symbol (name : String) (shape : Shape) :
    symbols (.symbol name :: shape) = name ::ₘ shape.symbols :=
  rfl

/-- **The number of elements**, in known dimensions and in symbols. -/
theorem prod_under (shape : Shape) (sizes : String → Nat) :
    (shape.under sizes).prod = shape.knownSize * (shape.symbols.map sizes).prod := by
  induction shape with
  | nil => rfl
  | cons dim rest ih =>
      have first : (under sizes (dim :: rest)).prod = dim.under sizes * (under sizes rest).prod :=
        List.prod_cons
      rw [first, ih]
      cases dim with
      | size size => rw [knownSize_size, symbols_size, Dim.under, mul_assoc]
      | symbol name =>
          rw [knownSize_symbol, symbols_symbol, Multiset.map_cons, Multiset.prod_cons, Dim.under,
            mul_left_comm]

/-- Known dimensions that are not empty have a product that is not zero. -/
theorem knownSize_pos (positive : ∀ size, .size size ∈ shape → 1 ≤ size) :
    0 < shape.knownSize := by
  induction shape with
  | nil => exact Nat.one_pos
  | cons dim rest ih =>
      have later := ih fun size member => positive size (List.mem_cons_of_mem dim member)
      cases dim with
      | symbol name => exact later
      | size size =>
          have large := positive size List.mem_cons_self
          rw [knownSize_size]
          exact Nat.mul_pos (by omega) later

/-- **Common symbols cancel**: the numbers of elements are the same if they are without them. -/
theorem same_volume_iff (positive : ∀ name, 0 < sizes name) :
    (shape.under sizes).prod = (newShape.under sizes).prod ↔
      shape.knownSize * ((shape.surplus newShape).map sizes).prod =
        newShape.knownSize * ((newShape.surplus shape).map sizes).prod := by
  have split (first second : Multiset String) : (first.map sizes).prod =
      ((first - second).map sizes).prod * ((first ∩ second).map sizes).prod := by
    rw [← Multiset.prod_add, ← Multiset.map_add, Multiset.sub_add_inter]
  have common := prod_map_ne_zero positive (shape.symbols ∩ newShape.symbols)
  rw [prod_under, prod_under, split shape.symbols newShape.symbols,
    split newShape.symbols shape.symbols, Multiset.inter_comm newShape.symbols, ← mul_assoc,
    ← mul_assoc]
  exact Nat.mul_left_inj common

/-- A symbol is not left over on both sides. -/
theorem surplus_apart (name : String) (here : name ∈ newShape.surplus shape) :
    name ∉ shape.surplus newShape := by
  rw [surplus, Multiset.mem_sub] at here ⊢
  omega

end Shape

/-! ### Exponents of a prime -/

/-- **The exponents that a prime can have** in a product of some symbols' sizes: the sums of the
symbols' multiplicities. -/
def exponents (symbols : Multiset String) : AddSubmonoid Nat :=
  AddSubmonoid.closure {count | ∃ name ∈ symbols, count = symbols.count name}

section Exponents

variable {symbols : Multiset String} {sizes : String → Nat}

/-- Each symbol has an exponent of its own, which counts as often as the symbol does. -/
theorem mem_exponents {total : Nat} :
    total ∈ exponents symbols ↔ ∃ each : String → Nat, (symbols.map each).sum = total := by
  constructor
  · intro member
    induction member using AddSubmonoid.closure_induction with
    | mem count generator =>
        obtain ⟨name, here, rfl⟩ := generator
        refine ⟨fun other => if name = other then 1 else 0, ?_⟩
        rw [Finset.sum_multiset_map_count]
        simp only [smul_eq_mul, mul_ite, mul_one, mul_zero, Finset.sum_ite_eq,
          Multiset.mem_toFinset, here, if_true]
    | zero => exact ⟨fun _ => 0, by simp⟩
    | add first second _ _ one two =>
        obtain ⟨each, rfl⟩ := one
        obtain ⟨other, rfl⟩ := two
        exact ⟨fun name => each name + other name, Multiset.sum_map_add⟩
  · rintro ⟨each, rfl⟩
    rw [Finset.sum_multiset_map_count]
    refine sum_mem fun name member => ?_
    rw [smul_eq_mul, mul_comm, ← smul_eq_mul]
    have generator : symbols.count name ∈ exponents symbols :=
      AddSubmonoid.subset_closure ⟨name, Multiset.mem_toFinset.mp member, rfl⟩
    exact nsmul_mem generator (each name)

/-- The exponent of a prime in a product is the sum of its exponents in the factors. -/
theorem factorization_prod_map (positive : ∀ name, 0 < sizes name) (symbols : Multiset String)
    (prime : Nat) : (symbols.map sizes).prod.factorization prime =
      (symbols.map fun name => (sizes name).factorization prime).sum := by
  induction symbols using Multiset.induction with
  | empty => simp
  | cons name rest ih =>
      rw [Multiset.map_cons, Multiset.prod_cons, Multiset.map_cons, Multiset.sum_cons,
        Nat.factorization_mul (Nat.ne_of_gt (positive name)) (prod_map_ne_zero positive rest),
        Finsupp.add_apply, ih]

/-- The number with given exponents at some primes, and no other prime factors. -/
def ofExponents (primes : Finset Nat) (exponent : Nat → Nat) : Nat :=
  ∏ prime ∈ primes, prime ^ exponent prime

theorem factorization_ofExponents {primes : Finset Nat} (arePrime : ∀ prime ∈ primes, prime.Prime)
    (exponent : Nat → Nat) (prime : Nat) : (ofExponents primes exponent).factorization prime =
      if prime ∈ primes then exponent prime else 0 := by
  unfold ofExponents
  rw [Nat.factorization_prod_apply fun other member =>
    pow_ne_zero _ (arePrime other member).ne_zero]
  have each : ∀ other ∈ primes, (other ^ exponent other).factorization prime =
      if other = prime then exponent other else 0 := by
    intro other member
    rw [(arePrime other member).factorization_pow, Finsupp.single_apply]
  rw [Finset.sum_congr rfl each, Finset.sum_ite_eq']

theorem ofExponents_pos {primes : Finset Nat} (arePrime : ∀ prime ∈ primes, prime.Prime)
    (exponent : Nat → Nat) : 0 < ofExponents primes exponent :=
  Finset.prod_pos fun prime member => Nat.pow_pos (arePrime prime member).pos

/-! ### The equation of the numbers of elements -/

variable {old new : Nat}

theorem factorization_mul_prod_map (oldPositive : 0 < old) (positive : ∀ name, 0 < sizes name)
    (lost : Multiset String) (prime : Nat) :
    (old * (lost.map sizes).prod).factorization prime = old.factorization prime +
      (lost.map fun name => (sizes name).factorization prime).sum := by
  rw [Nat.factorization_mul (Nat.ne_of_gt oldPositive) (prod_map_ne_zero positive lost),
    Finsupp.add_apply, factorization_prod_map positive]

/-- **From each prime to all of them**: a symbol's size gets, at each prime of the new factor, the
exponent that is its own there. -/
theorem balanced_of_exponents (oldPositive : 0 < old) (newPositive : 0 < new)
    {lost : Multiset String} {exponent : Nat → String → Nat}
    (sums : ∀ prime : Nat, prime.Prime →
      new.factorization prime = old.factorization prime + (lost.map (exponent prime)).sum) :
    ∃ sizes : String → Nat, (∀ name, 0 < sizes name) ∧ old * (lost.map sizes).prod = new := by
  have arePrime : ∀ prime ∈ new.primeFactors, prime.Prime :=
    fun prime => Nat.prime_of_mem_primeFactors
  let sizes (name : String) : Nat := ofExponents new.primeFactors (exponent · name)
  have positive (name : String) : 0 < sizes name := ofExponents_pos arePrime _
  have product_ne_zero : old * (lost.map sizes).prod ≠ 0 :=
    Nat.mul_ne_zero (Nat.ne_of_gt oldPositive) (prod_map_ne_zero positive lost)
  refine ⟨sizes, positive, ?_⟩
  refine Nat.eq_of_factorization_eq product_ne_zero (Nat.ne_of_gt newPositive) fun prime => ?_
  rw [factorization_mul_prod_map oldPositive positive]
  simp only [sizes, factorization_ofExponents arePrime]
  by_cases divides : prime ∈ new.primeFactors
  · simp only [divides, if_true]
    exact (sums prime (arePrime prime divides)).symm
  · have absent : new.factorization prime = 0 := by
      rwa [← Finsupp.notMem_support_iff, Nat.support_factorization]
    simp only [divides, if_false, Multiset.map_const', Multiset.sum_replicate, smul_zero, add_zero,
      absent]
    by_cases isPrime : prime.Prime
    · have sum := sums prime isPrime
      omega
    · exact Nat.factorization_eq_zero_of_not_prime _ isPrime

/-- **No symbol is gained**: the missing factor is a product of the lost symbols' sizes exactly if
it can be one at each prime. -/
theorem balanced_exact (oldPositive : 0 < old) (newPositive : 0 < new) (lost : Multiset String) :
    (∃ sizes : String → Nat, (∀ name, 0 < sizes name) ∧ old * (lost.map sizes).prod = new) ↔
      ∀ prime : Nat, prime.Prime → ∃ exponent ∈ exponents lost,
        new.factorization prime = old.factorization prime + exponent := by
  constructor
  · rintro ⟨sizes, positive, rfl⟩ prime _
    exact ⟨_, mem_exponents.mpr ⟨_, rfl⟩,
      factorization_mul_prod_map oldPositive positive lost prime⟩
  · intro each
    have chosen (prime : Nat) : ∃ exponent : String → Nat, prime.Prime →
        new.factorization prime = old.factorization prime + (lost.map exponent).sum := by
      by_cases isPrime : prime.Prime
      · obtain ⟨_, member, sum⟩ := each prime isPrime
        obtain ⟨exponent, rfl⟩ := mem_exponents.mp member
        exact ⟨exponent, fun _ => sum⟩
      · exact ⟨fun _ => 0, fun no => absurd no isPrime⟩
    choose exponent sums using chosen
    exact balanced_of_exponents oldPositive newPositive sums

/-- **One symbol is gained**: it makes up for what is missing, if there is a lost symbol to adjust
or the known factor divides. -/
theorem balanced_inferred (oldPositive : 0 < old) (newPositive : 0 < new) {lost : Multiset String}
    {name : String} (fresh : name ∉ lost) :
    (∃ sizes : String → Nat, (∀ name, 0 < sizes name) ∧
        old * (lost.map sizes).prod = new * sizes name) ↔ lost ≠ 0 ∨ new ∣ old := by
  constructor
  · rintro ⟨sizes, _, same⟩
    by_cases none : lost = 0
    · subst none
      rw [Multiset.map_zero, Multiset.prod_zero, mul_one] at same
      exact Or.inr ⟨_, same⟩
    · exact Or.inl none
  · intro room
    by_cases none : lost = 0
    · subst none
      obtain ⟨quotient, rfl⟩ := room.resolve_left (not_not_intro rfl)
      refine ⟨fun _ => quotient, fun _ => Nat.pos_of_mul_pos_left oldPositive, ?_⟩
      rw [Multiset.map_zero, Multiset.prod_zero, mul_one]
    · -- Each lost symbol brings the whole new factor; the gained one takes what is too much.
      obtain ⟨count, counted⟩ := Nat.exists_eq_add_one_of_ne_zero
        (Multiset.card_eq_zero.not.mpr none)
      let sizes (other : String) : Nat := if other = name then old * new ^ count else new
      have gained : sizes name = old * new ^ count := if_pos rfl
      have others {other : String} (differ : other ≠ name) : sizes other = new := if_neg differ
      have kept : lost.map sizes = Multiset.replicate (count + 1) new := by
        rw [← counted, ← Multiset.map_const']
        refine Multiset.map_congr rfl fun other member => others ?_
        rintro rfl
        exact fresh member
      refine ⟨sizes, fun other => ?_, ?_⟩
      · by_cases same : other = name
        · rw [same, gained]
          exact Nat.mul_pos oldPositive (Nat.pow_pos newPositive)
        · rwa [others same]
      · rw [kept, Multiset.prod_replicate, gained, pow_succ]
        ring

end Exponents

/-! ### Accepted reshapes -/

namespace Shape

/-- **The numbers of elements can be made the same.** A symbol that is gained makes up for
everything if a symbol is lost, or if the known factor divides; if none is gained, the missing
factor has at each prime an exponent that the lost symbols can have. -/
inductive Fills (shape newShape : Shape) : Prop
  | inferred (gained : newShape.surplus shape ≠ 0)
      (room : shape.surplus newShape ≠ 0 ∨ newShape.knownSize ∣ shape.knownSize)
  | exact (kept : newShape.surplus shape = 0)
      (primes : ∀ prime : Nat, prime.Prime → ∃ exponent ∈ exponents (shape.surplus newShape),
        newShape.knownSize.factorization prime = shape.knownSize.factorization prime + exponent)

variable {shape newShape : Shape}

/-- The symbols from an axis on are the one that stands there, if any, and those behind it. -/
theorem symbols_drop (shape : Shape) (axis : Nat) : symbols (shape.drop axis) =
    symbols shape[axis]?.toList + symbols (shape.drop (axis + 1)) := by
  rw [List.drop_eq_getElem?_toList_append]
  unfold symbols
  rw [List.filterMap_append, Multiset.coe_add]

/-- The symbols of a new shape are those of the old one and those that are left to the backend. -/
theorem symbols_le_of_targetDims {axis : Nat} {target : List TargetDim}
    (passed : shape.targetDims axis newShape = .ok target) :
    ∃ moved : Multiset String, moved.card = target.count .inferred ∧
      newShape.symbols ≤ symbols (shape.drop axis) + moved := by
  induction newShape generalizing axis target with
  | nil =>
      cases passed
      exact ⟨0, rfl, Multiset.zero_le _⟩
  | cons dim rest ih =>
      obtain ⟨first, others, found, later, rfl⟩ := targetDims_cons.mp passed
      obtain ⟨moved, counted, inside⟩ := ih later
      obtain ⟨_, rfl⟩ := targetDim_eq_ok.mp found
      have behind : symbols rest ≤ symbols (shape.drop axis) + moved := by
        rw [symbols_drop, add_assoc]
        exact inside.trans le_add_self
      have resolved {found : TargetDim} (differs : found ≠ .inferred) :
          moved.card = (found :: others).count .inferred :=
        counted.trans (List.count_cons_of_ne differs).symm
      cases dim with
      | size size => exact ⟨moved, resolved (fun same => by cases same), behind⟩
      | symbol name =>
          rw [symbols_symbol]
          by_cases stays : shape[axis]? = some (.symbol name)
          · rw [TargetDim.of, if_pos stays]
            refine ⟨moved, resolved (fun same => by cases same), ?_⟩
            rw [symbols_drop, stays, add_assoc]
            exact Multiset.cons_le_cons name inside
          · rw [TargetDim.of, if_neg stays]
            refine ⟨name ::ₘ moved, ?_, ?_⟩
            · rw [Multiset.card_cons, counted, List.count_cons_self]
            · rw [Multiset.add_cons]
              exact Multiset.cons_le_cons name behind

/-- **At most one symbol is gained.** -/
theorem surplus_card_le {target : List TargetDim}
    (found : shape.reshapeTarget newShape = .ok target) :
    (newShape.surplus shape).card ≤ 1 := by
  obtain ⟨_, passed, few⟩ := reshapeTarget_eq_ok.mp found
  obtain ⟨moved, counted, inside⟩ := symbols_le_of_targetDims passed
  calc (newShape.surplus shape).card ≤ moved.card :=
        Multiset.card_le_card (tsub_le_iff_left.mpr inside)
    _ = target.count .inferred := counted
    _ ≤ 1 := few

/-- **Sizes that keep the number of elements** exist exactly if the shapes allow it. -/
theorem fills_iff (positive : ∀ size, .size size ∈ shape → 1 ≤ size) {target : List TargetDim}
    (found : shape.reshapeTarget newShape = .ok target) :
    (∃ sizes : String → Nat, (∀ name, 0 < sizes name) ∧
      (shape.under sizes).prod = (newShape.under sizes).prod) ↔ shape.Fills newShape := by
  have oldPositive := knownSize_pos positive
  have newPositive : 0 < newShape.knownSize :=
    knownSize_pos ((targetDims_isOk shape 0).mp ⟨target, (reshapeTarget_eq_ok.mp found).2.1⟩)
  have cancelled : (∃ sizes : String → Nat, (∀ name, 0 < sizes name) ∧
      (shape.under sizes).prod = (newShape.under sizes).prod) ↔
      ∃ sizes : String → Nat, (∀ name, 0 < sizes name) ∧
        shape.knownSize * ((shape.surplus newShape).map sizes).prod =
          newShape.knownSize * ((newShape.surplus shape).map sizes).prod :=
    exists_congr fun sizes => and_congr_right same_volume_iff
  rw [cancelled]
  rcases Nat.le_one_iff_eq_zero_or_eq_one.mp (surplus_card_le found) with none | one
  · have kept := Multiset.card_eq_zero.mp none
    simp only [kept, Multiset.map_zero, Multiset.prod_zero, mul_one]
    rw [balanced_exact oldPositive newPositive]
    constructor
    · exact .exact kept
    · rintro (⟨gained, _⟩ | ⟨_, primes⟩)
      · exact absurd kept gained
      · exact primes
  · obtain ⟨name, gained⟩ := Multiset.card_eq_one.mp one
    have fresh := surplus_apart name (by rw [gained]; exact Multiset.mem_singleton_self name)
    simp only [gained, Multiset.map_singleton, Multiset.prod_singleton]
    rw [balanced_inferred oldPositive newPositive fresh]
    have nonzero : newShape.surplus shape ≠ 0 := by
      rw [gained]
      exact Multiset.singleton_ne_zero name
    constructor
    · exact .inferred nonzero
    · rintro (⟨_, room⟩ | ⟨kept, _⟩)
      · exact room
      · exact absurd kept nonzero

end Shape

/-- The dimensions that the backend finds have as many elements as those that it is given. -/
theorem Tensor.prod_of_targetDims? {dims found : List Nat} {target : List Int}
    (finds : targetDims? dims target = some found) : found.prod = dims.prod := by
  obtain ⟨sizes, _, finds⟩ := Option.bind_eq_some_iff.mp finds
  dsimp only at finds
  split at finds
  · next keeps =>
      cases finds
      exact keeps.2.2
  · cases finds

/-- **Which accepted reshapes can keep the number of elements.** Where a graph accepts the reshape
of a tensor whose known dimensions are not empty, there are sizes of all symbols for which both
shapes have the same number of elements if and only if the shapes allow it. These are the sizes for
which the backend, given the target that the graph has embedded, finds the declared shape. -/
theorem reshape_fills_iff {a output : Handle} {newShape : Shape} {graph after : Graph}
    (accepted : Build.reshape a newShape graph = .ok output after)
    (positive : ∀ size, .size size ∈ a.shape → 1 ≤ size) :
    ((∃ sizes : String → Nat, (∀ name, 0 < sizes name) ∧
        (a.shape.under sizes).prod = (newShape.under sizes).prod) ↔ a.shape.Fills newShape) ∧
      ∃ name target, after.constants = graph.constants ++ [⟨name, .indices target⟩] ∧
        ∀ sizes : String → Nat, (∀ name, 0 < sizes name) →
          (Tensor.targetDims? (a.shape.under sizes) target = some (newShape.under sizes) ↔
            (a.shape.under sizes).prod = (newShape.under sizes).prod) := by
  obtain ⟨_, _, additions, adds, grows⟩ := (Build.reshape_ends a newShape graph).ok accepted
  cases adds with
  | reshape _ _ _ target layer name targeted =>
      obtain ⟨found, passes, _⟩ := Shape.targetIndices?_eq_some.mp targeted
      have finds {sizes : String → Nat} (nonempty : ∀ name, 0 < sizes name) :=
        @targetDims?_under sizes _ _ _ targeted
          (under_pos_of_target targeted fun symbol _ => nonempty symbol)
      exact ⟨Shape.fills_iff positive passes, name, target, grows.constants, fun sizes nonempty =>
        ⟨fun found => (Tensor.prod_of_targetDims? found).symm, finds nonempty⟩⟩

/-- Three columns for a batch of symbolic size. -/
def Handle.triples : Handle := ⟨"x", [.symbol "n", .size 3], .float32⟩

theorem Handle.triples_positive : ∀ size, .size size ∈ Handle.triples.shape → 1 ≤ size := by
  simp [triples]

/-- A graph that has them as its input. -/
def Graph.triples : Graph :=
  final (Call.addInput "x" [.symbol "n", .size 3] .float32).build .empty

/-- **An accepted reshape that no sizes fit**: three columns become two, and the batch stays what it
is. For every size of the batch the backend rejects the target. -/
theorem triples_never_pairs :
    Graph.empty.Reaches .triples ∧ Graph.triples.owns .triples = true ∧
      (∀ size, .size size ∈ Handle.triples.shape → 1 ≤ size) ∧
      ∃ output after, Build.reshape .triples [.symbol "n", .size 2] .triples = .ok output after ∧
        after.constants = [⟨"reshape_1_shape", .indices [0, 2]⟩] ∧
        ∀ sizes : String → Nat, (∀ name, 0 < sizes name) →
          (Handle.triples.shape.under sizes).prod ≠
            (Shape.under sizes [.symbol "n", .size 2]).prod ∧
          Tensor.targetDims? (Handle.triples.shape.under sizes) [0, 2] = none := by
  have reached : Graph.empty.Reaches .triples :=
    .call .empty (.addInput "x" [.symbol "n", .size 3] .float32) (.start .empty)
  refine ⟨reached, by decide, Handle.triples_positive, _, _, rfl, rfl, fun sizes positive => ?_⟩
  have nonempty := positive "n"
  have differ : sizes "n" * (3 * 1) ≠ sizes "n" * (2 * 1) := by omega
  refine ⟨differ, ?_⟩
  -- The first code copies the batch and the second is a size: nothing is left to find.
  have reads : Tensor.targetDims? [sizes "n", 3] [0, 2] =
      if sizes "n" * (2 * 1) = sizes "n" * (3 * 1) then some [sizes "n", 2] else none := by
    simp [Tensor.targetDims?, Tensor.targetSize?]
  exact reads.trans (if_neg differ.symm)

/-- Two rows of as many entries as three columns need. -/
theorem triples_in_two_rows :
    ∃ output after, Build.reshape .triples [.size 2, .symbol "m"] .triples = .ok output after ∧
      ∃ sizes : String → Nat, (∀ name, 0 < sizes name) ∧
        (Handle.triples.shape.under sizes).prod =
          (Shape.under sizes [.size 2, .symbol "m"]).prod := by
  have accepted : ∃ output after,
      Build.reshape .triples [.size 2, .symbol "m"] .triples = .ok output after := ⟨_, _, rfl⟩
  obtain ⟨output, after, run⟩ := accepted
  -- The rows have lost the batch, which the entries of a row make up for.
  have fills : Handle.triples.shape.Fills [.size 2, .symbol "m"] :=
    .inferred (by decide) (Or.inl (by decide))
  exact ⟨output, after, run, (reshape_fills_iff run Handle.triples_positive).1.mpr fills⟩

end OperatorLowering
