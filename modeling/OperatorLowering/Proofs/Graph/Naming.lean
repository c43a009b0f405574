/-
**Generated names are free.**

A taken name is replaced by its first free variant above the counter. Variants with different
numbers differ, whatever their stems (`number_of_variant`), so of one more variant of a stem than
there are names in the table at least one is free (`exists_free`), and the search finds the least
(`firstFree_isLeast`), which is not far (`firstFree_le`).

* `uniqueName_free`: the name that a graph hands out belongs to none of its tensors;
* `uniqueName_graph`: handing it out changes the counter alone, and never lowers it.
-/

import Mathlib.Data.List.DropRight
import Mathlib.Data.List.Nodup
import Mathlib.Order.Interval.Finset.Nat
import Mathlib.Tactic.Push
import OperatorLowering.Graph.Build

namespace OperatorLowering

/-! ### Variants -/

/-- What stands behind the last underscore of a name. -/
def lastPart (name : String) : List Char :=
  name.toList.rtakeWhile (· ≠ '_')

theorem lastPart_append {front back : String} (whole : '_' ∉ back.toList) :
    lastPart (front ++ "_" ++ back) = back.toList := by
  have kept : ∀ char ∈ back.toList.reverse, decide (char ≠ '_') = true := by
    intro char member
    refine decide_eq_true fun same => whole ?_
    rwa [← same, ← List.mem_reverse]
  unfold lastPart List.rtakeWhile
  rw [String.toList_append, String.toList_append, List.reverse_append,
    List.takeWhile_append_of_pos kept, List.reverse_append]
  simp

/-- A variant ends in its number, whatever its stem. -/
theorem lastPart_variant (stem : String) (number : Nat) :
    lastPart (variant stem number) = Nat.toDigits 10 number := by
  have whole : '_' ∉ number.repr.toList := by
    intro member
    rw [Nat.toList_repr] at member
    exact absurd (Nat.isDigit_of_mem_toDigits (by decide) (by decide) member) (by decide)
  exact (lastPart_append whole).trans Nat.toList_repr

/-- **Variants of any two stems** are told apart by their numbers. -/
theorem number_of_variant {stem other : String} {first second : Nat}
    (same : variant stem first = variant other second) : first = second := by
  have digits : Nat.toDigits 10 first = Nat.toDigits 10 second := by
    rw [← lastPart_variant stem, ← lastPart_variant other, same]
  calc first = Nat.ofDigitChars 10 (Nat.toDigits 10 first) 0 :=
        (Nat.ofDigitChars_toDigits (by decide) (by decide)).symm
    _ = Nat.ofDigitChars 10 (Nat.toDigits 10 second) 0 := by rw [digits]
    _ = second := Nat.ofDigitChars_toDigits (by decide) (by decide)

/-- **Some variant is free**: of `taken.length + 1` numbers above the counter, one gives a name that
is not taken. -/
theorem exists_free (taken : List String) (stem : String) (counter : Nat) :
    ∃ number ∈ List.range' (counter + 1) (taken.length + 1), variant stem number ∉ taken := by
  by_contra allTaken
  push Not at allTaken
  have distinct : ((List.range' (counter + 1) (taken.length + 1)).map (variant stem)).Nodup :=
    List.Nodup.map (fun _ _ same => number_of_variant same) List.nodup_range'
  have inside : (List.range' (counter + 1) (taken.length + 1)).map (variant stem) ⊆ taken := by
    intro name member
    obtain ⟨number, listed, rfl⟩ := List.mem_map.mp member
    exact allTaken number listed
  have tooMany := distinct.length_le_of_subset inside
  simp only [List.length_map, List.length_range'] at tooMany
  omega

/-- **The first free number** is the least above the counter whose name is not taken. -/
theorem firstFree_isLeast (taken : List String) (stem : String) (counter : Nat) :
    IsLeast {number | counter < number ∧ variant stem number ∉ taken}
      (firstFree taken stem counter) := by
  cases found : (List.range' (counter + 1) (taken.length + 1)).find? fun number =>
      !taken.contains (variant stem number) with
  | none =>
      obtain ⟨free, listed, freeName⟩ := exists_free taken stem counter
      have busy := List.find?_eq_none.mp found free listed
      simp [freeName] at busy
  | some number =>
      obtain ⟨notTaken, listed, first⟩ := List.find?_range'_eq_some.mp found
      simp only [firstFree, found, Option.getD_some]
      refine ⟨⟨(List.mem_range'_1.mp listed).1, by simpa using notTaken⟩, ?_⟩
      intro other ⟨above, freeName⟩
      by_contra below
      have busy := first other above (Nat.lt_of_not_le below)
      simp [freeName] at busy

/-- A variant is longer than its stem. -/
theorem variant_ne_stem (stem : String) (number : Nat) : variant stem number ≠ stem := by
  intro same
  have lengths : (stem ++ "_" ++ number.repr).length = stem.length := congrArg String.length same
  rw [String.length_append, String.length_append, show "_".length = 1 from rfl] at lengths
  omega

/-- **The first free number is near**: the numbers between the counter and it belong to names that
are taken, and so does the stem. -/
theorem firstFree_le {taken : List String} {stem : String} (present : stem ∈ taken)
    (counter : Nat) : firstFree taken stem counter ≤ counter + taken.toFinset.card := by
  have least := firstFree_isLeast taken stem counter
  let between := Finset.Ioo counter (firstFree taken stem counter)
  have others : stem ∉ between.image (variant stem) := by
    intro member
    obtain ⟨number, _, same⟩ := Finset.mem_image.mp member
    exact variant_ne_stem stem number same
  have inside : insert stem (between.image (variant stem)) ⊆ taken.toFinset := by
    refine Finset.insert_subset (List.mem_toFinset.mpr present) fun name member => ?_
    obtain ⟨number, range, rfl⟩ := Finset.mem_image.mp member
    obtain ⟨above, below⟩ := Finset.mem_Ioo.mp range
    rw [List.mem_toFinset]
    by_contra freeName
    exact absurd (least.2 ⟨above, freeName⟩) (Nat.not_le_of_lt below)
  have count := Finset.card_le_card inside
  rw [Finset.card_insert_of_notMem others,
    Finset.card_image_of_injective _ fun _ _ => number_of_variant, Nat.card_Ioo] at count
  omega

/-! ### Names that a graph hands out -/

namespace Graph

/-- **A unique name is free.** -/
theorem uniqueName_free (graph : Graph) (name : String) :
    graph.tensors.contains (graph.uniqueName name).1 = false := by
  by_cases taken : graph.tensors.contains name = true
  · have free := (firstFree_isLeast graph.tensors.names name graph.counter).1.2
    simp only [uniqueName, taken, if_true]
    rw [← Bool.not_eq_true, NameTable.contains_iff]
    exact free
  · simp only [uniqueName, taken, Bool.false_eq_true, if_false]

/-- Handing out a unique name changes nothing but the counter, which does not fall. -/
theorem uniqueName_graph (graph : Graph) (name : String) :
    ∃ counter, graph.counter ≤ counter ∧ (graph.uniqueName name).2 = { graph with counter } := by
  by_cases taken : graph.tensors.contains name = true
  · have above := (firstFree_isLeast graph.tensors.names name graph.counter).1.1
    refine ⟨firstFree graph.tensors.names name graph.counter, Nat.le_of_lt above, ?_⟩
    simp only [uniqueName, taken, if_true]
  · refine ⟨graph.counter, Nat.le_refl _, ?_⟩
    simp only [uniqueName, taken, Bool.false_eq_true, if_false]

end Graph

end OperatorLowering
