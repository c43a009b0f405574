/-
**Lists aligned at their ends.**

Broadcasting aligns two lists at their last entries and pads the shorter one at the front with ones.
What counts is therefore the entry at each distance from the end (`fromEnd`), which padding does not
change. A combination of two aligned lists is the combination of their entries
(`alignMap?_eq_some`).
-/

import Mathlib.Data.List.Forall2
import OperatorLowering.Shape.Basic

namespace OperatorLowering

variable {Entry : Type} {one : Entry}

/-- A list padded at the front up to a length. -/
def padFront (one : Entry) (rank : Nat) (list : List Entry) : List Entry :=
  List.replicate (rank - list.length) one ++ list

/-- The entry at a distance from the end, or one in front of the list. -/
def fromEnd (one : Entry) (list : List Entry) (distance : Nat) : Entry :=
  list.reverse.getD distance one

/-- Two lists aligned at their ends and combined entry by entry, if all entries combine. -/
def alignMap? (one : Entry) (combine : Entry → Entry → Option Entry) (first second : List Entry) :
    Option (List Entry) :=
  let rank := max first.length second.length
  ((padFront one rank first).zip (padFront one rank second)).mapM fun (left, right) =>
    combine left right

theorem length_padFront (rank : Nat) (list : List Entry) :
    (padFront one rank list).length = max rank list.length := by
  rw [padFront, List.length_append, List.length_replicate]
  omega

/-! ### Entries from the end -/

theorem fromEnd_of_length_le {list : List Entry} {distance : Nat}
    (beyond : list.length ≤ distance) : fromEnd one list distance = one := by
  rw [fromEnd, List.getD_eq_getElem?_getD, List.getElem?_eq_none (by simpa using beyond)]
  rfl

/-- Padding in front does not change what stands at a distance from the end. -/
theorem fromEnd_padFront (rank : Nat) (list : List Entry) (distance : Nat) :
    fromEnd one (padFront one rank list) distance = fromEnd one list distance := by
  unfold fromEnd padFront
  rw [List.reverse_append, List.reverse_replicate, List.getD_eq_getElem?_getD,
    List.getD_eq_getElem?_getD]
  by_cases inside : distance < list.length
  · rw [List.getElem?_append_left (by simpa using inside)]
  · rw [List.getElem?_append_right (by simpa using inside),
      List.getElem?_eq_none (l := list.reverse) (by simpa using inside),
      List.getElem?_replicate]
    split <;> rfl

theorem fromEnd_getElem (one : Entry) {list : List Entry} {index distance : Nat}
    (inside : index < list.length) (place : index + distance + 1 = list.length) :
    fromEnd one list distance = list[index] := by
  unfold fromEnd
  rw [List.getD_eq_getElem?_getD, List.getElem?_reverse (by omega),
    show list.length - 1 - distance = index by omega, List.getElem?_eq_getElem inside]
  rfl

/-- Lists of one length with the same entries from the end are the same. -/
theorem eq_of_fromEnd (one : Entry) {first second : List Entry}
    (length : first.length = second.length)
    (entries : ∀ distance, fromEnd one first distance = fromEnd one second distance) :
    first = second := by
  apply List.ext_getElem length
  intro index inside inside'
  rw [← fromEnd_getElem one inside (show index + (first.length - 1 - index) + 1 = _ by omega),
    ← fromEnd_getElem one inside' (show index + (first.length - 1 - index) + 1 = _ by omega)]
  exact entries _

/-- Every entry stands at some distance from the end. -/
theorem exists_fromEnd (one : Entry) {list : List Entry} {entry : Entry} (member : entry ∈ list) :
    ∃ distance, fromEnd one list distance = entry := by
  obtain ⟨index, inside, rfl⟩ := List.getElem_of_mem member
  exact ⟨list.length - 1 - index, fromEnd_getElem one inside (by omega)⟩

/-- What stands at a distance from the end is in the list, if it is not one. -/
theorem fromEnd_mem {list : List Entry} {distance : Nat} (other : fromEnd one list distance ≠ one) :
    fromEnd one list distance ∈ list := by
  have inside : distance < list.length :=
    Nat.lt_of_not_le fun beyond => other (fromEnd_of_length_le beyond)
  rw [@fromEnd_getElem _ one list (list.length - 1 - distance) distance (by omega) (by omega)]
  exact List.getElem_mem _

/-- At an index of a padded list stands what the list has at that distance from the end. -/
theorem getElem_padFront (one : Entry) {list : List Entry} {rank index : Nat}
    (inside : index < (padFront one rank list).length) (short : list.length ≤ rank) :
    (padFront one rank list)[index] = fromEnd one list (rank - 1 - index) := by
  have length := @length_padFront _ one rank list
  rw [← fromEnd_padFront rank list]
  exact (fromEnd_getElem one inside (by omega)).symm

/-! ### Aligned combinations -/

theorem length_zip_padFront (first second : List Entry) :
    ((padFront one (max first.length second.length) first).zip
      (padFront one (max first.length second.length) second)).length =
        max first.length second.length := by
  rw [List.length_zip, length_padFront, length_padFront]
  omega

/-- What holds of all aligned pairs holds at every distance from the end. -/
theorem forall_aligned {holds : Entry → Entry → Prop} (ones : holds one one)
    (first second : List Entry) :
    (∀ pair ∈ (padFront one (max first.length second.length) first).zip
        (padFront one (max first.length second.length) second), holds pair.1 pair.2) ↔
      ∀ distance, holds (fromEnd one first distance) (fromEnd one second distance) := by
  let rank := max first.length second.length
  have zipLength : ((padFront one rank first).zip (padFront one rank second)).length = rank :=
    length_zip_padFront first second
  have shortFirst : first.length ≤ rank := Nat.le_max_left _ _
  have shortSecond : second.length ≤ rank := Nat.le_max_right _ _
  constructor
  · intro pairs distance
    by_cases inside : distance < rank
    · have pair := pairs _ (List.getElem_mem (show rank - 1 - distance < _ from
        lt_of_lt_of_eq (by omega) zipLength.symm))
      rw [List.getElem_zip, getElem_padFront one _ shortFirst, getElem_padFront one _ shortSecond,
        show rank - 1 - (rank - 1 - distance) = distance by omega] at pair
      exact pair
    · rwa [fromEnd_of_length_le (by omega), fromEnd_of_length_le (by omega)]
  · intro entries pair member
    obtain ⟨index, within, rfl⟩ := List.getElem_of_mem member
    rw [List.getElem_zip, getElem_padFront one _ shortFirst, getElem_padFront one _ shortSecond]
    exact entries _

theorem mapM_eq_some {Source Target : Type} {change : Source → Option Target}
    {sources : List Source} {targets : List Target} :
    sources.mapM change = some targets ↔
      List.Forall₂ (fun source target => change source = some target) sources targets := by
  induction sources generalizing targets with
  | nil => cases targets <;> simp
  | cons source rest ih =>
      rw [List.mapM_cons]
      cases found : change source with
      | none => cases targets <;> simp [found]
      | some target =>
          cases others : rest.mapM change with
          | none => cases targets <;> simp [found, ← ih, others]
          | some more => cases targets <;> simp [found, ← ih, others]

theorem isSome_mapM {Source Target : Type} {change : Source → Option Target}
    {sources : List Source} :
    (sources.mapM change).isSome = true ↔ ∀ source ∈ sources, (change source).isSome = true := by
  induction sources with
  | nil => simp
  | cons source rest ih =>
      rw [List.mapM_cons, List.forall_mem_cons, ← ih]
      cases change source with
      | none => simp
      | some target => cases rest.mapM change <;> simp

/-- Aligned lists combine if their entries do at every distance from the end. -/
theorem isSome_alignMap? {combine : Entry → Entry → Option Entry} {first second : List Entry}
    (ones : (combine one one).isSome = true) :
    (alignMap? one combine first second).isSome = true ↔
      ∀ distance, (combine (fromEnd one first distance) (fromEnd one second distance)).isSome =
        true :=
  isSome_mapM.trans
    (@forall_aligned _ one (fun left right => (combine left right).isSome = true) ones first second)

/-- **A combination of aligned lists** has the longer length and combines them at every distance
from the end. -/
theorem alignMap?_eq_some {combine : Entry → Entry → Option Entry} {first second result : List Entry}
    (ones : combine one one = some one) :
    alignMap? one combine first second = some result ↔
      result.length = max first.length second.length ∧
        ∀ distance, combine (fromEnd one first distance) (fromEnd one second distance) =
          some (fromEnd one result distance) := by
  let rank := max first.length second.length
  have zipLength : ((padFront one rank first).zip (padFront one rank second)).length = rank :=
    length_zip_padFront first second
  have shortFirst : first.length ≤ rank := Nat.le_max_left _ _
  have shortSecond : second.length ≤ rank := Nat.le_max_right _ _
  show List.mapM _ ((padFront one rank first).zip (padFront one rank second)) = _ ↔ _
  rw [mapM_eq_some, List.forall₂_iff_get]
  constructor
  · rintro ⟨length, entries⟩
    rw [zipLength] at length
    refine ⟨length.symm, ?_⟩
    intro distance
    by_cases inside : distance < rank
    · have entry := entries (rank - 1 - distance) (by omega) (by omega)
      simp only [List.get_eq_getElem, List.getElem_zip] at entry
      rw [getElem_padFront one _ shortFirst, getElem_padFront one _ shortSecond,
        ← fromEnd_getElem one _ (show rank - 1 - distance + distance + 1 = result.length by omega),
        show rank - 1 - (rank - 1 - distance) = distance by omega] at entry
      exact entry
    · rw [fromEnd_of_length_le (by omega), fromEnd_of_length_le (by omega),
        fromEnd_of_length_le (by omega), ones]
  · rintro ⟨length, entries⟩
    refine ⟨zipLength.trans length.symm, ?_⟩
    intro index within inside'
    have inside : index < rank := zipLength ▸ within
    simp only [List.get_eq_getElem, List.getElem_zip]
    rw [getElem_padFront one _ shortFirst, getElem_padFront one _ shortSecond, entries,
      ← fromEnd_getElem one inside' (show index + (rank - 1 - index) + 1 = _ by omega)]

end OperatorLowering
