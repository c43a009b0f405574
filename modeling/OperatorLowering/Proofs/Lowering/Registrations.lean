/-
**What a registry remembers of its registrations.**

Each registration has a text and a converter. If the text is a signature, its kind gets the entry;
if not, nothing happens. So a registry is known from the entries that were made, in order: what a
kind has is its last entry, where it stands is where its first one was made.

* `Registry.Replays`: a registry is the outcome of some entries, kept by one more of them;
* `Registry.Remembers`: what then holds of lookup, listing, size and conversion;
* `registry_remembers`: this is so after any registrations, some of them failing.
-/

import Mathlib.Data.Finset.Card
import OperatorLowering.Lowering.Registry
import OperatorLowering.Proofs.Lowering.Steps

namespace OperatorLowering

/-! ### Tables that are filled entry by entry -/

namespace NameTable

variable {Value : Type}

/-- The names stay distinct. -/
theorem nodup_insert {table : NameTable Value} (distinct : table.names.Nodup) (name : String)
    (value : Value) : (table.insert name value).names.Nodup := by
  rw [names_insert]
  split
  · exact distinct
  · next fresh => exact List.nodup_append.mpr ⟨distinct, List.nodup_singleton name, by grind⟩

/-- The values are those of the names, in order. -/
theorem values_eq {table : NameTable Value} (distinct : table.names.Nodup) :
    table.values.map some = table.names.map table.get? := by
  obtain ⟨entries⟩ := table
  show (entries.map Prod.snd).map some = (entries.map Prod.fst).map fun name => entries.lookup name
  induction entries with
  | nil => rfl
  | cons entry rest ih =>
      obtain ⟨notLater, distinct'⟩ := List.nodup_cons.mp distinct
      have tail : (rest.map Prod.fst).map (fun name => (entry :: rest).lookup name) =
          (rest.map Prod.fst).map fun name => rest.lookup name := by
        refine List.map_congr_left fun name member => ?_
        have other : name ≠ entry.1 := fun same => notLater (same ▸ member)
        rw [List.lookup_cons, beq_false_of_ne other]
      rw [List.map_cons, List.map_cons, List.map_cons, List.map_cons, ih distinct', tail,
        List.lookup_cons_self]

end NameTable

/-- A member that was there before is dropped, a new one goes last. -/
theorem eraseDups_concat {Item : Type} [DecidableEq Item] (items : List Item) (item : Item) :
    (items ++ [item]).eraseDups =
      if item ∈ items then items.eraseDups else items.eraseDups ++ [item] := by
  rw [List.eraseDups_append]
  by_cases seen : item ∈ items
  · simp [List.removeAll, seen]
  · simp [List.removeAll, seen, List.eraseDups_cons]

/-! ### Registrations -/

/-- What a caller registers: the text of a signature and a converter for it. -/
structure Registration where
  text : String
  converter : Converter

namespace Registration

/-- The registration of the LSTM cell's converter. -/
def lstmCell : Registration := ⟨lstmCellText, Lower.convertLstmCell⟩

/-- The entry that a registration makes, if its text is a signature. -/
def entry? (registration : Registration) : Option RegistryEntry :=
  (Signature.ofText registration.text).toOption.map fun signature =>
    ⟨registration.text, signature, registration.converter⟩

theorem entry?_lstmCell :
    lstmCell.entry? = some ⟨lstmCellText, lstmCellSignature, Lower.convertLstmCell⟩ := by
  unfold entry? lstmCell
  rw [ofText_lstmCellText]
  rfl

end Registration

/-- The kind that an entry is registered for. -/
def RegistryEntry.kind (entry : RegistryEntry) : String :=
  entry.signature.kind

/-- The last one of some entries that is for a kind. -/
def RegistryEntry.lastFor (kind : String) (entries : List RegistryEntry) : Option RegistryEntry :=
  (entries.filter fun entry => entry.kind = kind).getLast?

/-- The kinds of some entries, each where it comes first. -/
def RegistryEntry.kinds (entries : List RegistryEntry) : List String :=
  (entries.map kind).eraseDups

/-- The failure that no converter is there for a node. -/
def OperatorNode.unsupported (node : OperatorNode) : Failure :=
  .ofNode node (.unsupported node.kind)

/-- The context in which a node's converter starts. -/
def Context.converting (context : Context) (node : OperatorNode) : Context :=
  { context with trace := context.trace ++ [.converting node] }

theorem RegistryEntry.lastFor_concat (kind : String) (entries : List RegistryEntry)
    (entry : RegistryEntry) : lastFor kind (entries ++ [entry]) =
      if kind = entry.kind then some entry else lastFor kind entries := by
  unfold lastFor
  rw [List.filter_append]
  by_cases same : kind = entry.kind
  · rw [if_pos same, List.filter_cons_of_pos (by simp [same]), List.filter_nil,
      List.getLast?_concat]
  · rw [if_neg same, List.filter_cons_of_neg (by simpa using Ne.symm same), List.filter_nil,
      List.append_nil]

namespace Registry

/-- The registry after a registration, whether it fails or not. -/
def attempt (registry : Registry) (registration : Registration) : Registry :=
  match registry.register registration.text registration.converter with
  | .ok (after, _) => after
  | .error _ => registry

/-- The registry after some registrations, one after the other. -/
def attempts (registry : Registry) (made : List Registration) : Registry :=
  made.foldl attempt registry

/-- **A registration** enters its entry, or changes nothing. -/
theorem attempt_eq (registry : Registry) (registration : Registration) :
    registry.attempt registration = (registration.entry?.map registry.insert).getD registry := by
  unfold attempt register Registration.entry?
  cases Signature.ofText registration.text with
  | ok signature => rfl
  | error fault => rfl

/-! ### Entries that were made -/

/-- **A registry is the outcome of some entries**: a kind has the last one that is for it, and
stands where its first one was made. -/
structure Replays (registry : Registry) (history : List RegistryEntry) : Prop where
  found : ∀ kind, registry.find? kind = RegistryEntry.lastFor kind history
  names : registry.entries.names = RegistryEntry.kinds history
  distinct : registry.entries.names.Nodup

variable {registry : Registry} {history : List RegistryEntry}

theorem replays_empty : empty.Replays [] where
  found _ := rfl
  names := rfl
  distinct := List.nodup_nil

/-- **One more entry.** -/
theorem Replays.insert (replays : registry.Replays history) (entry : RegistryEntry) :
    (registry.insert entry).Replays (history ++ [entry]) where
  found kind := by
    rw [RegistryEntry.lastFor_concat, ← replays.found kind]
    exact NameTable.get?_insert registry.entries entry.kind kind entry
  names := by
    have known : entry.kind ∈ registry.entries.names ↔
        entry.kind ∈ history.map RegistryEntry.kind := by
      rw [replays.names]
      exact List.mem_eraseDups
    show (registry.entries.insert entry.kind entry).names = _
    unfold RegistryEntry.kinds
    rw [NameTable.names_insert, List.map_append, List.map_singleton, eraseDups_concat,
      if_congr known rfl rfl, replays.names]
    rfl
  distinct := NameTable.nodup_insert replays.distinct entry.kind entry

/-- **One more registration**, failing or not. -/
theorem Replays.attempt (replays : registry.Replays history) (registration : Registration) :
    (registry.attempt registration).Replays (history ++ registration.entry?.toList) := by
  rw [attempt_eq]
  cases registration.entry? with
  | some entry => exact replays.insert entry
  | none =>
      rw [Option.toList_none, List.append_nil]
      exact replays

/-- **Any registrations**: the entries of those that do not fail are made. -/
theorem Replays.attempts (replays : registry.Replays history) (made : List Registration) :
    (registry.attempts made).Replays (history ++ made.filterMap Registration.entry?) := by
  induction made generalizing registry history with
  | nil =>
      rw [List.filterMap_nil, List.append_nil]
      exact replays
  | cons registration rest ih =>
      have next := ih (replays.attempt registration)
      rw [List.append_assoc] at next
      have entries : registration.entry?.toList ++ rest.filterMap Registration.entry? =
          (registration :: rest).filterMap Registration.entry? := by
        rw [List.filterMap_cons]
        cases registration.entry? <;> rfl
      rwa [entries] at next

end Registry

/-! ### Lookup, listing and conversion -/

/-- Some entry is the last one for a kind, unless there is none for it. -/
theorem RegistryEntry.lastFor_eq_none {kind : String} {entries : List RegistryEntry} :
    lastFor kind entries = none ↔ ∀ entry ∈ entries, entry.kind ≠ kind := by
  simp [lastFor]

/-- Arguments that are bound are handed to the converter, and the outputs are collected. -/
theorem RegistryEntry.convert_bound {entry : RegistryEntry} {node : OperatorNode}
    {arguments bound : List Argument}
    (binds : entry.signature.bindArguments node.outputs.length arguments = .ok bound)
    (context : Context) : entry.convert node arguments context =
      (entry.converter node bound >>= fun _ => Lower.requireOutputs node)
        (context.converting node) := by
  simp only [convert, binds]
  exact bind_run_ok (modify_run _ context)

/-- **A conversion as an entry says** reports a missing converter exactly if the converter that is
run does. -/
theorem RegistryEntry.convert_unsupported {entry : RegistryEntry} {node : OperatorNode}
    {arguments : List Argument} {context after : Context} :
    entry.convert node arguments context = .error node.unsupported after ↔
      ∃ bound, entry.signature.bindArguments node.outputs.length arguments = .ok bound ∧
        entry.converter node bound (context.converting node) =
          .error node.unsupported after := by
  cases binds : entry.signature.bindArguments node.outputs.length arguments with
  | error broken =>
      simp only [convert, binds]
      exact iff_of_false nofun nofun
  | ok bound =>
      rw [convert_bound binds]
      constructor
      · intro failed
        refine ⟨bound, rfl, ?_⟩
        cases run : entry.converter node bound (context.converting node) with
        | error failure stopped =>
            rw [bind_run_error run] at failed
            cases failed
            rfl
        | ok _ done =>
            rw [bind_run_ok run] at failed
            have reported := ((Lower.requireOutputs_ends node).error failed).2.2
            cases reported
      · rintro ⟨_, same, raised⟩
        cases same
        exact bind_run_error raised

namespace Registry

/-- **What a registry remembers** of the entries that were made: the last entry of each kind, the
kinds in the order of their first entries, and how a node is converted. -/
structure Remembers (registry : Registry) (history : List RegistryEntry) : Prop where
  found : ∀ kind, registry.find? kind = RegistryEntry.lastFor kind history
  listed : registry.signatureTexts.map some =
    (RegistryEntry.kinds history).map fun kind => (registry.find? kind).map RegistryEntry.text
  size : registry.size = (history.map RegistryEntry.kind).toFinset.card
  contains : ∀ kind, registry.contains kind = true ↔ registry.find? kind ≠ none
  converts : ∀ node entry, RegistryEntry.lastFor node.kind history = some entry →
    ∀ arguments, registry.convert node arguments = entry.convert node arguments
  unsupported : ∀ node arguments context after,
    registry.convert node arguments context = .error node.unsupported after ↔
      (∀ entry ∈ history, entry.kind ≠ node.kind) ∧ after = context ∨
      ∃ entry bound, RegistryEntry.lastFor node.kind history = some entry ∧
        entry.signature.bindArguments node.outputs.length arguments = .ok bound ∧
        entry.converter node bound (context.converting node) = .error node.unsupported after

variable {registry : Registry} {history : List RegistryEntry}

theorem convert_of_find {node : OperatorNode} {entry : RegistryEntry}
    (found : registry.find? node.kind = some entry) (arguments : List Argument) :
    registry.convert node arguments = entry.convert node arguments := by
  simp only [convert, found]

theorem convert_of_missing {node : OperatorNode} (missing : registry.find? node.kind = none)
    (arguments : List Argument) (context : Context) :
    registry.convert node arguments context = .error node.unsupported context := by
  simp only [convert, missing]
  rfl

/-- **The outcome of some entries** remembers them. -/
theorem Replays.remembers (replays : registry.Replays history) : registry.Remembers history where
  found := replays.found
  listed := by
    have values := congrArg (List.map (Option.map RegistryEntry.text))
      (NameTable.values_eq replays.distinct)
    rw [List.map_map, List.map_map, replays.names] at values
    rw [signatureTexts, List.map_map]
    exact values
  size := by
    rw [size, ← List.toFinset_card_of_nodup replays.distinct, replays.names]
    congr 1
    ext kind
    rw [List.mem_toFinset, List.mem_toFinset]
    exact List.mem_eraseDups
  contains kind := Option.isSome_iff_ne_none
  converts node entry last arguments := convert_of_find ((replays.found _).trans last) arguments
  unsupported node arguments context after := by
    cases last : RegistryEntry.lastFor node.kind history with
    | none =>
        have missing := (replays.found _).trans last
        have noEntry := RegistryEntry.lastFor_eq_none.mp last
        rw [convert_of_missing missing]
        constructor
        · intro failed
          cases failed
          exact Or.inl ⟨noEntry, rfl⟩
        · rintro (⟨_, rfl⟩ | ⟨_, _, found, _⟩)
          · rfl
          · cases found
    | some entry =>
        rw [convert_of_find ((replays.found _).trans last), RegistryEntry.convert_unsupported]
        constructor
        · rintro ⟨bound, binds, raised⟩
          exact Or.inr ⟨entry, bound, rfl, binds, raised⟩
        · rintro (⟨noEntry, _⟩ | ⟨_, bound, same, binds, raised⟩)
          · rw [RegistryEntry.lastFor_eq_none.mpr noEntry] at last
            cases last
          · cases same
            exact ⟨bound, binds, raised⟩

end Registry

/-- **A registry is a map in the order of first registrations, in which the last writer wins.**
After any registrations, from the empty or from the standard registry, it remembers the entries of
those whose text is a signature; the others change nothing. -/
theorem registry_remembers :
    (∀ made : List Registration,
      (Registry.empty.attempts made).Remembers (made.filterMap Registration.entry?)) ∧
    (∀ made : List Registration, (Registry.standard.attempts made).Remembers
      ((Registration.lstmCell :: made).filterMap Registration.entry?)) ∧
    ∀ (registry : Registry) (registration : Registration),
      registration.entry? = none → registry.attempt registration = registry := by
  refine ⟨fun made => (Registry.replays_empty.attempts made).remembers, fun made => ?_, ?_⟩
  · have standard : Registry.standard = Registry.empty.attempt Registration.lstmCell := by
      rw [Registry.attempt_eq, Registration.entry?_lstmCell]
      rfl
    rw [standard]
    exact (Registry.replays_empty.attempts (Registration.lstmCell :: made)).remembers
  · intro registry registration malformed
    rw [Registry.attempt_eq, malformed]
    rfl

/-- An overload is no part of a kind: the second one takes the place of the first, in front of what
came between, and a text that is no signature leaves no trace. -/
example :
    let texts := ["aten::add.Tensor(Tensor a, Tensor b) -> Tensor", "aten::neg(Tensor a) -> Tensor",
      "aten::add.out(Tensor a", "aten::add.Scalar(Tensor a, Scalar b) -> Tensor"]
    (Registry.empty.attempts (texts.map (⟨·, Lower.convertLstmCell⟩))).signatureTexts =
      ["aten::add.Scalar(Tensor a, Scalar b) -> Tensor", "aten::neg(Tensor a) -> Tensor"] := by
  decide +kernel

end OperatorLowering
