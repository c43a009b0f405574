/-
**Tables keyed by name, in order of first entry.**

A table lists its entries in the order in which their names first came in. Entering a name again
replaces its value where it stands.

* `get?_insert`: the new value under its name, every other name as before;
* `names_insert`: a new name goes last, a known one keeps its place.
-/

namespace OperatorLowering

/-- Values under distinct names, in the order in which the names first came in. -/
structure NameTable (Value : Type) where
  entries : List (String × Value)

namespace NameTable

variable {Value : Type}

/-- The table without entries. -/
def empty : NameTable Value := ⟨[]⟩

/-- The value under a name. -/
def get? (table : NameTable Value) (name : String) : Option Value :=
  table.entries.lookup name

/-- The names, in order. -/
def names (table : NameTable Value) : List String :=
  table.entries.map Prod.fst

/-- The values, in order of their names. -/
def values (table : NameTable Value) : List Value :=
  table.entries.map Prod.snd

/-- The name has an entry. -/
def contains (table : NameTable Value) (name : String) : Bool :=
  (table.get? name).isSome

/-- Entries with a value put under a name: in its place if there is one, else at the end. -/
def put (name : String) (value : Value) : List (String × Value) → List (String × Value)
  | [] => [(name, value)]
  | entry :: rest =>
    if name = entry.1 then (name, value) :: rest else entry :: put name value rest

/-- The table with a value put under a name. -/
def insert (table : NameTable Value) (name : String) (value : Value) : NameTable Value :=
  ⟨put name value table.entries⟩

/-! ### Small facts -/

@[simp] theorem get?_empty (name : String) : (empty : NameTable Value).get? name = none := rfl

theorem lookup_put (name other : String) (value : Value) (entries : List (String × Value)) :
    (put name value entries).lookup other =
      if other = name then some value else entries.lookup other := by
  induction entries with
  | nil => grind [put]
  | cons entry rest ih => grind [put]

@[simp] theorem get?_insert (table : NameTable Value) (name other : String) (value : Value) :
    (table.insert name value).get? other =
      if other = name then some value else table.get? other :=
  lookup_put name other value table.entries

theorem lookup_isSome (name : String) (entries : List (String × Value)) :
    (entries.lookup name).isSome = true ↔ name ∈ entries.map Prod.fst := by
  induction entries with
  | nil => simp
  | cons entry rest ih => grind

theorem contains_iff (table : NameTable Value) (name : String) :
    table.contains name = true ↔ name ∈ table.names :=
  lookup_isSome name table.entries

theorem map_fst_put (name : String) (value : Value) (entries : List (String × Value)) :
    (put name value entries).map Prod.fst =
      if name ∈ entries.map Prod.fst then entries.map Prod.fst
      else entries.map Prod.fst ++ [name] := by
  induction entries with
  | nil => simp [put]
  | cons entry rest ih => grind [put]

/-- A value under a new name goes last. -/
theorem entries_insert {table : NameTable Value} {name : String}
    (free : table.contains name = false) (value : Value) :
    (table.insert name value).entries = table.entries ++ [(name, value)] := by
  have fresh : name ∉ table.entries.map Prod.fst := by
    rw [← lookup_isSome, ← get?, ← contains, free]
    exact Bool.noConfusion
  show put name value table.entries = _
  generalize table.entries = entries at fresh
  induction entries with
  | nil => rfl
  | cons entry rest ih =>
    rw [List.map_cons, List.mem_cons, not_or] at fresh
    rw [put, if_neg fresh.1, ih fresh.2, List.cons_append]

theorem names_insert (table : NameTable Value) (name : String) (value : Value) :
    (table.insert name value).names =
      if name ∈ table.names then table.names else table.names ++ [name] :=
  map_fst_put name value table.entries

end NameTable

end OperatorLowering
