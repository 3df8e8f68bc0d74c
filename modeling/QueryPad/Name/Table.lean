import QueryPad.Text.Words

/-!
# The names in sight

An identifier names an open sheet or one of its columns. A table holds the identifiers that an
editor knows, in the order in which they were found and one for each name; which names count as the
same is for the casing to decide. A table carries the proof that its keys are those of its entries
and that no two entries share one. Main statement: `contains_ofList`, a name is in a table exactly
if an identifier of that key went in.
-/

namespace QueryPad

/-- How names are compared. -/
inductive Casing
  | sensitive
  /-- ASCII letters match in either case. -/
  | insensitive
  deriving DecidableEq, Repr, Inhabited

/-- What a name is compared by: two names are the same if their keys are equal. -/
def Casing.key : Casing → String → String
  | .sensitive, name => name
  | .insensitive, name => Text.fold name

/-- What an identifier names. -/
inductive Identifier.Kind
  | sheet
  | column
  deriving DecidableEq, Repr

/-- A name and what it names. -/
structure Identifier where
  name : String
  kind : Identifier.Kind
  deriving DecidableEq, Repr

/-- The identifiers that an editor knows. -/
structure NameTable where
  casing : Casing
  /-- The identifiers in the order in which they were found, the first of each key. -/
  entries : List Identifier
  /-- The keys of the entries, computed once. -/
  keys : List String
  keys_eq : keys = entries.map fun identifier => casing.key identifier.name
  nodup_keys : keys.Nodup
  deriving DecidableEq, Repr

namespace NameTable

/-- No names. -/
def empty (casing : Casing) : NameTable :=
  ⟨casing, [], [], rfl, List.nodup_nil⟩

/-- The key of an identifier. -/
def keyOf (table : NameTable) (identifier : Identifier) : String :=
  table.casing.key identifier.name

/-- Adds an identifier, unless one of its key is there already. -/
def add (table : NameTable) (identifier : Identifier) : NameTable :=
  if h : table.keyOf identifier ∈ table.keys then table
  else
    { casing := table.casing
      entries := table.entries ++ [identifier]
      keys := table.keys ++ [table.keyOf identifier]
      keys_eq := by rw [List.map_append, table.keys_eq]; rfl
      nodup_keys := List.nodup_append.2 ⟨table.nodup_keys, by simp, by
        rintro key hkey other hother rfl
        rw [List.mem_singleton] at hother
        exact h (hother ▸ hkey)⟩ }

/-- The table of the identifiers in a list. -/
def ofList (casing : Casing) (identifiers : List Identifier) : NameTable :=
  identifiers.foldl add (empty casing)

/-- Whether some identifier has this name. -/
def contains (table : NameTable) (name : String) : Bool :=
  table.keys.contains (table.casing.key name)

/-- The identifier of this name. -/
def find? (table : NameTable) (name : String) : Option Identifier :=
  table.entries.find? fun identifier => table.keyOf identifier == table.casing.key name

/-- The number of identifiers. -/
def size (table : NameTable) : Nat :=
  table.entries.length

/-- The names as they were first spelled. -/
def names (table : NameTable) : List String :=
  table.entries.map (·.name)

/-- The same identifiers compared by another casing: of those that become the same the first
stays. -/
def recase (table : NameTable) (casing : Casing) : NameTable :=
  if table.casing = casing then table else ofList casing table.entries

@[simp] theorem casing_add (table : NameTable) (identifier : Identifier) :
    (table.add identifier).casing = table.casing := by
  unfold add
  split <;> rfl

theorem casing_foldl_add (table : NameTable) (identifiers : List Identifier) :
    (identifiers.foldl add table).casing = table.casing := by
  induction identifiers generalizing table with
  | nil => rfl
  | cons i is ih => rw [List.foldl_cons, ih, casing_add]

@[simp] theorem casing_ofList (casing : Casing) (identifiers : List Identifier) :
    (ofList casing identifiers).casing = casing :=
  casing_foldl_add _ _

theorem mem_keys_add {table : NameTable} {identifier : Identifier} {key : String} :
    key ∈ (table.add identifier).keys ↔ key ∈ table.keys ∨ key = table.keyOf identifier := by
  unfold add
  split
  · next h => exact ⟨.inl, fun hk => hk.elim id fun hk => hk ▸ h⟩
  · simp

theorem mem_keys_foldl_add {table : NameTable} {identifiers : List Identifier} {key : String} :
    key ∈ (identifiers.foldl add table).keys ↔
      key ∈ table.keys ∨ ∃ i ∈ identifiers, table.casing.key i.name = key := by
  induction identifiers generalizing table with
  | nil => simp
  | cons i is ih =>
    rw [List.foldl_cons, ih, mem_keys_add, casing_add, or_assoc]
    simp only [List.mem_cons, exists_eq_or_imp, keyOf]
    exact or_congr_right (or_congr_left eq_comm)

/-- A name is in a table exactly if an identifier of its key went in. -/
theorem contains_ofList {casing : Casing} {identifiers : List Identifier} {name : String} :
    (ofList casing identifiers).contains name = true ↔
      ∃ i ∈ identifiers, casing.key i.name = casing.key name := by
  rw [contains, List.contains_iff_mem, casing_ofList, ofList, mem_keys_foldl_add]
  simp [empty]

/-- A name is in a table exactly if an entry has its key. -/
theorem contains_iff {table : NameTable} {name : String} :
    table.contains name = true ↔
      ∃ i ∈ table.entries, table.casing.key i.name = table.casing.key name := by
  rw [contains, List.contains_iff_mem, table.keys_eq, List.mem_map]

/-- A table holds the same names after its casing was changed, compared by the new casing. -/
theorem contains_recase {table : NameTable} {casing : Casing} {name : String} :
    (table.recase casing).contains name = true ↔
      ∃ i ∈ table.entries, casing.key i.name = casing.key name := by
  unfold recase
  split
  · next h => rw [← h]; exact contains_iff
  · exact contains_ofList

end NameTable

end QueryPad
