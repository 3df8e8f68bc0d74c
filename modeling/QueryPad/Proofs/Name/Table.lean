import Mathlib.Data.Finset.Card
import QueryPad.Name.Table
import QueryPad.Proofs.Name.Firsts

/-!
# What is in a table of names

A table is asked in two ways: whether it has a name, which its keys tell, and for the identifier of
a name, which its entries tell. `Collects` says what both come to in terms of the identifiers alone.
Main statement: `collects_ofList`, the table of a list has exactly the first identifiers of each key.
As a table is known by its casing and its entries (`ext_entries`), the identifiers of a table can be
collected again, by a casing that tells apart no more, as if the table had never been
(`recase_ofList`).
-/

namespace QueryPad

/-- A casing tells apart no more names than itself or `sensitive` does. -/
theorem Casing.key_eq_of_key_eq {casing casing' : Casing}
    (h : casing = casing' ∨ casing = .sensitive) {name other : String}
    (hkey : casing.key name = casing.key other) : casing'.key name = casing'.key other := by
  rcases h with rfl | rfl
  · exact hkey
  · exact congrArg casing'.key hkey

namespace NameTable

/-- A table is known by its casing and its entries. -/
theorem ext_entries {table table' : NameTable} (hcasing : table.casing = table'.casing)
    (hentries : table.entries = table'.entries) : table = table' := by
  obtain ⟨casing, entries, keys, hkeys, _⟩ := table
  obtain ⟨casing', entries', keys', hkeys', _⟩ := table'
  cases hcasing
  cases hentries
  cases hkeys.trans hkeys'.symm
  rfl

/-- No two names of a table have the same key. -/
theorem pairwise_names (table : NameTable) :
    table.names.Pairwise fun name other => table.casing.key name ≠ table.casing.key other := by
  have hkeys := table.nodup_keys
  rw [table.keys_eq] at hkeys
  exact List.pairwise_map.2 (List.pairwise_map.1 hkeys)

/-! ## Identifiers that are added -/

theorem keyOf_add (table : NameTable) (identifier : Identifier) :
    (table.add identifier).keyOf = table.keyOf := by
  funext i
  rw [keyOf, casing_add, keyOf]

theorem entries_add (table : NameTable) (identifier : Identifier) :
    (table.add identifier).entries =
      table.entries ++ [identifier].filter fun i => table.keyOf i ∉ table.keys := by
  unfold add
  split
  · next h => simp [h]
  · next h => simp [h]

/-- Of a list the first identifiers of the keys that the table does not have are added. -/
theorem entries_foldl_add (table : NameTable) (identifiers : List Identifier) :
    (identifiers.foldl add table).entries =
      table.entries ++
        (firsts table.keyOf identifiers).filter fun i => table.keyOf i ∉ table.keys := by
  induction identifiers generalizing table with
  | nil => simp
  | cons i is ih =>
    rw [List.foldl_cons, ih, keyOf_add, entries_add, firsts_cons, List.append_assoc]
    congr 1
    -- The first identifier is looked at on its own, as the table looks at it.
    show _ = ([i] ++ (firsts table.keyOf is).filter _).filter _
    rw [List.filter_append, List.filter_filter]
    congr 1
    refine List.filter_congr ?_
    intro j _
    simp [mem_keys_add]

/-- The table of a list has the first identifiers of each key. -/
theorem entries_ofList (casing : Casing) (identifiers : List Identifier) :
    (ofList casing identifiers).entries = firsts (fun i => casing.key i.name) identifiers := by
  rw [ofList, entries_foldl_add]
  show [] ++ (firsts (fun i => casing.key i.name) identifiers).filter (fun _ => true) = _
  rw [List.nil_append, List.filter_true]

/-- Of spellings of the same kind, the first of each key are the first identifiers. -/
theorem firsts_map_mk (casing : Casing) (kind : Identifier.Kind) (spellings : List String) :
    firsts (fun i => casing.key i.name) (spellings.map (Identifier.mk · kind)) =
      (firsts casing.key spellings).map (Identifier.mk · kind) :=
  firsts_map _ spellings

/-- Lists with the same first identifiers make the same table. -/
theorem ofList_congr {casing : Casing} {identifiers identifiers' : List Identifier}
    (h : firsts (fun i => casing.key i.name) identifiers =
      firsts (fun i => casing.key i.name) identifiers') :
    ofList casing identifiers = ofList casing identifiers' :=
  ext_entries (by rw [casing_ofList, casing_ofList]) (by rw [entries_ofList, entries_ofList, h])

/-- The entries of a table make the table of the whole list, by any casing that tells apart no
more. -/
theorem ofList_entries_ofList {casing casing' : Casing}
    (h : casing = casing' ∨ casing = .sensitive) (identifiers : List Identifier) :
    ofList casing' (ofList casing identifiers).entries = ofList casing' identifiers := by
  refine ofList_congr ?_
  rw [entries_ofList]
  exact firsts_firsts (fun _ _ => Casing.key_eq_of_key_eq h) identifiers

/-- So the casing of a table may be changed as if the list had been collected by the new one. -/
theorem recase_ofList {casing casing' : Casing} (h : casing = casing' ∨ casing = .sensitive)
    (identifiers : List Identifier) :
    (ofList casing identifiers).recase casing' = ofList casing' identifiers := by
  unfold recase
  split
  · next heq => rw [← heq, casing_ofList]
  · exact ofList_entries_ofList h identifiers

/-! ## Names that are looked up -/

theorem find?_ofList (casing : Casing) (identifiers : List Identifier) (name : String) :
    (ofList casing identifiers).find? name =
      identifiers.find? fun i => casing.key i.name == casing.key name := by
  simp only [find?, keyOf, casing_ofList, entries_ofList]
  exact find?_firsts (· == casing.key name) identifiers

/-- A table has a name exactly if it has an identifier of that name. -/
theorem contains_iff_isSome_find? (table : NameTable) (name : String) :
    table.contains name = true ↔ (table.find? name).isSome = true := by
  rw [contains_iff, find?, List.find?_isSome]
  simp only [keyOf, beq_iff_eq]

/-- A table has as many identifiers as there are keys of them. -/
theorem size_ofList (casing : Casing) (identifiers : List Identifier) :
    (ofList casing identifiers).size =
      (identifiers.map fun i => casing.key i.name).toFinset.card := by
  have hkeys : (ofList casing identifiers).keys.toFinset =
      (identifiers.map fun i => casing.key i.name).toFinset := by
    ext key
    rw [List.mem_toFinset, ofList, mem_keys_foldl_add]
    simp [empty]
  rw [← hkeys, List.toFinset_card_of_nodup (ofList casing identifiers).nodup_keys, keys_eq,
    List.length_map, size]

/-! ## Tables of lists -/

/-- How a table stands to the identifiers that it was made of. -/
structure Collects (casing : Casing) (identifiers : List Identifier) (table : NameTable) :
    Prop where
  casing_eq : table.casing = casing
  /-- The entries are the identifiers whose key has not come up before, in order. -/
  entries_eq : table.entries = firsts (fun i => casing.key i.name) identifiers
  mem_keys_iff (key : String) : key ∈ table.keys ↔ ∃ i ∈ table.entries, casing.key i.name = key
  contains_iff_isSome (name : String) :
    table.contains name = true ↔ (table.find? name).isSome = true
  contains_iff_exists (name : String) :
    table.contains name = true ↔ ∃ i ∈ identifiers, casing.key i.name = casing.key name
  /-- What is found is the first identifier of the key. -/
  find?_eq (name : String) :
    table.find? name = identifiers.find? fun i => casing.key i.name == casing.key name
  size_eq : table.size = (identifiers.map fun i => casing.key i.name).toFinset.card
  ofList_entries : ofList casing table.entries = table

/-- The table of a list collects the identifiers in the list, whatever they are. -/
theorem collects_ofList (casing : Casing) (identifiers : List Identifier) :
    Collects casing identifiers (ofList casing identifiers) where
  casing_eq := casing_ofList casing identifiers
  entries_eq := entries_ofList casing identifiers
  mem_keys_iff key := by
    rw [keys_eq, casing_ofList, List.mem_map]
  contains_iff_isSome := contains_iff_isSome_find? _
  contains_iff_exists _ := contains_ofList
  find?_eq := find?_ofList casing identifiers
  size_eq := size_ofList casing identifiers
  ofList_entries := ofList_entries_ofList (.inl rfl) identifiers

end NameTable

end QueryPad
