import KitchenSync.SchemaMatch
import Mathlib.Order.Basic
import Mathlib.Data.Prod.Lex

/-!
# Sorting by name

`check_tables_match` and `check_keys_match` sort with `std::sort`, which fixes no
order between equivalent elements. The model sorts by insertion. This file shows
that when the sort keys of a list are distinct, the sorted list depends only on
the list's elements: every permutation of it sorts to the same list, which is
strictly increasing in the key.
-/

namespace KitchenSync

section SortByKey

variable {α β : Type*} [LinearOrder β] (key : α → β) {r : α → α → Prop}

/-- A comparison that orders by a key into a linear order is total. -/
theorem isTotal_of_key (hr : ∀ a b, r a b ↔ key a ≤ key b) : IsTotal α r :=
  ⟨fun a b => by simpa only [hr] using le_total (key a) (key b)⟩

/-- A comparison that orders by a key into a linear order is transitive. -/
theorem isTrans_of_key (hr : ∀ a b, r a b ↔ key a ≤ key b) : IsTrans α r :=
  ⟨fun a b c => by simpa only [hr] using le_trans⟩

/-- Sorting by a key leaves a list whose keys strictly increase, once the keys of the
input are distinct. -/
theorem sorted_lt_insertionSort [DecidableRel r] (hr : ∀ a b, r a b ↔ key a ≤ key b) {l : List α}
    (hkey : (l.map key).Nodup) :
    (l.insertionSort r).Sorted fun a b => key a < key b := by
  haveI := isTotal_of_key key hr
  haveI := isTrans_of_key key hr
  have hne : (l.insertionSort r).Pairwise fun a b => key a ≠ key b :=
    List.pairwise_map.mp (((List.perm_insertionSort r l).map key).nodup_iff.mpr hkey)
  exact ((List.sorted_insertionSort r l).and hne).imp fun h => lt_of_le_of_ne ((hr _ _).mp h.1) h.2

/-- Sorting by a key with distinct values gives one list for every permutation. -/
theorem insertionSort_eq_of_perm [DecidableRel r] (hr : ∀ a b, r a b ↔ key a ≤ key b)
    {l l' : List α} (hperm : l.Perm l') (hkey : (l.map key).Nodup) :
    l.insertionSort r = l'.insertionSort r := by
  haveI : IsAntisymm α fun a b => key a < key b :=
    ⟨fun _ _ h h' => absurd (h.trans h') (lt_irrefl _)⟩
  exact List.eq_of_perm_of_sorted
    (((List.perm_insertionSort r l).trans hperm).trans (List.perm_insertionSort r l').symm)
    (sorted_lt_insertionSort key hr hkey)
    (sorted_lt_insertionSort key hr (((hperm.map key).nodup_iff).mp hkey))

end SortByKey

/-- `sortTables` compares the characters of the names. -/
theorem sortTables_rel_iff (table other : Table) :
    ¬other.name.data < table.name.data ↔ table.name.data ≤ other.name.data :=
  not_lt

/-- Sorting the tables permutes them. -/
theorem sortTables_perm (tables : List Table) : (sortTables tables).Perm tables :=
  List.perm_insertionSort _ tables

/-- With distinct names, the sorted tables have strictly increasing names. -/
theorem sortTables_sorted {tables : List Table} (hnames : (tables.map (·.name)).Nodup) :
    (sortTables tables).Sorted fun table other => table.name.data < other.name.data :=
  sorted_lt_insertionSort (fun table : Table => table.name.data) sortTables_rel_iff
    (by simpa [Function.comp_def] using hnames.map fun _ _ h => String.ext h)

/-- With distinct names, the order of the tables does not matter to the sort. -/
theorem sortTables_eq_of_perm {tables tables' : List Table} (hperm : tables.Perm tables')
    (hnames : (tables.map (·.name)).Nodup) : sortTables tables = sortTables tables' :=
  insertionSort_eq_of_perm (fun table : Table => table.name.data) sortTables_rel_iff hperm
    (by simpa [Function.comp_def] using hnames.map fun _ _ h => String.ext h)

/-- Sorting commutes with a change of the tables that keeps their names. -/
theorem map_sortTables (f : Table → Table) (hf : ∀ table, (f table).name = table.name)
    (tables : List Table) : (sortTables tables).map f = sortTables (tables.map f) :=
  List.map_insertionSort _ _ f tables fun a _ b _ => by simp only [hf]

/-- `KeyType` enumerators are told apart by their values. -/
theorem KeyType.toNat_inj {kind kind' : KeyType} : kind.toNat = kind'.toNat ↔ kind = kind' := by
  cases kind <;> cases kind' <;> decide

/-- The position of a key in the order of `Key::operator<`: its type, then its name. -/
def Key.rank (key : Key) : ℕ ×ₗ List Char := toLex (key.keyType.toNat, key.name.data)

/-- `Key::operator<` is the lexicographic order on type and name. -/
theorem Key.lt_iff_rank_lt (key other : Key) : Key.lt key other ↔ key.rank < other.rank := by
  rw [Key.rank, Key.rank, Prod.Lex.lt_iff, Key.lt]
  by_cases htype : key.keyType = other.keyType
  · simp [htype]
  · have hne : key.keyType.toNat ≠ other.keyType.toNat := fun h => htype (KeyType.toNat_inj.mp h)
    simp only [ne_eq, htype, not_false_eq_true, ite_true, hne, false_and, or_false]

/-- `sortKeys` orders keys by rank. -/
theorem sortKeys_rel_iff (key other : Key) : ¬Key.lt other key ↔ key.rank ≤ other.rank := by
  rw [Key.lt_iff_rank_lt, not_lt]

/-- Distinct key names give distinct ranks. -/
theorem nodup_rank_of_nodup_name {keys : List Key} (hnames : (keys.map (·.name)).Nodup) :
    (keys.map Key.rank).Nodup := by
  refine List.Nodup.of_map (fun p : ℕ ×ₗ List Char => String.mk (ofLex p).2) ?_
  simpa [Function.comp_def, Key.rank] using hnames

/-- Sorting the keys permutes them. -/
theorem sortKeys_perm (keys : List Key) : (sortKeys keys).Perm keys :=
  List.perm_insertionSort _ keys

/-- With distinct names, the order of the keys does not matter to the sort. -/
theorem sortKeys_eq_of_perm {keys keys' : List Key} (hperm : keys.Perm keys')
    (hnames : (keys.map (·.name)).Nodup) : sortKeys keys = sortKeys keys' :=
  insertionSort_eq_of_perm Key.rank sortKeys_rel_iff hperm (nodup_rank_of_nodup_name hnames)

end KitchenSync
