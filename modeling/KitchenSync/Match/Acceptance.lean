import KitchenSync.Match.Tables
import KitchenSync.Match.Keys
import KitchenSync.Sorting

/-!
# What the schema comparison accepts

`check_schema_match` returns normally exactly when the databases agree: the same
tables are kept on both sides, and the two tables of each kept name have the same
column names in the same order, the same primary key, and keys that
`check_keys_match` accepts. Only distinct table names within each database are
assumed, the condition under which the sorted lockstep walk pairs tables by name.
-/

namespace KitchenSync

/-- `check_primary_key_matches` returns exactly when the index lists are equal. -/
theorem checkPrimaryKeyMatches_eq_ok_iff (table : Table) (fromColumns toColumns : List ℕ) :
    checkPrimaryKeyMatches table fromColumns toColumns = .ok () ↔ fromColumns = toColumns := by
  by_cases h : fromColumns = toColumns
  · simp [checkPrimaryKeyMatches, h]
  · simp only [checkPrimaryKeyMatches, ne_eq, h, not_false_eq_true, if_true, iff_false]
    cases columnsList table.columns toColumns <;> cases columnsList table.columns fromColumns <;>
      simp

/-- `check_table_match` returns exactly when the column names, the primary keys and,
through `check_keys_match`, the keys agree. -/
theorem checkTableMatch_eq_ok_iff (fromTable toTable : Table) :
    checkTableMatch fromTable toTable = .ok () ↔
      fromTable.columns.map (·.name) = toTable.columns.map (·.name) ∧
      fromTable.primaryKeyColumns = toTable.primaryKeyColumns ∧
      checkKeysMatch fromTable fromTable.keys toTable.keys = .ok () := by
  simp [checkTableMatch, checkColumnsMatch_eq_ok_iff, checkPrimaryKeyMatches_eq_ok_iff]

/-- The databases agree on their kept tables: one set of kept names, and for each kept
name two tables that `check_table_match` is meant to accept. -/
structure SchemasAgree (fromDatabase toDatabase : Database)
    (ignoreTables onlyTables : List String) : Prop where
  sameTables : ∀ name,
    (∃ table ∈ fromDatabase.tables, ¬Ignored ignoreTables onlyTables table ∧ table.name = name) ↔
      ∃ table ∈ toDatabase.tables, ¬Ignored ignoreTables onlyTables table ∧ table.name = name
  tablesAgree : ∀ fromTable ∈ fromDatabase.tables, ∀ toTable ∈ toDatabase.tables,
    ¬Ignored ignoreTables onlyTables fromTable → fromTable.name = toTable.name →
      fromTable.columns.map (·.name) = toTable.columns.map (·.name) ∧
      fromTable.primaryKeyColumns = toTable.primaryKeyColumns ∧
      checkKeysMatch fromTable fromTable.keys toTable.keys = .ok ()

variable {ignoreTables onlyTables : List String}

/-- The kept tables in sorted order are the kept tables of the database. -/
theorem mem_sortTables_filter {tables : List Table} {table : Table} :
    table ∈ (sortTables tables).filter (kept ignoreTables onlyTables) ↔
      table ∈ tables ∧ ¬Ignored ignoreTables onlyTables table := by
  simp [List.mem_filter, (sortTables_perm tables).mem_iff]

/-- With distinct names, the sorted kept tables have strictly increasing names. -/
theorem sortTables_filter_sorted {tables : List Table} (hnames : (tables.map (·.name)).Nodup) :
    ((sortTables tables).filter (kept ignoreTables onlyTables)).Sorted
      fun table other => table.name.data < other.name.data :=
  (sortTables_sorted hnames).filter _

/-- Two lists with strictly increasing names and the same names list them alike. -/
theorem map_name_eq_of_sorted {tables others : List Table}
    (hsorted : tables.Sorted fun table other => table.name.data < other.name.data)
    (hsorted' : others.Sorted fun table other => table.name.data < other.name.data)
    (hsame : ∀ name, name ∈ tables.map (·.name) ↔ name ∈ others.map (·.name)) :
    tables.map (·.name) = others.map (·.name) := by
  have hlt : ∀ {l : List Table}, l.Sorted (fun table other => table.name.data < other.name.data) →
      (l.map (·.name)).Sorted (· < ·) := fun h =>
    List.pairwise_map.mpr (h.imp fun hlt => String.lt_iff_toList_lt.mpr hlt)
  exact List.eq_of_perm_of_sorted
    ((List.perm_ext_iff_of_nodup (hlt hsorted).nodup (hlt hsorted').nodup).mpr hsame)
    (hlt hsorted) (hlt hsorted')

/-- Paired lists list the same names. -/
theorem map_name_eq_of_forall₂ {R : Table → Table → Prop} {tables others : List Table}
    (h : List.Forall₂ (fun table other => table.name = other.name ∧ R table other) tables others) :
    tables.map (·.name) = others.map (·.name) := by
  induction h with
  | nil => rfl
  | cons hr _ ih => simp [hr.1, ih]

/-- Every table of a paired list has a partner in the other list. -/
theorem exists_of_forall₂ {R : Table → Table → Prop} {tables others : List Table}
    (h : List.Forall₂ R tables others) {table : Table} (hmem : table ∈ tables) :
    ∃ other ∈ others, R table other := by
  induction h with
  | nil => simp at hmem
  | @cons a b _ _ hr _ ih =>
    rcases List.mem_cons.mp hmem with rfl | hmem
    · exact ⟨b, List.mem_cons_self _ _, hr⟩
    · obtain ⟨other, hother, hrel⟩ := ih hmem
      exact ⟨other, List.mem_cons_of_mem _ hother, hrel⟩

/-- Lists with the same names pair off, given that tables of one name are related. -/
theorem forall₂_of_map_name_eq {R : Table → Table → Prop} {tables others : List Table}
    (hnames : tables.map (·.name) = others.map (·.name))
    (hrel : ∀ table ∈ tables, ∀ other ∈ others, table.name = other.name → R table other) :
    List.Forall₂ (fun table other => table.name = other.name ∧ R table other) tables others := by
  induction tables generalizing others with
  | nil => cases others <;> simp_all
  | cons table tables ih =>
    cases others with
    | nil => simp at hnames
    | cons other others =>
      simp only [List.map_cons, List.cons.injEq] at hnames
      exact .cons ⟨hnames.1, hrel _ (List.mem_cons_self _ _) _ (List.mem_cons_self _ _) hnames.1⟩
        (ih hnames.2 fun t ht o ho =>
          hrel t (List.mem_cons_of_mem _ ht) o (List.mem_cons_of_mem _ ho))

/-- **Acceptance.** For databases whose table names are distinct within each database,
`check_schema_match` returns normally exactly when they agree on their kept tables. -/
theorem checkSchemaMatch_eq_ok_iff {fromDatabase toDatabase : Database}
    (hfrom : fromDatabase.TableNamesDistinct) (hto : toDatabase.TableNamesDistinct) :
    checkSchemaMatch fromDatabase toDatabase ignoreTables onlyTables = .ok () ↔
      SchemasAgree fromDatabase toDatabase ignoreTables onlyTables := by
  have hmemName : ∀ (tables : List Table) name,
      name ∈ ((sortTables tables).filter (kept ignoreTables onlyTables)).map (·.name) ↔
        ∃ table ∈ tables, ¬Ignored ignoreTables onlyTables table ∧ table.name = name := by
    intro tables name
    simp only [List.mem_map, mem_sortTables_filter, and_assoc]
  rw [checkSchemaMatch, checkTablesMatch_eq, checkTablesMatchLoop_eq_ok_iff]
  constructor
  · intro hpairs
    refine ⟨fun name => by rw [← hmemName, ← hmemName, map_name_eq_of_forall₂ hpairs], ?_⟩
    intro fromTable hfromTable toTable htoTable hkept hname
    obtain ⟨other, hother, hsame, hcheck⟩ :=
      exists_of_forall₂ hpairs (mem_sortTables_filter.mpr ⟨hfromTable, hkept⟩)
    have hother_eq : other = toTable := List.inj_on_of_nodup_map hto
      (mem_sortTables_filter.mp hother).1 htoTable (hsame.symm.trans hname)
    exact (checkTableMatch_eq_ok_iff _ _).mp (hother_eq ▸ hcheck)
  · intro hagree
    refine forall₂_of_map_name_eq (map_name_eq_of_sorted (sortTables_filter_sorted hfrom)
      (sortTables_filter_sorted hto) fun name => by rw [hmemName, hmemName, hagree.sameTables])
      fun fromTable hfromTable toTable htoTable hname => ?_
    obtain ⟨hfromMem, hkept⟩ := mem_sortTables_filter.mp hfromTable
    exact (checkTableMatch_eq_ok_iff _ _).mpr
      (hagree.tablesAgree fromTable hfromMem toTable (mem_sortTables_filter.mp htoTable).1 hkept
        hname)

/-- Every database matches itself, whatever its names and whichever tables are filtered:
the walks pair each table and each key with itself. -/
theorem checkSchemaMatch_self (database : Database) (ignoreTables onlyTables : List String) :
    checkSchemaMatch database database ignoreTables onlyTables = .ok () := by
  rw [checkSchemaMatch, checkTablesMatch_eq, checkTablesMatchLoop_eq_ok_iff]
  refine List.forall₂_same.mpr fun table _ => ⟨rfl, ?_⟩
  rw [checkTableMatch_eq_ok_iff, checkKeysMatch_eq_ok_iff]
  exact ⟨rfl, rfl, List.forall₂_same.mpr fun _ _ => ⟨rfl, rfl, rfl⟩⟩

/-- Acceptance at a database of one table `t` and a database without tables. -/
theorem checkSchemaMatch_eq_ok_iff_missing_table :
    Database.TableNamesDistinct ⟨[⟨"t", [], [], .noAvailableKey, []⟩]⟩ ∧
      Database.TableNamesDistinct ⟨[]⟩ ∧
      (checkSchemaMatch ⟨[⟨"t", [], [], .noAvailableKey, []⟩]⟩ ⟨[]⟩ [] [] = .ok () ↔
        SchemasAgree ⟨[⟨"t", [], [], .noAvailableKey, []⟩]⟩ ⟨[]⟩ [] []) :=
  ⟨by decide, by decide, checkSchemaMatch_eq_ok_iff (by decide) (by decide)⟩

end KitchenSync
