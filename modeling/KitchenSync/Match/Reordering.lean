import KitchenSync.Match.Keys
import KitchenSync.Match.Tables
import KitchenSync.Sorting

/-!
# Independence from listing order

`check_schema_match` sorts the tables and the keys it compares, so the order in
which either database lists its tables, and each table its keys, does not change
its outcome, message included, when the names it sorts by are distinct. A table is
compared only through its key-sorted form, and sorting commutes with that form.
-/

namespace KitchenSync

/-- `table'` is `table` with its keys listed in some order. -/
def Table.ReordersKeysOf (table' table : Table) : Prop :=
  ∃ keys, keys.Perm table.keys ∧ table' = { table with keys := keys }

/-- `database'` lists the tables of `database`, each with its keys in some order, in
some order. -/
def Database.Reorders (database' database : Database) : Prop :=
  ∃ tables, List.Forall₂ Table.ReordersKeysOf tables database.tables ∧
    tables.Perm database'.tables

/-- A table with its keys in sorted order: the form in which the comparison sees it. -/
def Table.withSortedKeys (table : Table) : Table :=
  { table with keys := sortKeys table.keys }

/-- Sorting the keys keeps the table's name. -/
@[simp] theorem Table.withSortedKeys_name (table : Table) :
    table.withSortedKeys.name = table.name := rfl

/-- `check_table_match` sees its tables only in key-sorted form. -/
theorem checkTableMatch_congr {fromTable fromTable' toTable toTable' : Table}
    (hfrom : fromTable.withSortedKeys = fromTable'.withSortedKeys)
    (hto : toTable.withSortedKeys = toTable'.withSortedKeys) :
    checkTableMatch fromTable toTable = checkTableMatch fromTable' toTable' := by
  simp only [Table.withSortedKeys, Table.mk.injEq] at hfrom hto
  obtain ⟨hname, hcolumns, hprimary, -, hkeys⟩ := hfrom
  obtain ⟨-, htoColumns, htoPrimary, -, htoKeys⟩ := hto
  have hpk : checkPrimaryKeyMatches fromTable = checkPrimaryKeyMatches fromTable' := by
    funext fromColumns toColumns
    simp only [checkPrimaryKeyMatches, hname, hcolumns]
  simp only [checkTableMatch, checkKeysMatch, checkColumnsMatch_congr hname, hpk,
    checkKeysMatchLoop_congr hname hcolumns, hcolumns, hprimary, hkeys, htoColumns, htoPrimary,
    htoKeys]

/-- The unfiltered walk sees its tables only in key-sorted form. -/
theorem checkTablesMatchLoop_congr {fromTables fromTables' toTables toTables' : List Table}
    (hfrom : fromTables.map Table.withSortedKeys = fromTables'.map Table.withSortedKeys)
    (hto : toTables.map Table.withSortedKeys = toTables'.map Table.withSortedKeys) :
    checkTablesMatchLoop [] [] fromTables toTables =
      checkTablesMatchLoop [] [] fromTables' toTables' := by
  induction fromTables generalizing fromTables' toTables toTables' with
  | nil =>
    obtain rfl := List.map_eq_nil_iff.mp hfrom.symm
    cases toTables <;> cases toTables' <;> simp_all [checkTablesMatchLoop, Table.withSortedKeys]
  | cons fromTable fromTables ih =>
    cases fromTables' with
    | nil => simp at hfrom
    | cons fromTable' fromTables' =>
      simp only [List.map_cons, List.cons.injEq] at hfrom
      have hname : fromTable.name = fromTable'.name := by simpa using congrArg Table.name hfrom.1
      cases toTables <;> cases toTables'
      · simp [checkTablesMatchLoop, hname]
      · simp at hto
      · simp at hto
      · rename_i toTable toTables toTable' toTables'
        simp only [List.map_cons, List.cons.injEq] at hto
        have htoName : toTable.name = toTable'.name := by simpa using congrArg Table.name hto.1
        simp only [checkTablesMatchLoop, ignored_nil, if_false, hname, htoName,
          skipIgnoredTables_nil, checkTableMatch_congr hfrom.1 hto.1, ih hfrom.2 hto.2]

/-- Listing the keys of a table in another order leaves its key-sorted form as it was,
when its key names are distinct. -/
theorem Table.ReordersKeysOf.withSortedKeys_eq {table' table : Table}
    (h : table'.ReordersKeysOf table) (hnames : (table.keys.map (·.name)).Nodup) :
    table'.withSortedKeys = table.withSortedKeys := by
  obtain ⟨keys, hperm, rfl⟩ := h
  simp only [Table.withSortedKeys, ← sortKeys_eq_of_perm hperm.symm hnames]

/-- Tables that reorder the keys of a list of tables with distinct key names have the
same key-sorted forms. -/
theorem map_withSortedKeys_eq_of_forall₂ {tables tables' : List Table}
    (h : List.Forall₂ Table.ReordersKeysOf tables' tables)
    (hnames : ∀ table ∈ tables, (table.keys.map (·.name)).Nodup) :
    tables'.map Table.withSortedKeys = tables.map Table.withSortedKeys := by
  induction h with
  | nil => rfl
  | cons hrel _ ih =>
    simp only [List.map_cons, List.forall_mem_cons] at hnames ⊢
    rw [hrel.withSortedKeys_eq hnames.1, ih hnames.2]

/-- A reordered database has the key-sorted tables of the original, permuted. -/
theorem Database.Reorders.perm_map_withSortedKeys {database' database : Database}
    (h : database'.Reorders database) (hkeys : database.KeyNamesDistinct) :
    (database.tables.map Table.withSortedKeys).Perm
      (database'.tables.map Table.withSortedKeys) := by
  obtain ⟨tables, hrel, hperm⟩ := h
  rw [← map_withSortedKeys_eq_of_forall₂ hrel hkeys]
  exact hperm.map _

variable {ignoreTables onlyTables : List String}

/-- Taking key-sorted forms commutes with sorting the tables and keeping the unfiltered ones. -/
theorem map_withSortedKeys_filter_sortTables (tables : List Table) :
    ((sortTables tables).filter (kept ignoreTables onlyTables)).map Table.withSortedKeys =
      (sortTables (tables.map Table.withSortedKeys)).filter (kept ignoreTables onlyTables) := by
  rw [← map_sortTables _ Table.withSortedKeys_name, List.filter_map]
  rfl

/-- **Order independence.** With distinct table names in each database and distinct key
names in each table, listing the tables of either database, and the keys of any table,
in another order gives `check_schema_match` the same outcome and the same message. -/
theorem checkSchemaMatch_reorder {fromDatabase fromDatabase' toDatabase toDatabase' : Database}
    (hfromNames : fromDatabase.TableNamesDistinct) (htoNames : toDatabase.TableNamesDistinct)
    (hfromKeys : fromDatabase.KeyNamesDistinct) (htoKeys : toDatabase.KeyNamesDistinct)
    (hfrom : fromDatabase'.Reorders fromDatabase) (hto : toDatabase'.Reorders toDatabase) :
    checkSchemaMatch fromDatabase' toDatabase' ignoreTables onlyTables =
      checkSchemaMatch fromDatabase toDatabase ignoreTables onlyTables := by
  have hsorted : ∀ {database' database : Database}, database.TableNamesDistinct →
      database.KeyNamesDistinct → database'.Reorders database →
      (sortTables (database'.tables.map Table.withSortedKeys)).filter
          (kept ignoreTables onlyTables) =
        (sortTables (database.tables.map Table.withSortedKeys)).filter
          (kept ignoreTables onlyTables) := by
    intro database' database hnames hkeys hreorders
    rw [sortTables_eq_of_perm (hreorders.perm_map_withSortedKeys hkeys)
      (by simpa [Function.comp_def] using hnames)]
  rw [checkSchemaMatch, checkSchemaMatch, checkTablesMatch_eq, checkTablesMatch_eq]
  exact checkTablesMatchLoop_congr
    (by rw [map_withSortedKeys_filter_sortTables, map_withSortedKeys_filter_sortTables,
      hsorted hfromNames hfromKeys hfrom])
    (by rw [map_withSortedKeys_filter_sortTables, map_withSortedKeys_filter_sortTables,
      hsorted htoNames htoKeys hto])

/-- Order independence at a database that lists its two tables, and the two keys of
table `a`, the other way round. -/
theorem checkSchemaMatch_reorder_swapped :
    Database.TableNamesDistinct
        ⟨[⟨"a", [], [], .noAvailableKey, [⟨"i", .uniqueKey, []⟩, ⟨"j", .standardKey, []⟩]⟩,
          ⟨"b", [], [], .noAvailableKey, []⟩]⟩ ∧
      Database.KeyNamesDistinct
        ⟨[⟨"a", [], [], .noAvailableKey, [⟨"i", .uniqueKey, []⟩, ⟨"j", .standardKey, []⟩]⟩,
          ⟨"b", [], [], .noAvailableKey, []⟩]⟩ ∧
      Database.Reorders
        ⟨[⟨"b", [], [], .noAvailableKey, []⟩,
          ⟨"a", [], [], .noAvailableKey, [⟨"j", .standardKey, []⟩, ⟨"i", .uniqueKey, []⟩]⟩]⟩
        ⟨[⟨"a", [], [], .noAvailableKey, [⟨"i", .uniqueKey, []⟩, ⟨"j", .standardKey, []⟩]⟩,
          ⟨"b", [], [], .noAvailableKey, []⟩]⟩ ∧
      checkSchemaMatch
          ⟨[⟨"b", [], [], .noAvailableKey, []⟩,
            ⟨"a", [], [], .noAvailableKey, [⟨"j", .standardKey, []⟩, ⟨"i", .uniqueKey, []⟩]⟩]⟩
          ⟨[⟨"a", [], [], .noAvailableKey, [⟨"i", .uniqueKey, []⟩, ⟨"j", .standardKey, []⟩]⟩,
            ⟨"b", [], [], .noAvailableKey, []⟩]⟩ [] [] =
        checkSchemaMatch
          ⟨[⟨"a", [], [], .noAvailableKey, [⟨"i", .uniqueKey, []⟩, ⟨"j", .standardKey, []⟩]⟩,
            ⟨"b", [], [], .noAvailableKey, []⟩]⟩
          ⟨[⟨"a", [], [], .noAvailableKey, [⟨"i", .uniqueKey, []⟩, ⟨"j", .standardKey, []⟩]⟩,
            ⟨"b", [], [], .noAvailableKey, []⟩]⟩ [] [] := by
  have hswap : Database.Reorders
      ⟨[⟨"b", [], [], .noAvailableKey, []⟩,
        ⟨"a", [], [], .noAvailableKey, [⟨"j", .standardKey, []⟩, ⟨"i", .uniqueKey, []⟩]⟩]⟩
      ⟨[⟨"a", [], [], .noAvailableKey, [⟨"i", .uniqueKey, []⟩, ⟨"j", .standardKey, []⟩]⟩,
        ⟨"b", [], [], .noAvailableKey, []⟩]⟩ :=
    ⟨[⟨"a", [], [], .noAvailableKey, [⟨"j", .standardKey, []⟩, ⟨"i", .uniqueKey, []⟩]⟩,
        ⟨"b", [], [], .noAvailableKey, []⟩],
      .cons ⟨_, .swap _ _ _, rfl⟩ (.cons ⟨_, .refl _, rfl⟩ .nil), .swap _ _ _⟩
  have hsame : Database.Reorders
      ⟨[⟨"a", [], [], .noAvailableKey, [⟨"i", .uniqueKey, []⟩, ⟨"j", .standardKey, []⟩]⟩,
        ⟨"b", [], [], .noAvailableKey, []⟩]⟩
      ⟨[⟨"a", [], [], .noAvailableKey, [⟨"i", .uniqueKey, []⟩, ⟨"j", .standardKey, []⟩]⟩,
        ⟨"b", [], [], .noAvailableKey, []⟩]⟩ :=
    ⟨_, .cons ⟨_, .refl _, rfl⟩ (.cons ⟨_, .refl _, rfl⟩ .nil), .refl _⟩
  exact ⟨by decide, by decide, hswap,
    checkSchemaMatch_reorder (by decide) (by decide) (by decide) (by decide) hswap hsame⟩

end KitchenSync
