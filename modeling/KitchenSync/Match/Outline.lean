import KitchenSync.Sorting
import KitchenSync.Match.Columns

/-!
# What the schema comparison reads

`check_column_match` compares nothing yet: the comparison reads of a column only its name,
and of a table its name, the names of its columns in order, its primary-key columns and its
keys. The outline of a table keeps exactly those. Databases whose tables have the same
outlines are compared alike, whatever their column types, nullability, defaults, sizes,
flags and primary-key types: the comparison returns for both, or throws the same message.
-/

namespace KitchenSync

/-- A column with its name only: type, nullability, default, size, scale, flags and
restrictions cleared. -/
def Column.outline (column : Column) : Column :=
  ⟨column.name, true, .noDefault, "", "", 0, 0, ColumnFlags.nothing, "", "", ""⟩

/-- A table as the comparison reads it: its columns reduced to their names and its primary-key
type cleared. -/
def Table.outline (table : Table) : Table :=
  { table with columns := table.columns.map Column.outline, primaryKeyType := .noAvailableKey }

/-- An outline keeps the column's name. -/
@[simp] theorem Column.outline_name (column : Column) : column.outline.name = column.name := rfl

/-- An outline keeps the table's name. -/
@[simp] theorem Table.outline_name (table : Table) : table.outline.name = table.name := rfl

/-- An outline reduces every column to its outline. -/
@[simp] theorem Table.outline_columns (table : Table) :
    table.outline.columns = table.columns.map Column.outline := rfl

/-- An outline keeps the primary-key positions. -/
@[simp] theorem Table.outline_primaryKeyColumns (table : Table) :
    table.outline.primaryKeyColumns = table.primaryKeyColumns := rfl

/-- An outline keeps the keys. -/
@[simp] theorem Table.outline_keys (table : Table) : table.outline.keys = table.keys := rfl

/-! ### Each check reads outlines -/

/-- The column lists of the messages name the columns and read nothing else of them. -/
theorem columnsList_outline (columns : List Column) (indices : List ℕ) :
    columnsList (columns.map Column.outline) indices = columnsList columns indices := by
  induction indices with
  | nil => rfl
  | cons index indices ih =>
    simp only [columnsList, ih, List.get?_eq_getElem?, List.getElem?_map]
    cases columns[index]? <;> rfl

/-- `check_columns_match` reads the names of the columns only. -/
theorem checkColumnsMatch_outline (table : Table) (fromColumns toColumns : List Column) :
    checkColumnsMatch table (fromColumns.map Column.outline) (toColumns.map Column.outline) =
      checkColumnsMatch table fromColumns toColumns := by
  induction fromColumns generalizing toColumns with
  | nil => cases toColumns <;> rfl
  | cons fromColumn fromColumns ih =>
    cases toColumns <;> simp [checkColumnsMatch, ih]

/-- `check_primary_key_matches` reads the names of the table's columns only. -/
theorem checkPrimaryKeyMatches_outline (table : Table) :
    checkPrimaryKeyMatches table.outline = checkPrimaryKeyMatches table := by
  funext fromColumns toColumns
  simp [checkPrimaryKeyMatches, columnsList_outline]

/-- `check_key_match` reads the names of the table's columns only. -/
theorem checkKeyMatch_outline (table : Table) : checkKeyMatch table.outline = checkKeyMatch table := by
  funext fromKey toKey
  simp [checkKeyMatch, columnsList_outline]

/-- The walk over the keys reads the outline of its table. -/
theorem checkKeysMatchLoop_outline (table : Table) :
    checkKeysMatchLoop table.outline = checkKeysMatchLoop table := by
  funext fromKeys toKeys
  induction fromKeys generalizing toKeys with
  | nil => cases toKeys <;> rfl
  | cons fromKey fromKeys ih =>
    cases toKeys <;> simp only [checkKeysMatchLoop, checkKeyMatch_outline, Table.outline_name, ih]

/-- `check_table_match` reads the outlines of its tables. -/
theorem checkTableMatch_outline (fromTable toTable : Table) :
    checkTableMatch fromTable.outline toTable.outline = checkTableMatch fromTable toTable := by
  simp only [checkTableMatch, checkKeysMatch, Table.outline_columns, Table.outline_keys,
    Table.outline_primaryKeyColumns, checkColumnsMatch_congr (Table.outline_name fromTable),
    checkColumnsMatch_outline, checkPrimaryKeyMatches_outline, checkKeysMatchLoop_outline]

/-! ### The walk over the tables -/

variable {ignoreTables onlyTables : List String}

/-- Whether a table is skipped depends on its name only. -/
@[simp] theorem ignored_outline (table : Table) :
    Ignored ignoreTables onlyTables table.outline ↔ Ignored ignoreTables onlyTables table := by
  simp [Ignored]

/-- Skipping ignored tables commutes with taking outlines. -/
theorem skipIgnoredTables_outline (tables : List Table) :
    skipIgnoredTables ignoreTables onlyTables (tables.map Table.outline) =
      (skipIgnoredTables ignoreTables onlyTables tables).map Table.outline := by
  simp only [skipIgnoredTables, List.dropWhile_map, Function.comp_def, ignored_outline]

/-- The walk over the tables reads their outlines. -/
theorem checkTablesMatchLoop_outline (fromTables toTables : List Table) :
    checkTablesMatchLoop ignoreTables onlyTables (fromTables.map Table.outline)
        (toTables.map Table.outline) =
      checkTablesMatchLoop ignoreTables onlyTables fromTables toTables := by
  induction fromTables generalizing toTables with
  | nil => cases toTables <;> rfl
  | cons fromTable fromTables ih =>
    cases toTables with
    | nil =>
      have ih' := ih []
      rw [List.map_nil] at ih'
      simp only [List.map_cons, List.map_nil, checkTablesMatchLoop, ignored_outline,
        Table.outline_name, ih']
    | cons toTable toTables =>
      have ih' := ih (toTable :: toTables)
      rw [List.map_cons] at ih'
      simp only [List.map_cons, checkTablesMatchLoop, ignored_outline, Table.outline_name,
        checkTableMatch_outline, skipIgnoredTables_outline, ih', ih]

/-- `check_schema_match` reads the outlines of the tables. -/
theorem checkSchemaMatch_outline (fromDatabase toDatabase : Database) :
    checkSchemaMatch ⟨fromDatabase.tables.map Table.outline⟩ ⟨toDatabase.tables.map Table.outline⟩
        ignoreTables onlyTables =
      checkSchemaMatch fromDatabase toDatabase ignoreTables onlyTables := by
  simp only [checkSchemaMatch, checkTablesMatch,
    ← map_sortTables Table.outline Table.outline_name, skipIgnoredTables_outline,
    checkTablesMatchLoop_outline]

/-- **The comparison reads outlines only.** Databases whose tables have the same outlines,
in the same order, are compared alike, whatever their column types, nullability, defaults,
sizes, flags and primary-key types: `check_schema_match` returns for both or throws the same
message for both. -/
theorem checkSchemaMatch_eq_of_outline_eq {fromDatabase fromDatabase' toDatabase toDatabase' : Database}
    (hfrom : fromDatabase.tables.map Table.outline = fromDatabase'.tables.map Table.outline)
    (hto : toDatabase.tables.map Table.outline = toDatabase'.tables.map Table.outline)
    (ignoreTables onlyTables : List String) :
    checkSchemaMatch fromDatabase toDatabase ignoreTables onlyTables =
      checkSchemaMatch fromDatabase' toDatabase' ignoreTables onlyTables := by
  rw [← checkSchemaMatch_outline, hfrom, hto, checkSchemaMatch_outline]

/-- `users` with a serial integer primary key `id`. -/
def usersSerialId : Table :=
  ⟨"users", [⟨"id", false, .sequence, "", ColumnTypes.sint, 4, 0, ColumnFlags.nothing, "", "", ""⟩],
    [0], .explicitPrimaryKey, []⟩

/-- `users` with a nullable text `id` and a unique key standing in for the primary key. -/
def usersTextId : Table :=
  ⟨"users", [⟨"id", true, .noDefault, "", ColumnTypes.text, 0, 0, ColumnFlags.nothing, "", "", ""⟩],
    [0], .suitableUniqueKey, []⟩

/-- The two `users` tables have one outline, so either is compared with the first alike. -/
theorem checkSchemaMatch_eq_of_outline_eq_users :
    [usersSerialId].map Table.outline = [usersTextId].map Table.outline ∧
    checkSchemaMatch ⟨[usersSerialId]⟩ ⟨[usersSerialId]⟩ [] [] =
      checkSchemaMatch ⟨[usersTextId]⟩ ⟨[usersSerialId]⟩ [] [] :=
  have hfrom : [usersSerialId].map Table.outline = [usersTextId].map Table.outline := rfl
  ⟨hfrom, checkSchemaMatch_eq_of_outline_eq hfrom rfl [] []⟩

end KitchenSync
