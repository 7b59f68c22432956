import KitchenSync.Sorting
import KitchenSync.PostgreSQL.ColumnLister
import KitchenSync.PostgreSQL.KeyLister

/-!
# Reading the schema from the PostgreSQL catalog

`populate_database_schema` lists the tables, and for each one `PostgreSQLTableLister`
runs the column, primary-key and key queries through their listers, sorts the keys and
appends the table. The rows of those queries are the input here. `Table::index_of_column`
is defined outside src/ and is a parameter; the results assume only that it finds a
column the table has. The adapter contract asks that introspection yield a valid
database: it does whenever the catalog is consistent.
-/

namespace KitchenSync

/-- The rows the queries of `PostgreSQLTableLister` return for one table, in the order
they ask for: columns by `attnum`, primary-key columns by `ordinal_position`, and index
columns by index name and position. -/
structure TableCatalog where
  name : String
  columnRows : List ColumnRow
  primaryKeyRows : List String
  keyRows : List KeyRow
  deriving DecidableEq, Repr

namespace PostgreSQLPrimaryKeyLister

/-- `operator()`: the named column joins the primary key, which is then explicit. -/
def apply (indexOfColumn : String → ℕ) (table : Table) (columnName : String) : Table :=
  { table with
    primaryKeyColumns := table.primaryKeyColumns ++ [indexOfColumn columnName]
    primaryKeyType := .explicitPrimaryKey }

end PostgreSQLPrimaryKeyLister

namespace PostgreSQLTableLister

/-- The table `operator()` builds: `Table(name)`, then the three listers over their
rows, then the sort of the keys. `index_of_column` reads the columns, which only the
column lister changes. -/
def table (indexOfColumn : List Column → String → ℕ) (catalog : TableCatalog) : Table :=
  let table : Table := ⟨catalog.name, [], [], .noAvailableKey, []⟩
  let table := catalog.columnRows.foldl PostgreSQLColumnLister.apply table
  let table := catalog.primaryKeyRows.foldl
    (PostgreSQLPrimaryKeyLister.apply (indexOfColumn table.columns)) table
  let table := { table with
    keys := catalog.keyRows.foldl (PostgreSQLKeyLister.apply (indexOfColumn table.columns))
      table.keys }
  { table with keys := sortKeys table.keys }

/-- `operator()`: append the table read for one row of the table query. -/
def apply (indexOfColumn : List Column → String → ℕ) (database : Database)
    (catalog : TableCatalog) : Database :=
  { database with tables := database.tables ++ [table indexOfColumn catalog] }

end PostgreSQLTableLister

/-- `PostgreSQLClient::populate_database_schema`: the table lister over the rows of the
table query. The type map it collects afterwards is left out. -/
def PostgreSQLClient.populateDatabaseSchema (indexOfColumn : List Column → String → ℕ)
    (database : Database) (catalogs : List TableCatalog) : Database :=
  catalogs.foldl (PostgreSQLTableLister.apply indexOfColumn) database

/-! ### What each lister leaves -/

/-- The column lister appends one column per row and changes nothing else. -/
theorem foldl_columnLister (table : Table) (rows : List ColumnRow) :
    rows.foldl PostgreSQLColumnLister.apply table =
      { table with columns := table.columns ++ rows.map PostgreSQLColumnLister.column } := by
  induction rows generalizing table with
  | nil => simp
  | cons row rows ih => simp [ih, PostgreSQLColumnLister.apply]

/-- The primary-key lister appends one position per row, makes a primary key it has seen
a row of explicit, and changes nothing else. -/
theorem foldl_primaryKeyLister (indexOfColumn : String → ℕ) (table : Table)
    (names : List String) :
    names.foldl (PostgreSQLPrimaryKeyLister.apply indexOfColumn) table =
      { table with
        primaryKeyColumns := table.primaryKeyColumns ++ names.map indexOfColumn
        primaryKeyType := if names = [] then table.primaryKeyType else .explicitPrimaryKey } := by
  induction names generalizing table with
  | nil => simp
  | cons name names ih => simp [ih, PostgreSQLPrimaryKeyLister.apply]

/-- The table read for a catalog: its columns are the column rows read one by one, its
primary key the positions of the primary-key columns, and its keys the sorted keys of the
key rows. -/
theorem PostgreSQLTableLister.table_eq (indexOfColumn : List Column → String → ℕ)
    (catalog : TableCatalog) :
    PostgreSQLTableLister.table indexOfColumn catalog =
      { name := catalog.name,
        columns := catalog.columnRows.map PostgreSQLColumnLister.column,
        primaryKeyColumns := catalog.primaryKeyRows.map
          (indexOfColumn (catalog.columnRows.map PostgreSQLColumnLister.column)),
        primaryKeyType := if catalog.primaryKeyRows = [] then .noAvailableKey
          else .explicitPrimaryKey,
        keys := sortKeys (PostgreSQLKeyLister.listKeys
          (indexOfColumn (catalog.columnRows.map PostgreSQLColumnLister.column))
          catalog.keyRows) } := by
  simp [PostgreSQLTableLister.table, foldl_columnLister, foldl_primaryKeyLister,
    PostgreSQLKeyLister.listKeys]

/-- The table read for a catalog has the catalog's name. -/
@[simp] theorem PostgreSQLTableLister.table_name (indexOfColumn : List Column → String → ℕ)
    (catalog : TableCatalog) :
    (PostgreSQLTableLister.table indexOfColumn catalog).name = catalog.name := by
  rw [PostgreSQLTableLister.table_eq]

/-- The run of the table lister: one table per row of the table query, in row order. -/
theorem populateDatabaseSchema_tables (indexOfColumn : List Column → String → ℕ)
    (database : Database) (catalogs : List TableCatalog) :
    (PostgreSQLClient.populateDatabaseSchema indexOfColumn database catalogs).tables =
      database.tables ++ catalogs.map (PostgreSQLTableLister.table indexOfColumn) := by
  induction catalogs generalizing database with
  | nil => simp [PostgreSQLClient.populateDatabaseSchema]
  | cons catalog catalogs ih =>
    simp [PostgreSQLClient.populateDatabaseSchema, PostgreSQLTableLister.apply] at ih ⊢
    simp [ih]

/-! ### A consistent catalog gives a valid database -/

/-- What the catalog guarantees for one table: distinct column names, primary-key and
index columns among the table's columns, and the rows of each index adjacent (the key
query orders them by index name). -/
structure TableCatalog.Consistent (catalog : TableCatalog) : Prop where
  columnNames : (catalog.columnRows.map (·.attname)).Nodup
  primaryKeyColumns : ∀ name ∈ catalog.primaryKeyRows, name ∈ catalog.columnRows.map (·.attname)
  keyColumns : ∀ row ∈ catalog.keyRows, row.attname ∈ catalog.columnRows.map (·.attname)
  keyRowsGrouped : RowsGrouped catalog.keyRows

/-- What the results ask of `Table::index_of_column`: a name the columns have is found at
one of their positions. -/
def FindsColumns (indexOfColumn : List Column → String → ℕ) : Prop :=
  ∀ columns name, name ∈ columns.map (·.name) → indexOfColumn columns name < columns.length

/-- The column read from a row is named by its `attname`. -/
@[simp] theorem PostgreSQLColumnLister.column_name (row : ColumnRow) :
    (PostgreSQLColumnLister.column row).name = row.attname := rfl

section Valid

variable {indexOfColumn : List Column → String → ℕ} (hfinds : FindsColumns indexOfColumn)
include hfinds

/-- The table read from a consistent catalog has distinct column and key names, and its
primary key and keys name positions of its columns. -/
theorem PostgreSQLTableLister.table_valid {catalog : TableCatalog} (hcatalog : catalog.Consistent) :
    ((PostgreSQLTableLister.table indexOfColumn catalog).columns.map (·.name)).Nodup ∧
    ((PostgreSQLTableLister.table indexOfColumn catalog).keys.map (·.name)).Nodup ∧
    (PostgreSQLTableLister.table indexOfColumn catalog).IndicesInRange := by
  have hnames : (catalog.columnRows.map PostgreSQLColumnLister.column).map (·.name) =
      catalog.columnRows.map (·.attname) := by
    simp [Function.comp_def]
  have hfound : ∀ name ∈ catalog.columnRows.map (·.attname),
      indexOfColumn (catalog.columnRows.map PostgreSQLColumnLister.column) name <
        catalog.columnRows.length := fun name h => by
    have hlt := hfinds (catalog.columnRows.map PostgreSQLColumnLister.column) name (by rwa [hnames])
    rwa [List.length_map] at hlt
  have hkeys := listKeys_of_rowsGrouped
    (indexOfColumn (catalog.columnRows.map PostgreSQLColumnLister.column)) hcatalog.keyRowsGrouped
  rw [PostgreSQLTableLister.table_eq]
  refine ⟨hnames ▸ hcatalog.columnNames, ?_, ?_, ?_⟩
  · -- sorting keeps the distinct names of the described keys
    rw [((sortKeys_perm _).map _).nodup_iff, hkeys, map_name_describedKeys]
    exact nodup_indexNames _
  · simp only [List.mem_map, List.length_map]
    rintro _ ⟨name, hname, rfl⟩
    exact hfound name (hcatalog.primaryKeyColumns name hname)
  · intro key hkey index hindex
    rw [(sortKeys_perm _).mem_iff, hkeys] at hkey
    obtain ⟨row, hrow, rfl⟩ := mem_columns_of_mem_describedKeys _ hkey hindex
    simpa using hfound _ (hcatalog.keyColumns row hrow)

/-- Introspection yields a valid database: from consistent catalogs of distinct tables,
`populate_database_schema` builds a database that satisfies every invariant of the schema
model. -/
theorem populateDatabaseSchema_valid {catalogs : List TableCatalog}
    (hcatalogs : ∀ catalog ∈ catalogs, catalog.Consistent)
    (hnames : (catalogs.map (·.name)).Nodup) :
    (PostgreSQLClient.populateDatabaseSchema indexOfColumn ⟨[]⟩ catalogs).Valid := by
  have hvalid :
      ∀ table ∈ (PostgreSQLClient.populateDatabaseSchema indexOfColumn ⟨[]⟩ catalogs).tables,
        (table.columns.map (·.name)).Nodup ∧ (table.keys.map (·.name)).Nodup ∧
          table.IndicesInRange := by
    rw [populateDatabaseSchema_tables]
    rintro _ hmem
    obtain ⟨catalog, hcatalog, rfl⟩ := List.mem_map.mp (by simpa using hmem)
    exact PostgreSQLTableLister.table_valid hfinds (hcatalogs catalog hcatalog)
  refine ⟨?_, fun table h => (hvalid table h).1, fun table h => (hvalid table h).2.1,
    fun table h => (hvalid table h).2.2⟩
  simpa [Database.TableNamesDistinct, populateDatabaseSchema_tables, Function.comp_def] using hnames

end Valid

/-- The catalog of an `events` table with a primary key and one index. -/
def eventsCatalog : TableCatalog :=
  ⟨"events",
    [⟨"id", "integer", "t", "f", ""⟩,
      ⟨"created_at", "timestamp without time zone", "f", "t", "now()"⟩],
    ["id"], [⟨"events_created_at_idx", "f", "created_at"⟩]⟩

/-- `events` read with the first position of a name as `index_of_column`. -/
theorem populateDatabaseSchema_valid_events :
    FindsColumns (fun columns name => columns.findIdx (·.name == name)) ∧
    (∀ catalog ∈ [eventsCatalog], catalog.Consistent) ∧ ([eventsCatalog].map (·.name)).Nodup ∧
    (PostgreSQLClient.populateDatabaseSchema (fun columns name => columns.findIdx (·.name == name))
      ⟨[]⟩ [eventsCatalog]).Valid := by
  have hfinds : FindsColumns (fun columns name => columns.findIdx (·.name == name)) :=
    fun _ _ h => List.findIdx_lt_length_of_exists (by simpa using h)
  have hconsistent : ∀ catalog ∈ [eventsCatalog], catalog.Consistent := by
    simp only [List.mem_singleton, forall_eq]
    exact ⟨by decide, by decide, by decide, rowsGrouped_of_sorted (by decide)⟩
  exact ⟨hfinds, hconsistent, by decide,
    populateDatabaseSchema_valid hfinds hconsistent (by decide)⟩

end KitchenSync
