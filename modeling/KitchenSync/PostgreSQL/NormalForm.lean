import KitchenSync.PostgreSQL.Convert
import KitchenSync.PostgreSQL.SchemaReader
import KitchenSync.PostgreSQL.TypeRoundTrip
import KitchenSync.PostgreSQL.Defaults

/-!
# The schemas PostgreSQL holds, and what conversion makes of a peer's

`convert_unsupported_database_schema` brings a peer's schema into the form PostgreSQL holds.
What `populate_database_schema` reads from the catalog is in that form already: every column
the lister reads is one PostgreSQL represents as it is, and PostgreSQL keeps index names to
63 bytes, so conversion leaves an introspected schema unchanged. Conversion keeps a schema
valid except where cutting index names makes two keys of one table share a name. It sends
every integer column of one to four or eight bytes, signed or not, to the narrowest
PostgreSQL integer type that holds it, and `column_type` throws for the other sizes.
-/

namespace KitchenSync

open PostgreSQLClient PostgreSQLColumnLister

/-! ### What the passes keep -/

/-- The column pass keeps the name. -/
@[simp] theorem convertColumn_name (column : Column) : (convertColumn column).name = column.name := by
  simp only [convertColumn, apply_ite Column.name, ite_self]

/-- The column pass keeps the kind of default. -/
@[simp] theorem convertColumn_defaultType (column : Column) :
    (convertColumn column).defaultType = column.defaultType := by
  simp only [convertColumn, apply_ite Column.defaultType, ite_self]

/-- The column pass keeps the default's text. -/
@[simp] theorem convertColumn_defaultValue (column : Column) :
    (convertColumn column).defaultValue = column.defaultValue := by
  simp only [convertColumn, apply_ite Column.defaultValue, ite_self]

/-- The column pass changes a type only from `INT UNSIGNED` to `INT`. -/
theorem convertColumn_columnType (column : Column) :
    (convertColumn column).columnType =
      if column.columnType = ColumnTypes.uint then ColumnTypes.sint else column.columnType := by
  simp only [convertColumn, apply_ite Column.columnType, ite_self]

/-- The key pass cuts every name to its first 63 characters, whatever its length. -/
theorem convertKey_name (key : Key) : (convertKey key).name = substr key.name 0 63 := by
  unfold convertKey
  split_ifs with h
  · rfl
  · exact (substr_zero_of_length_le (by omega)).symm

/-- The key pass keeps the key's columns. -/
@[simp] theorem convertKey_columns (key : Key) : (convertKey key).columns = key.columns := by
  unfold convertKey
  split_ifs <;> rfl

/-- The table pass keeps the name. -/
@[simp] theorem convertTable_name (table : Table) : (convertTable table).name = table.name := rfl

/-- The table pass converts every column. -/
@[simp] theorem convertTable_columns (table : Table) :
    (convertTable table).columns = table.columns.map convertColumn := rfl

/-- The table pass keeps the primary key. -/
@[simp] theorem convertTable_primaryKeyColumns (table : Table) :
    (convertTable table).primaryKeyColumns = table.primaryKeyColumns := rfl

/-- The table pass converts every key. -/
@[simp] theorem convertTable_keys (table : Table) :
    (convertTable table).keys = table.keys.map convertKey := rfl

/-- The database pass converts every table. -/
@[simp] theorem convertUnsupportedDatabaseSchema_tables (database : Database) :
    (convertUnsupportedDatabaseSchema database).tables = database.tables.map convertTable := rfl

/-! ### Validity after conversion -/

section Valid

variable (database : Database)

/-- Conversion keeps table names distinct exactly when they were. -/
theorem tableNamesDistinct_convert_iff :
    (convertUnsupportedDatabaseSchema database).TableNamesDistinct ↔
      database.TableNamesDistinct := by
  simp only [Database.TableNamesDistinct, convertUnsupportedDatabaseSchema_tables, List.map_map,
    Function.comp_def, convertTable_name]

/-- Conversion keeps column names distinct exactly when they were. -/
theorem columnNamesDistinct_convert_iff :
    (convertUnsupportedDatabaseSchema database).ColumnNamesDistinct ↔
      database.ColumnNamesDistinct := by
  simp only [Database.ColumnNamesDistinct, convertUnsupportedDatabaseSchema_tables,
    List.forall_mem_map, convertTable_columns, List.map_map, Function.comp_def, convertColumn_name]

/-- Key names are distinct after conversion exactly when no two keys of a table share the
first 63 characters of their names. -/
theorem keyNamesDistinct_convert_iff :
    (convertUnsupportedDatabaseSchema database).KeyNamesDistinct ↔
      ∀ table ∈ database.tables, (table.keys.map fun key => substr key.name 0 63).Nodup := by
  simp only [Database.KeyNamesDistinct, convertUnsupportedDatabaseSchema_tables,
    List.forall_mem_map, convertTable_keys, List.map_map, Function.comp_def, convertKey_name]

/-- Conversion keeps every primary-key and key position in range exactly when it was. -/
theorem indicesInRange_convert_iff :
    (convertUnsupportedDatabaseSchema database).IndicesInRange ↔ database.IndicesInRange := by
  simp only [Database.IndicesInRange, Table.IndicesInRange, convertUnsupportedDatabaseSchema_tables,
    List.forall_mem_map, convertTable_columns, convertTable_primaryKeyColumns, convertTable_keys,
    List.length_map, convertKey_columns]

/-- Conversion keeps a database valid except where it makes two keys of a table share a
name: the converted database is valid exactly when the database's tables, columns and
indices are, and no two keys of a table share the first 63 characters of their names. -/
theorem convertUnsupportedDatabaseSchema_valid_iff :
    (convertUnsupportedDatabaseSchema database).Valid ↔
      database.TableNamesDistinct ∧ database.ColumnNamesDistinct ∧
        (∀ table ∈ database.tables, (table.keys.map fun key => substr key.name 0 63).Nodup) ∧
        database.IndicesInRange := by
  rw [← tableNamesDistinct_convert_iff, ← columnNamesDistinct_convert_iff,
    ← keyNamesDistinct_convert_iff, ← indicesInRange_convert_iff]
  exact ⟨fun ⟨h₁, h₂, h₃, h₄⟩ => ⟨h₁, h₂, h₃, h₄⟩, fun ⟨h₁, h₂, h₃, h₄⟩ => ⟨h₁, h₂, h₃, h₄⟩⟩

end Valid

/-! ### The integer types conversion leads to -/

/-- Conversion makes an integer column signed and moves it off the sizes 1 and 3. -/
theorem convertColumn_of_integer {column : Column}
    (hinteger : column.columnType = ColumnTypes.uint ∨ column.columnType = ColumnTypes.sint) :
    convertColumn column =
      { column with
        columnType := ColumnTypes.sint
        size := if column.size = 1 then 2 else if column.size = 3 then 4 else column.size } := by
  have hne : ColumnTypes.sint ≠ ColumnTypes.text ∧ ColumnTypes.sint ≠ ColumnTypes.blob ∧
      ColumnTypes.sint ≠ ColumnTypes.uint := by decide
  rcases column with ⟨name, nullable, defaultType, defaultValue, ty, size, scale, flags, tr, rs, dd⟩
  rcases (by omega : size = 1 ∨ size = 3 ∨ (size ≠ 1 ∧ size ≠ 3)) with rfl | rfl | ⟨h1, h3⟩ <;>
    rcases hinteger with rfl | rfl <;> simp [convertColumn, hne, *]

/-- A peer's integer column, signed or not, of one to four or eight bytes
is created as the narrowest PostgreSQL integer type at least as wide, which the lister reads
back as a signed integer column of that width; for an integer column of any other size
`column_type` throws. -/
theorem columnType_convertColumn_integer (column : Column)
    (hinteger : column.columnType = ColumnTypes.uint ∨ column.columnType = ColumnTypes.sint) :
    (column.size ∈ [1, 2, 3, 4, 8] →
      ∃ typeName, columnType (convertColumn column) = .ok typeName ∧
        (typeArgs typeName).columnType = ColumnTypes.sint ∧
        column.size ≤ (typeArgs typeName).size ∧
        ∀ width ∈ [2, 4, 8], column.size ≤ width → (typeArgs typeName).size ≤ width) ∧
    (column.size ∉ [1, 2, 3, 4, 8] →
      columnType (convertColumn column) = .error ("Don't know how to create integer column " ++
        column.name ++ " of size " ++ toString column.size)) := by
  rw [convertColumn_of_integer hinteger, columnType_sint rfl]
  constructor
  · intro hsize
    simp only [List.mem_cons, List.mem_nil_iff, or_false] at hsize
    rcases hsize with h | h | h | h | h <;> rw [h] <;> exact ⟨_, rfl, by decide⟩
  · intro hsize
    simp only [List.mem_cons, List.mem_nil_iff, or_false, not_or] at hsize
    obtain ⟨h1, h2, h3, h4, h8⟩ := hsize
    simp only [if_neg h1, if_neg h3]

/-- Conversion changes the type `column_type` writes for no other column: the size it
clears on text and binary columns is one `column_type` does not read. -/
theorem columnType_convertColumn_of_not_integer {column : Column}
    (hinteger : ¬(column.columnType = ColumnTypes.uint ∨ column.columnType = ColumnTypes.sint)) :
    columnType (convertColumn column) = columnType column := by
  obtain ⟨hu, hs⟩ := not_or.mp hinteger
  have hconvert : convertColumn column =
      if column.columnType = ColumnTypes.text ∨ column.columnType = ColumnTypes.blob then
        { column with size := 0 } else column := by
    simp [convertColumn, hu, hs]
  rw [hconvert]
  split_ifs with htb
  · rcases htb with htb | htb <;> simp [columnType, htb, ColumnTypes.text, ColumnTypes.blob]
  · rfl

/-- **Which columns of a peer PostgreSQL can create.** After conversion, `column_definition`
writes a peer's column exactly when its type is one `column_type` knows, an integer, signed or
not, having one to four or eight bytes; its default is no expression; and a literal default of
a spatial column has the four bytes of its SRID prefix. -/
theorem exists_columnDefinition_convertColumn_eq_ok_iff (table : Table) (column : Column) :
    (∃ fragment, columnDefinition table (convertColumn column) = .ok fragment) ↔
      (column.columnType ∈ unsizedColumnTypes ∨
        ((column.columnType = ColumnTypes.uint ∨ column.columnType = ColumnTypes.sint) ∧
          column.size ∈ [1, 2, 3, 4, 8])) ∧
      column.defaultType ≠ .defaultExpression ∧
      (column.defaultType = .defaultValue → column.columnType = ColumnTypes.spat →
        4 ≤ column.defaultValue.length) := by
  have hunsized : ColumnTypes.uint ∉ unsizedColumnTypes ∧ ColumnTypes.sint ∉ unsizedColumnTypes :=
    by decide
  have htype : ((convertColumn column).columnType ∈ unsizedColumnTypes ∨
        ((convertColumn column).columnType = ColumnTypes.sint ∧
          (convertColumn column).size ∈ [2, 4, 8])) ↔
      (column.columnType ∈ unsizedColumnTypes ∨
        ((column.columnType = ColumnTypes.uint ∨ column.columnType = ColumnTypes.sint) ∧
          column.size ∈ [1, 2, 3, 4, 8])) := by
    by_cases hinteger : column.columnType = ColumnTypes.uint ∨ column.columnType = ColumnTypes.sint
    · -- an integer column is written by the size conversion leaves it
      have hnot : column.columnType ∉ unsizedColumnTypes := by
        rcases hinteger with h | h <;> rw [h]
        exacts [hunsized.1, hunsized.2]
      rw [convertColumn_of_integer hinteger]
      simp only [hunsized.2, hnot, hinteger, false_or, true_and, List.mem_cons,
        List.mem_nil_iff, or_false]
      split_ifs <;> omega
    · obtain ⟨hu, hs⟩ := not_or.mp hinteger
      rw [convertColumn_columnType, if_neg hu]
      simp only [hs, hu, false_and, or_false, false_or]
  have hspatial : (convertColumn column).columnType = ColumnTypes.spat ↔
      column.columnType = ColumnTypes.spat := by
    rw [convertColumn_columnType]
    split_ifs with h
    · rw [h]
      exact iff_of_false (by decide) (by decide)
    · rfl
  rw [exists_columnDefinition_eq_ok_iff_and, exists_columnType_eq_ok_iff,
    exists_columnDefault_eq_ok_iff, htype, convertColumn_defaultType, convertColumn_defaultValue,
    hspatial]

/-! ### An introspected schema is left unchanged -/

/-- Every type the lister reads is one PostgreSQL represents as it is. -/
theorem typeArgs_supported (dbType : String) :
    (typeArgs dbType).columnType ≠ ColumnTypes.uint ∧
      ((typeArgs dbType).columnType = ColumnTypes.sint →
        (typeArgs dbType).size ≠ 1 ∧ (typeArgs dbType).size ≠ 3) ∧
      ((typeArgs dbType).columnType = ColumnTypes.text ∨
        (typeArgs dbType).columnType = ColumnTypes.blob → (typeArgs dbType).size = 0) := by
  have hfixed : ∀ typeName ∈ fixedTypeNames,
      (typeArgs typeName).columnType ≠ ColumnTypes.uint ∧
        ((typeArgs typeName).columnType = ColumnTypes.sint →
          (typeArgs typeName).size ≠ 1 ∧ (typeArgs typeName).size ≠ 3) ∧
        ((typeArgs typeName).columnType = ColumnTypes.text ∨
          (typeArgs typeName).columnType = ColumnTypes.blob → (typeArgs typeName).size = 0) := by
    decide
  rcases typeArgs_cases dbType with ⟨typeName, hmem, h⟩ | ⟨-, h⟩ | ⟨_, h⟩ | ⟨_, h⟩ |
    ⟨_, _, -, h⟩ | h <;> rw [h]
  · exact hfixed typeName hmem
  all_goals simp [ColumnTypes.uint, ColumnTypes.sint, ColumnTypes.text, ColumnTypes.blob,
    ColumnTypes.deci, ColumnTypes.vchr, ColumnTypes.fchr, ColumnTypes.spat, ColumnTypes.unkn]

/-- The column the lister reads from any row is `Supported`. -/
theorem PostgreSQLColumnLister.column_supported (row : ColumnRow) :
    (PostgreSQLColumnLister.column row).Supported :=
  let h := typeArgs_supported row.formatType
  ⟨h.1, h.2.1, h.2.2⟩

section Introspected

variable (indexOfColumn : List Column → String → ℕ)

/-- The table read from a catalog whose index names have at most 63 characters is left
unchanged by conversion. -/
theorem convertTable_table {catalog : TableCatalog}
    (hnames : ∀ row ∈ catalog.keyRows, row.indexname.length ≤ 63) :
    convertTable (PostgreSQLTableLister.table indexOfColumn catalog) =
      PostgreSQLTableLister.table indexOfColumn catalog := by
  have hcolumns : (catalog.columnRows.map PostgreSQLColumnLister.column).map convertColumn =
      catalog.columnRows.map PostgreSQLColumnLister.column := by
    simp only [List.map_map, Function.comp_def,
      convertColumn_of_supported (PostgreSQLColumnLister.column_supported _)]
  have hkeys : ∀ keys : List Key, (∀ key ∈ keys, ∃ row ∈ catalog.keyRows, row.indexname = key.name) →
      keys.map convertKey = keys := fun keys hkeys =>
    (List.map_congr_left fun key hkey => convertKey_of_length_le (by
      obtain ⟨row, hrow, heq⟩ := hkeys key hkey
      exact heq ▸ hnames row hrow)).trans (List.map_id keys)
  rw [PostgreSQLTableLister.table_eq]
  simp only [convertTable, hcolumns]
  rw [hkeys _ fun key hkey => (mem_map_name_listKeys _).mp
    (List.mem_map_of_mem _ ((sortKeys_perm _).mem_iff.mp hkey))]

/-- **Introspection gives PostgreSQL's own form.** A schema read from catalogs whose index
names have at most 63 characters, as PostgreSQL keeps them, is left unchanged by
`convert_unsupported_database_schema`: every column read is one PostgreSQL represents as it
is, and no key name is cut. -/
theorem convertUnsupportedDatabaseSchema_populateDatabaseSchema {catalogs : List TableCatalog}
    (hnames : ∀ catalog ∈ catalogs, ∀ row ∈ catalog.keyRows, row.indexname.length ≤ 63) :
    convertUnsupportedDatabaseSchema (populateDatabaseSchema indexOfColumn ⟨[]⟩ catalogs) =
      populateDatabaseSchema indexOfColumn ⟨[]⟩ catalogs := by
  have htables : (populateDatabaseSchema indexOfColumn ⟨[]⟩ catalogs).tables.map convertTable =
      (populateDatabaseSchema indexOfColumn ⟨[]⟩ catalogs).tables := by
    rw [populateDatabaseSchema_tables, List.nil_append, List.map_map]
    exact List.map_congr_left fun catalog hcatalog =>
      convertTable_table indexOfColumn (hnames catalog hcatalog)
  rw [convertUnsupportedDatabaseSchema, htables]

end Introspected

/-- The `events` catalog read with the first position of a name is left unchanged. -/
theorem convertUnsupportedDatabaseSchema_populateDatabaseSchema_events :
    (∀ catalog ∈ [eventsCatalog], ∀ row ∈ catalog.keyRows, row.indexname.length ≤ 63) ∧
    convertUnsupportedDatabaseSchema (populateDatabaseSchema
        (fun columns name => columns.findIdx (·.name == name)) ⟨[]⟩ [eventsCatalog]) =
      populateDatabaseSchema (fun columns name => columns.findIdx (·.name == name)) ⟨[]⟩
        [eventsCatalog] :=
  have hnames : ∀ catalog ∈ [eventsCatalog], ∀ row ∈ catalog.keyRows,
      row.indexname.length ≤ 63 := by decide
  ⟨hnames, convertUnsupportedDatabaseSchema_populateDatabaseSchema _ hnames⟩

end KitchenSync
