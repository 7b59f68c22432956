import KitchenSync.Schema
import KitchenSync.StdString

/-!
# Normalising a peer's schema for PostgreSQL

`PostgreSQLClient::convert_unsupported_database_schema` rewrites a schema into one
PostgreSQL can represent: no unsigned integers, no 1- or 3-byte integers, unsized text
and binary columns, and key names of at most 63 characters. A schema of that form is
left unchanged by the pass, and the pass produces one, so applying it twice is
applying it once.
-/

namespace KitchenSync

namespace PostgreSQLClient

/-- The column loop of `convert_unsupported_database_schema`: its four rewrites, each
reading the column as the previous one left it. -/
def convertColumn (column : Column) : Column :=
  let column :=
    if column.columnType = ColumnTypes.uint then { column with columnType := ColumnTypes.sint }
    else column
  let column :=
    if column.columnType = ColumnTypes.sint ∧ column.size = 1 then { column with size := 2 }
    else column
  let column :=
    if column.columnType = ColumnTypes.sint ∧ column.size = 3 then { column with size := 4 }
    else column
  if column.columnType = ColumnTypes.text ∨ column.columnType = ColumnTypes.blob then
    { column with size := 0 }
  else column

/-- The key loop of `convert_unsupported_database_schema`: index names are cut to 63
characters. -/
def convertKey (key : Key) : Key :=
  if key.name.length ≥ 63 then { key with name := substr key.name 0 63 } else key

/-- `convert_unsupported_database_schema` on one table. -/
def convertTable (table : Table) : Table :=
  { table with columns := table.columns.map convertColumn, keys := table.keys.map convertKey }

/-- `PostgreSQLClient::convert_unsupported_database_schema`. -/
def convertUnsupportedDatabaseSchema (database : Database) : Database :=
  ⟨database.tables.map convertTable⟩

end PostgreSQLClient

open PostgreSQLClient

/-- A column PostgreSQL represents as it is. -/
structure Column.Supported (column : Column) : Prop where
  signed : column.columnType ≠ ColumnTypes.uint
  intSize : column.columnType = ColumnTypes.sint → column.size ≠ 1 ∧ column.size ≠ 3
  unsized : column.columnType = ColumnTypes.text ∨ column.columnType = ColumnTypes.blob →
    column.size = 0

/-- The column pass leaves a column PostgreSQL represents. An integer column leaves it
signed, and off the two sizes it moves; any other column keeps its type. -/
theorem convertColumn_supported (column : Column) : (convertColumn column).Supported := by
  have hne : ColumnTypes.sint ≠ ColumnTypes.text ∧ ColumnTypes.sint ≠ ColumnTypes.blob ∧
      ColumnTypes.sint ≠ ColumnTypes.uint := by decide
  obtain ⟨htext, hblob, hsint⟩ := hne
  rcases column with ⟨name, nullable, defaultType, defaultValue, ty, size, scale, flags, tr, rs, dd⟩
  by_cases hint : ty = ColumnTypes.uint ∨ ty = ColumnTypes.sint
  · rcases hint with rfl | rfl <;>
      rcases (by omega : size = 1 ∨ size = 3 ∨ (size ≠ 1 ∧ size ≠ 3)) with rfl | rfl | ⟨h1, h3⟩ <;>
      constructor <;> simp [convertColumn, *]
  · obtain ⟨hu, hs⟩ := not_or.mp hint
    by_cases htb : ty = ColumnTypes.text ∨ ty = ColumnTypes.blob <;>
      constructor <;> simp [convertColumn, *]

/-- The column pass changes nothing in a column PostgreSQL represents. -/
theorem convertColumn_of_supported {column : Column} (h : column.Supported) :
    convertColumn column = column := by
  obtain ⟨hsigned, hint, hunsized⟩ := h
  have h1 : ¬(column.columnType = ColumnTypes.sint ∧ column.size = 1) :=
    fun ⟨hs, h1⟩ => (hint hs).1 h1
  have h3 : ¬(column.columnType = ColumnTypes.sint ∧ column.size = 3) :=
    fun ⟨hs, h3⟩ => (hint hs).2 h3
  simp only [convertColumn, hsigned, h1, h3, if_false]
  split_ifs with htb
  · exact congrArg (fun size => { column with size }) (hunsized htb).symm
  · rfl

/-- Cut key names have at most 63 characters. -/
theorem convertKey_name_length (key : Key) : (convertKey key).name.length ≤ 63 := by
  unfold convertKey
  split_ifs with h
  · exact substr_length_le _ _ _
  · omega

/-- The key pass changes nothing in a key whose name has at most 63 characters. -/
theorem convertKey_of_length_le {key : Key} (h : key.name.length ≤ 63) : convertKey key = key := by
  unfold convertKey
  split_ifs
  · rw [substr_zero_of_length_le h]
  · rfl

/-- The table pass changes nothing in a table it has already passed over. -/
theorem convertTable_convertTable (table : Table) :
    convertTable (convertTable table) = convertTable table := by
  have hcolumns :
      (table.columns.map convertColumn).map convertColumn = table.columns.map convertColumn := by
    simp only [List.map_map, Function.comp_def,
      convertColumn_of_supported (convertColumn_supported _)]
  have hkeys : (table.keys.map convertKey).map convertKey = table.keys.map convertKey := by
    simp only [List.map_map, Function.comp_def, convertKey_of_length_le (convertKey_name_length _)]
  simp only [convertTable, hcolumns, hkeys]

/-- **Idempotence.** Normalising a schema that has already been normalised changes
nothing. -/
theorem convertUnsupportedDatabaseSchema_idempotent (database : Database) :
    convertUnsupportedDatabaseSchema (convertUnsupportedDatabaseSchema database) =
      convertUnsupportedDatabaseSchema database := by
  simp only [convertUnsupportedDatabaseSchema, List.map_map, Function.comp_def,
    convertTable_convertTable]

end KitchenSync
