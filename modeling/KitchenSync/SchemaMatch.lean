import KitchenSync.Schema
import KitchenSync.Except

/-!
# The schema comparison

A transcription of `schema_functions.cpp`. Each `check_*` function returns
normally or throws `schema_mismatch`; here it returns `Except Failure Unit`.
The iterators of the source's loops are the suffixes still to be visited, and
`std::sort` is an insertion sort by the same comparison: the source leaves the
order of equivalent elements unspecified, and where names are distinct every
sorting algorithm returns this list (`KitchenSync.Sorting`).
-/

namespace KitchenSync

/-- How a comparison stops short: `schema_mismatch` with its reason, or a read of
`columns[i]` past the end of a column vector, which the source leaves undefined. -/
inductive Failure where
  | schemaMismatch (reason : String)
  | columnIndexOutOfRange
  deriving DecidableEq, Repr

/-- `report_schema_mismatch`: always throws. -/
def reportSchemaMismatch (error : String) : Except Failure Unit :=
  throw (.schemaMismatch error)

/-- `report_schema_mismatch` throws a schema mismatch with its text. -/
@[simp] theorem reportSchemaMismatch_eq (error : String) :
    reportSchemaMismatch error = .error (.schemaMismatch error) := rfl

/-- Modelled from the spec: `columns_list` is declared in `sql_functions.h`, which
is not under src/; the spec says the primary-key and key messages name the column
lists. The model reads `columns[i]` for every index and joins the names. -/
def columnsList (columns : List Column) : List ℕ → Except Failure String
  | [] => pure ""
  | index :: indices => do
    let column ← match columns.get? index with
      | some column => pure column
      | none => throw .columnIndexOutOfRange
    let rest ← columnsList columns indices
    pure (if indices = [] then column.name else column.name ++ ", " ++ rest)

/-- `check_column_match`: the source compares nothing beyond the names yet. -/
def checkColumnMatch (_table : Table) (_fromColumn _toColumn : Column) :
    Except Failure Unit :=
  pure ()

/-- `check_column_match` accepts every pair of columns. -/
@[simp] theorem checkColumnMatch_eq (table : Table) (fromColumn toColumn : Column) :
    checkColumnMatch table fromColumn toColumn = .ok () := rfl

/-- `check_columns_match`. The first list is the from-cursor and its remainder,
the second the to-cursor; `find_if` from a cursor is an existential over the
remainder it starts. -/
def checkColumnsMatch (table : Table) : List Column → List Column → Except Failure Unit
  | [], [] => pure ()
  | [], toColumn :: _ =>
    reportSchemaMismatch ("Extra column " ++ toColumn.name ++ " on table " ++ table.name)
  | fromColumn :: fromColumns, toColumns =>
    match toColumns with
    | toColumn :: toRest =>
      if toColumn.name = fromColumn.name then do
        checkColumnMatch table fromColumn toColumn
        checkColumnsMatch table fromColumns toRest
      else if ¬∃ column ∈ toColumns, column.name = fromColumn.name then
        reportSchemaMismatch ("Missing column " ++ fromColumn.name ++ " on table " ++ table.name)
      else if ¬∃ column ∈ fromColumn :: fromColumns, column.name = toColumn.name then
        reportSchemaMismatch ("Extra column " ++ toColumn.name ++ " on table " ++ table.name)
      else
        reportSchemaMismatch ("Misordered column " ++ fromColumn.name ++ " on table " ++
          table.name ++ ", should have " ++ toColumn.name ++ " first")
    | [] =>
      reportSchemaMismatch ("Missing column " ++ fromColumn.name ++ " on table " ++ table.name)

/-- `check_primary_key_matches`. -/
def checkPrimaryKeyMatches (table : Table) (fromPrimaryKeyColumns toPrimaryKeyColumns : List ℕ) :
    Except Failure Unit :=
  if fromPrimaryKeyColumns ≠ toPrimaryKeyColumns then do
    let toList ← columnsList table.columns toPrimaryKeyColumns
    let fromList ← columnsList table.columns fromPrimaryKeyColumns
    reportSchemaMismatch ("Mismatching primary key " ++ toList ++ " on table " ++ table.name ++
      ", should have " ++ fromList)
  else pure ()

/-- `check_key_match`; the source's `from_key.unique` is the flag `Key::unique()`. -/
def checkKeyMatch (table : Table) (fromKey toKey : Key) : Except Failure Unit := do
  if fromKey.unique ≠ toKey.unique then
    reportSchemaMismatch ("Mismatching unique flag on table " ++ table.name ++ " key " ++
      fromKey.name)
  if fromKey.columns ≠ toKey.columns then
    let toList ← columnsList table.columns toKey.columns
    let fromList ← columnsList table.columns fromKey.columns
    reportSchemaMismatch ("Mismatching columns " ++ toList ++ " on table " ++ table.name ++
      " key " ++ fromKey.name ++ ", should have " ++ fromList)

/-- `sort(keys.begin(), keys.end())` under `Key::operator<`. -/
def sortKeys (keys : List Key) : List Key :=
  keys.insertionSort fun key other => ¬Key.lt other key

/-- The walk of `check_keys_match` over the sorted key lists, comparing names only. -/
def checkKeysMatchLoop (table : Table) : List Key → List Key → Except Failure Unit
  | [], [] => pure ()
  | [], toKey :: _ =>
    reportSchemaMismatch ("Extra key " ++ toKey.name ++ " on table " ++ table.name)
  | fromKey :: fromKeys, toKeys =>
    match toKeys with
    | [] => reportSchemaMismatch ("Missing key " ++ fromKey.name ++ " on table " ++ table.name)
    | toKey :: toRest =>
      if fromKey.name.data < toKey.name.data then
        reportSchemaMismatch ("Missing key " ++ fromKey.name ++ " on table " ++ table.name)
      else if toKey.name.data < fromKey.name.data then
        reportSchemaMismatch ("Extra key " ++ toKey.name ++ " on table " ++ table.name)
      else do
        checkKeyMatch table fromKey toKey
        checkKeysMatchLoop table fromKeys toRest

/-- `check_keys_match`: sort both key lists, then walk them in lockstep. -/
def checkKeysMatch (table : Table) (fromKeys toKeys : List Key) : Except Failure Unit :=
  checkKeysMatchLoop table (sortKeys fromKeys) (sortKeys toKeys)

/-- `check_table_match`: columns, then the primary key, then the keys, all reported
against the from-side table. -/
def checkTableMatch (fromTable toTable : Table) : Except Failure Unit := do
  checkColumnsMatch fromTable fromTable.columns toTable.columns
  checkPrimaryKeyMatches fromTable fromTable.primaryKeyColumns toTable.primaryKeyColumns
  checkKeysMatch fromTable fromTable.keys toTable.keys

/-- The condition `skip_ignored_tables` skips on: `ignore_tables.count(name)`, or a
non-empty `only_tables` without the name. A `set<string>` is the list of its members. -/
def Ignored (ignoreTables onlyTables : List String) (table : Table) : Prop :=
  table.name ∈ ignoreTables ∨ (onlyTables ≠ [] ∧ table.name ∉ onlyTables)

instance (ignoreTables onlyTables : List String) :
    DecidablePred (Ignored ignoreTables onlyTables) :=
  fun table => inferInstanceAs (Decidable (table.name ∈ ignoreTables ∨ _))

/-- `skip_ignored_tables`: advance past the tables the filters leave out. -/
def skipIgnoredTables (ignoreTables onlyTables : List String) (tables : List Table) :
    List Table :=
  tables.dropWhile fun table => Ignored ignoreTables onlyTables table

/-- `sort(tables.begin(), tables.end())` under `Table::operator<`, which compares names. -/
def sortTables (tables : List Table) : List Table :=
  tables.insertionSort fun table other => ¬other.name.data < table.name.data

/-- The loop of `check_tables_match`. The to-cursor is kept past ignored tables by
`skipIgnoredTables`; the from-cursor's `skip_ignored_tables` is unrolled into the
recursion, which passes over one ignored table at a time. -/
def checkTablesMatchLoop (ignoreTables onlyTables : List String) :
    List Table → List Table → Except Failure Unit
  | [], [] => pure ()
  | [], toTable :: _ => reportSchemaMismatch ("Extra table " ++ toTable.name)
  | fromTable :: fromTables, toTables =>
    if Ignored ignoreTables onlyTables fromTable then
      checkTablesMatchLoop ignoreTables onlyTables fromTables toTables
    else
      match toTables with
      | [] => reportSchemaMismatch ("Missing table " ++ fromTable.name)
      | toTable :: toRest =>
        if fromTable.name.data < toTable.name.data then
          reportSchemaMismatch ("Missing table " ++ fromTable.name)
        else if toTable.name.data < fromTable.name.data then
          reportSchemaMismatch ("Extra table " ++ toTable.name)
        else do
          checkTableMatch fromTable toTable
          checkTablesMatchLoop ignoreTables onlyTables fromTables
            (skipIgnoredTables ignoreTables onlyTables toRest)

/-- `check_tables_match`. -/
def checkTablesMatch (fromTables toTables : List Table) (ignoreTables onlyTables : List String) :
    Except Failure Unit :=
  checkTablesMatchLoop ignoreTables onlyTables (sortTables fromTables)
    (skipIgnoredTables ignoreTables onlyTables (sortTables toTables))

/-- `check_schema_match`: only the tables are compared. -/
def checkSchemaMatch (fromDatabase toDatabase : Database) (ignoreTables onlyTables : List String) :
    Except Failure Unit :=
  checkTablesMatch fromDatabase.tables toDatabase.tables ignoreTables onlyTables

end KitchenSync
