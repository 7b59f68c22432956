import KitchenSync.PostgreSQL.SchemaReader
import KitchenSync.PostgreSQL.Statements

/-!
# Reading the schema over a connection

`populate_database_schema` sends the table query, and its row handler, the table lister,
sends three more queries for each table, naming the table in them through
`escape_string_value`; the type query follows. Each query runs its lister over the rows libpq
returns, and a failed query throws out of every handler around it. The primary-key and key
listers look the column a row names up with `Table::index_of_column`, whose result is
optional: a name the table lacks ends the listing with an exception. Here libpq's answer to
each statement is a parameter. When every statement is answered with rows, and the
primary-key and key rows name columns the column rows list, the schema read is the one the
catalog model reads from the rows of the answers, and the type map is collected from the type
query's rows. Otherwise the exception is the `sql_error` of a statement that failed, or the
lookup's for a column the column query did not return.

The functions are those of the catalog model, with the queries they send: they keep the
source's names in the namespace `Connection`.
-/

namespace KitchenSync

namespace Connection

/-! ### The statements -/

/-- The column query of `PostgreSQLTableLister::operator()`. -/
def columnsQuery (tableName : String) : String :=
  "SELECT attname, format_type(atttypid, atttypmod), attnotnull, atthasdef, pg_get_expr(adbin, adrelid) " ++
  "FROM pg_attribute " ++
  "JOIN pg_class ON attrelid = pg_class.oid " ++
  "JOIN pg_type ON atttypid = pg_type.oid " ++
  "LEFT JOIN pg_attrdef ON adrelid = attrelid AND adnum = attnum " ++
  "WHERE attnum > 0 AND " ++
  "NOT attisdropped AND " ++
  "relname = '" ++ escapeStringValue tableName ++ "' " ++
  "ORDER BY attnum"

/-- The primary-key query of `PostgreSQLTableLister::operator()`. -/
def primaryKeyQuery (tableName : String) : String :=
  "SELECT column_name " ++
  "FROM information_schema.table_constraints, " ++
  "information_schema.key_column_usage " ++
  "WHERE information_schema.table_constraints.table_name = '" ++ escapeStringValue tableName ++
    "' AND " ++
  "information_schema.key_column_usage.table_name = information_schema.table_constraints.table_name AND " ++
  "constraint_type = 'PRIMARY KEY' " ++
  "ORDER BY ordinal_position"

/-- The key query of `PostgreSQLTableLister::operator()`. -/
def keysQuery (tableName : String) : String :=
  "SELECT indexname, indisunique, attname " ++
  "FROM (SELECT table_class.oid AS table_oid, index_class.relname AS indexname, pg_index.indisunique, generate_series(1, array_length(indkey, 1)) AS position, unnest(indkey) AS attnum " ++
  "FROM pg_class table_class, pg_class index_class, pg_index " ++
  "WHERE table_class.relname = '" ++ escapeStringValue tableName ++ "' AND " ++
  "table_class.relkind = 'r' AND " ++
  "index_class.relkind = 'i' AND " ++
  "pg_index.indrelid = table_class.oid AND " ++
  "pg_index.indexrelid = index_class.oid AND " ++
  "NOT pg_index.indisprimary) index_attrs," ++
  "pg_attribute " ++
  "WHERE pg_attribute.attrelid = table_oid AND " ++
  "pg_attribute.attnum = index_attrs.attnum " ++
  "ORDER BY indexname, index_attrs.position"

/-- The table query of `PostgreSQLClient::populate_database_schema`. -/
def tablesQuery : String :=
  "SELECT pg_class.relname " ++
  "FROM pg_class, pg_namespace " ++
  "WHERE pg_class.relnamespace = pg_namespace.oid AND " ++
  "pg_namespace.nspname = ANY (current_schemas(false)) AND " ++
  "relkind = 'r' " ++
  "ORDER BY pg_relation_size(pg_class.oid) DESC, relname ASC"

/-- The type query of `PostgreSQLClient::populate_database_schema`. -/
def typesQuery : String :=
  "SELECT pg_type.oid, pg_type.typname " ++
  "FROM pg_type, pg_namespace " ++
  "WHERE pg_type.typnamespace = pg_namespace.oid AND " ++
  "pg_namespace.nspname = ANY (current_schemas(false)) AND " ++
  "pg_type.typname IN ('geometry')"

/-! ### The handlers -/

/-- `row.string_at(column_number)`. Past the columns of the result the source reads outside
it; the model reads the empty text there. -/
def fieldAt (row : List (Option String)) (columnNumber : ℕ) : String :=
  PostgreSQLClient.stringAt (row.getD columnNumber none)

/-- The fields the column lister reads. -/
def columnRow (row : List (Option String)) : ColumnRow :=
  ⟨fieldAt row 0, fieldAt row 1, fieldAt row 2, fieldAt row 3, fieldAt row 4⟩

/-- The fields the key lister reads. -/
def keyRow (row : List (Option String)) : KeyRow := ⟨fieldAt row 0, fieldAt row 1, fieldAt row 2⟩

section Client

variable (errorMessage : String) (answer : String → Answer) (unknownColumn : String → String)

/-! ### Looking a column up -/

/-- `Table::index_of_column`, declared in the header and defined outside src/; its result is
optional, as the specification describes it: the position of the first column of that name,
none when the table has no such column. -/
def indexOfColumn (columns : List Column) (name : String) : Option ℕ :=
  columns.findIdx? (·.name == name)

/-- What the primary-key and key listers do with the column a row names: its position goes to
the lister's step. They use the position as it is, so a name the table lacks ends the listing
with the exception `unknownColumn` gives for it. -/
def withColumnIndex (columns : List Column) (columnName : String) (step : ℕ → Table) :
    Except String Table :=
  match indexOfColumn columns columnName with
  | some columnIndex => pure (step columnIndex)
  | none => throw (unknownColumn columnName)

/-- `PostgreSQLPrimaryKeyLister::operator()`: the catalog model's step, with the position the
lookup found. -/
def PostgreSQLPrimaryKeyLister.apply (table : Table) (row : List (Option String)) :
    Except String Table :=
  withColumnIndex unknownColumn table.columns (fieldAt row 0) fun columnIndex =>
    KitchenSync.PostgreSQLPrimaryKeyLister.apply (fun _ => columnIndex) table (fieldAt row 0)

/-- `PostgreSQLKeyLister::operator()`: the catalog model's step on the keys, with the position
the lookup found. -/
def PostgreSQLKeyLister.apply (table : Table) (row : List (Option String)) :
    Except String Table :=
  withColumnIndex unknownColumn table.columns (keyRow row).attname fun columnIndex =>
    let keys := KitchenSync.PostgreSQLKeyLister.apply (fun _ => columnIndex) table.keys (keyRow row)
    { table with keys := keys }

/-- A name the columns have is found at the first position holding it. -/
theorem withColumnIndex_of_mem {columns : List Column} {columnName : String}
    (step : ℕ → Table) (h : columnName ∈ columns.map (·.name)) :
    withColumnIndex unknownColumn columns columnName step =
      .ok (step (columns.findIdx (·.name == columnName))) := by
  obtain ⟨column, hcolumn, rfl⟩ := List.mem_map.mp h
  have hfound : columns.findIdx? (·.name == column.name) =
      some (columns.findIdx (·.name == column.name)) :=
    List.findIdx?_eq_some_of_exists ⟨column, hcolumn, beq_self_eq_true _⟩
  rw [withColumnIndex, indexOfColumn, hfound]
  rfl

/-- A lookup throws only for a name the columns lack, and then the exception for that name. -/
theorem withColumnIndex_eq_error {columns : List Column} {columnName : String}
    {step : ℕ → Table} {e : String}
    (h : withColumnIndex unknownColumn columns columnName step = .error e) :
    columnName ∉ columns.map (·.name) ∧ e = unknownColumn columnName := by
  unfold withColumnIndex at h
  split at h
  · cases h
  · rename_i hnone
    refine ⟨fun hmem => ?_, (Except.error.inj h).symm⟩
    obtain ⟨column, hcolumn, rfl⟩ := List.mem_map.mp hmem
    exact absurd (List.findIdx?_eq_none_iff.mp hnone column hcolumn) (by simp)

/-- The primary-key and key listers leave the columns alone. -/
theorem columns_of_withColumnIndex_eq_ok {table next : Table} {columnName : String}
    {step : ℕ → Table} (hstep : ∀ columnIndex, (step columnIndex).columns = table.columns)
    (h : withColumnIndex unknownColumn table.columns columnName step = .ok next) :
    next.columns = table.columns := by
  unfold withColumnIndex at h
  split at h
  · exact Except.ok.inj h ▸ hstep _
  · cases h

/-! ### The listers over a connection -/

/-- `PostgreSQLTableLister::operator()`: `Table(row.string_at(0))`, the three listers over
the answers to their queries, the sort of the keys, and the table appended. -/
def PostgreSQLTableLister.apply (database : Database) (row : List (Option String)) :
    Except String Database := do
  let name := fieldAt row 0
  let table : Table := ⟨name, [], [], .noAvailableKey, []⟩
  let columns ← PostgreSQLClient.query errorMessage
    (fun table row => .ok (PostgreSQLColumnLister.apply table (columnRow row)))
    table (answer (columnsQuery name)) (columnsQuery name)
  let primaryKey ← PostgreSQLClient.query errorMessage
    (PostgreSQLPrimaryKeyLister.apply unknownColumn)
    columns.1 (answer (primaryKeyQuery name)) (primaryKeyQuery name)
  let keys ← PostgreSQLClient.query errorMessage (PostgreSQLKeyLister.apply unknownColumn)
    primaryKey.1 (answer (keysQuery name)) (keysQuery name)
  pure { database with tables := database.tables ++ [{ keys.1 with keys := sortKeys keys.1.keys }] }

/-- `PostgreSQLClient::populate_database_schema`: the table lister over the table query,
then the type collector over the type query, into the client's map. -/
def PostgreSQLClient.populateDatabaseSchema (typeMap : TypeMap) (database : Database) :
    Except String (Database × TypeMap) := do
  let tables ← PostgreSQLClient.query errorMessage
    (PostgreSQLTableLister.apply errorMessage answer unknownColumn) database
    (answer tablesQuery) tablesQuery
  let types ← PostgreSQLClient.query errorMessage
    (fun typeMap row => .ok (PostgreSQLTypeMapCollector.apply typeMap
      (PostgreSQLTypeMapCollector.typeRow (fieldAt row 0) (fieldAt row 1))))
    typeMap (answer typesQuery) typesQuery
  pure (tables.1, types.1)

/-! ### The catalog the answers describe -/

/-- The rows the table lister's three queries are answered with for a table, as the catalog
model takes them. -/
def catalog (name : String) : TableCatalog :=
  ⟨name, (answer (columnsQuery name)).result.rows.map columnRow,
    (answer (primaryKeyQuery name)).result.rows.map (fieldAt · 0),
    (answer (keysQuery name)).result.rows.map keyRow⟩

/-- libpq answers the three queries of the table lister for a table with rows. -/
def TableAnswered (name : String) : Prop :=
  (answer (columnsQuery name)).status = .tuplesOk ∧
    (answer (primaryKeyQuery name)).status = .tuplesOk ∧
    (answer (keysQuery name)).status = .tuplesOk

/-- libpq answers every statement `populate_database_schema` sends with rows. -/
def Answered : Prop :=
  (answer tablesQuery).status = .tuplesOk ∧ (answer typesQuery).status = .tuplesOk ∧
    ∀ row ∈ (answer tablesQuery).result.rows, TableAnswered answer (fieldAt row 0)

/-- The primary-key and key rows of a catalog name only columns its column rows list, as
they do in a consistent catalog. -/
structure KeyColumnsListed (catalog : TableCatalog) : Prop where
  primaryKeyColumns : ∀ name ∈ catalog.primaryKeyRows, name ∈ catalog.columnRows.map (·.attname)
  keyColumns : ∀ row ∈ catalog.keyRows, row.attname ∈ catalog.columnRows.map (·.attname)

instance : DecidablePred KeyColumnsListed := fun _ =>
  decidable_of_iff (_ ∧ _) ⟨fun ⟨h₁, h₂⟩ => ⟨h₁, h₂⟩, fun ⟨h₁, h₂⟩ => ⟨h₁, h₂⟩⟩

/-- The column lister over the rows of the column query leaves a table that had no columns
the columns of the catalog's column rows. -/
theorem columnNames_foldl_columnLister (name : String) (table : Table)
    (htable : table.columns = []) :
    ((answer (columnsQuery name)).result.rows.foldl
        (fun table row => PostgreSQLColumnLister.apply table (columnRow row)) table).columns.map
      (·.name) = (catalog answer name).columnRows.map (·.attname) := by
  simp [← List.foldl_map, foldl_columnLister, htable, catalog]

/-- The column query that returns leaves the table the columns of its answer's rows. -/
theorem columnNames_of_query_eq_ok {name : String} {result : Table × ℕ}
    (h : PostgreSQLClient.query errorMessage
      (fun table row => .ok (PostgreSQLColumnLister.apply table (columnRow row)))
      ⟨name, [], [], .noAvailableKey, []⟩ (answer (columnsQuery name)) (columnsQuery name) =
        .ok result) :
    result.1.columns.map (·.name) = (catalog answer name).columnRows.map (·.attname) := by
  obtain ⟨-, h⟩ := PostgreSQLClient.foldlM_of_query_eq_ok errorMessage h
  rw [PostgreSQLClient.foldlM_ok, Except.ok.injEq] at h
  rw [← h, columnNames_foldl_columnLister answer name _ rfl]

/-! ### Answered statements give the catalog model's schema -/

/-- A lister that looks up the column each row names, over rows naming columns the table has,
runs as a plain fold that finds each column at the first position of its name. -/
theorem foldlM_withColumnIndex (columnName : List (Option String) → String)
    (step : Table → List (Option String) → ℕ → Table)
    (hstep : ∀ table row columnIndex, (step table row columnIndex).columns = table.columns)
    (rows : List (List (Option String))) (table : Table)
    (hlisted : ∀ row ∈ rows, columnName row ∈ table.columns.map (·.name)) :
    rows.foldlM (fun table row =>
        withColumnIndex unknownColumn table.columns (columnName row) (step table row)) table =
      .ok (rows.foldl (fun next row =>
        step next row (table.columns.findIdx (·.name == columnName row))) table) :=
  foldlM_eq_ok_foldl (fun next : Table => next.columns = table.columns) (fun next hnext row hrow =>
    ⟨by rw [withColumnIndex_of_mem unknownColumn _ (hnext ▸ hlisted row hrow), hnext],
      (hstep _ _ _).trans hnext⟩) rfl

/-- The primary-key lister over rows naming columns the table has runs as the catalog
model's, with the positions of those columns. -/
theorem foldlM_primaryKeyLister (rows : List (List (Option String))) (table : Table)
    (hlisted : ∀ row ∈ rows, fieldAt row 0 ∈ table.columns.map (·.name)) :
    rows.foldlM (PostgreSQLPrimaryKeyLister.apply unknownColumn) table =
      .ok ((rows.map (fieldAt · 0)).foldl (KitchenSync.PostgreSQLPrimaryKeyLister.apply
        fun name => table.columns.findIdx (·.name == name)) table) := by
  rw [List.foldl_map]
  exact foldlM_withColumnIndex unknownColumn (fieldAt · 0) _ (by intros; rfl) rows table hlisted

/-- The key lister over the rows of the key query changes the keys only. -/
theorem foldl_keyLister (index : String → ℕ) (rows : List (List (Option String))) (table : Table) :
    rows.foldl (fun table row =>
        { table with keys := KitchenSync.PostgreSQLKeyLister.apply index table.keys (keyRow row) }) table =
      { table with keys := (rows.map keyRow).foldl (KitchenSync.PostgreSQLKeyLister.apply index) table.keys } := by
  induction rows generalizing table with
  | nil => rfl
  | cons row rows ih => exact ih _

/-- The key lister over rows naming columns the table has runs as the catalog model's, with
the positions of those columns. -/
theorem foldlM_keyLister (rows : List (List (Option String))) (table : Table)
    (hlisted : ∀ row ∈ rows, (keyRow row).attname ∈ table.columns.map (·.name)) :
    rows.foldlM (PostgreSQLKeyLister.apply unknownColumn) table =
      .ok { table with keys := (rows.map keyRow).foldl (KitchenSync.PostgreSQLKeyLister.apply
        fun name => table.columns.findIdx (·.name == name)) table.keys } := by
  rw [← foldl_keyLister]
  exact foldlM_withColumnIndex unknownColumn (fun row => (keyRow row).attname) _ (by intros; rfl)
    rows table hlisted

/-- One row of the table query, its three queries answered with rows that name only listed
columns, appends the table the catalog model reads from their rows. -/
theorem PostgreSQLTableLister.apply_eq (database : Database) (row : List (Option String))
    (hanswered : TableAnswered answer (fieldAt row 0))
    (hlisted : KeyColumnsListed (catalog answer (fieldAt row 0))) :
    PostgreSQLTableLister.apply errorMessage answer unknownColumn database row =
      .ok (KitchenSync.PostgreSQLTableLister.apply
        (fun columns name => columns.findIdx (·.name == name)) database
        (catalog answer (fieldAt row 0))) := by
  obtain ⟨hcolumns, hprimaryKey, hkeys⟩ := hanswered
  simp only [PostgreSQLTableLister.apply, PostgreSQLClient.query_of_tuplesOk_ok _ _ _ hcolumns,
    except_ok_bind, PostgreSQLClient.query_of_tuplesOk _ _ _ hprimaryKey,
    PostgreSQLClient.query_of_tuplesOk _ _ _ hkeys]
  rw [foldlM_primaryKeyLister unknownColumn]
  · simp only [Except.map, except_ok_bind]
    rw [foldlM_keyLister unknownColumn]
    · simp only [Except.map, except_ok_bind, except_pure, KitchenSync.PostgreSQLTableLister.apply,
        KitchenSync.PostgreSQLTableLister.table, catalog, List.foldl_map]
    · -- the key lister looks names up in the columns the primary-key lister left
      intro row hrow
      rw [foldl_primaryKeyLister, columnNames_foldl_columnLister answer _ _ rfl]
      exact hlisted.keyColumns _ (List.mem_map_of_mem _ hrow)
  · intro row hrow
    rw [columnNames_foldl_columnLister answer _ _ rfl]
    exact hlisted.primaryKeyColumns _ (List.mem_map_of_mem _ hrow)

/-- The table lister over rows of the table query, each table's queries answered with rows
that name only listed columns, reads the catalog model's tables. -/
theorem foldlM_tableLister (rows : List (List (Option String))) (database : Database)
    (hanswered : ∀ row ∈ rows, TableAnswered answer (fieldAt row 0))
    (hlisted : ∀ row ∈ rows, KeyColumnsListed (catalog answer (fieldAt row 0))) :
    rows.foldlM (PostgreSQLTableLister.apply errorMessage answer unknownColumn) database =
      .ok (KitchenSync.PostgreSQLClient.populateDatabaseSchema
        (fun columns name => columns.findIdx (·.name == name)) database
        (rows.map fun row => catalog answer (fieldAt row 0))) := by
  rw [KitchenSync.PostgreSQLClient.populateDatabaseSchema, List.foldl_map]
  exact foldlM_eq_ok_foldl (fun _ => True) (fun _ _ row hrow =>
    ⟨PostgreSQLTableLister.apply_eq errorMessage answer unknownColumn _ row (hanswered row hrow)
      (hlisted row hrow), trivial⟩) trivial

/-- **Introspection over a connection reads the catalog model's schema.** When libpq answers
every statement `populate_database_schema` sends with rows, and each table's primary-key and
key rows name only columns its column rows list, it returns the database the catalog model
reads from the rows of the answers, looking each column up at the first position of its
name, and the client's map gains what the type collector reads from the type query's
rows. -/
theorem populateDatabaseSchema_eq_ok (typeMap : TypeMap) (database : Database)
    (hanswered : Answered answer)
    (hlisted : ∀ row ∈ (answer tablesQuery).result.rows,
      KeyColumnsListed (catalog answer (fieldAt row 0))) :
    PostgreSQLClient.populateDatabaseSchema errorMessage answer unknownColumn typeMap database =
      .ok (KitchenSync.PostgreSQLClient.populateDatabaseSchema
          (fun columns name => columns.findIdx (·.name == name)) database
          ((answer tablesQuery).result.rows.map fun row => catalog answer (fieldAt row 0)),
        KitchenSync.PostgreSQLClient.collectTypeMap typeMap
          ((answer typesQuery).result.rows.map fun row =>
            PostgreSQLTypeMapCollector.typeRow (fieldAt row 0) (fieldAt row 1))) := by
  obtain ⟨htables, htypes, hrows⟩ := hanswered
  simp only [PostgreSQLClient.populateDatabaseSchema,
    PostgreSQLClient.query_of_tuplesOk _ _ _ htables, foldlM_tableLister _ _ _ _ _ hrows hlisted,
    PostgreSQLClient.query_of_tuplesOk_ok _ _ _ htypes, Except.map, except_ok_bind, except_pure,
    KitchenSync.PostgreSQLClient.collectTypeMap, List.foldl_map]

/-! ### What the introspection throws -/

/-- An exception that is the `sql_error` of a statement libpq did not answer with rows. -/
def FailedStatement (e : String) : Prop :=
  ∃ sql, (answer sql).status ≠ .tuplesOk ∧ e = PostgreSQLClient.sqlError errorMessage sql

/-- An exception that is the lookup's for a primary-key or key column that the catalog's
column rows do not list. -/
def UnlistedColumn (catalog : TableCatalog) (e : String) : Prop :=
  ∃ name, (name ∈ catalog.primaryKeyRows ∨ name ∈ catalog.keyRows.map (·.attname)) ∧
    name ∉ catalog.columnRows.map (·.attname) ∧ e = unknownColumn name

/-- A query of the primary-key or key lister that returns leaves the columns alone. -/
theorem columns_of_query_withColumnIndex_eq_ok (columnName : List (Option String) → String)
    (step : Table → List (Option String) → ℕ → Table)
    (hstep : ∀ table row columnIndex, (step table row columnIndex).columns = table.columns)
    {table : Table} {sql : String} {result : Table × ℕ}
    (h : PostgreSQLClient.query errorMessage
      (fun table row => withColumnIndex unknownColumn table.columns (columnName row) (step table row))
      table (answer sql) sql = .ok result) :
    result.1.columns = table.columns :=
  foldlM_invariant (·.columns = table.columns) (fun next row _ hnext h =>
      (columns_of_withColumnIndex_eq_ok unknownColumn (hstep next row) h).trans hnext) rfl
    (PostgreSQLClient.foldlM_of_query_eq_ok errorMessage h).2

/-- A query of the primary-key or key lister throws the `sql_error` of its statement, or the
lookup's exception for a column one of its rows names that the table lacks. -/
theorem eq_error_of_query_withColumnIndex (columnName : List (Option String) → String)
    (step : Table → List (Option String) → ℕ → Table)
    (hstep : ∀ table row columnIndex, (step table row columnIndex).columns = table.columns)
    {table : Table} {sql e : String}
    (h : PostgreSQLClient.query errorMessage
      (fun table row => withColumnIndex unknownColumn table.columns (columnName row) (step table row))
      table (answer sql) sql = .error e) :
    FailedStatement errorMessage answer e ∨ ∃ row ∈ (answer sql).result.rows,
      columnName row ∉ table.columns.map (·.name) ∧ e = unknownColumn (columnName row) := by
  rcases PostgreSQLClient.query_eq_error errorMessage h with ⟨hstatus, rfl⟩ | h
  · exact .inl ⟨sql, hstatus, rfl⟩
  obtain ⟨next, hnext, row, hrow, h⟩ := exists_eq_error_of_foldlM_eq_error
    (·.columns = table.columns) (fun next row _ hnext h =>
      (columns_of_withColumnIndex_eq_ok unknownColumn (hstep next row) h).trans hnext) rfl h
  obtain ⟨hname, rfl⟩ := withColumnIndex_eq_error unknownColumn h
  exact .inr ⟨row, hrow, hnext ▸ hname, rfl⟩

/-- The table lister throws the `sql_error` of one of its queries, or the lookup's exception
for a primary-key or key column the column query did not return. -/
theorem PostgreSQLTableLister.eq_error_of_apply {database : Database}
    {row : List (Option String)} {e : String}
    (h : PostgreSQLTableLister.apply errorMessage answer unknownColumn database row = .error e) :
    FailedStatement errorMessage answer e ∨
      UnlistedColumn unknownColumn (catalog answer (fieldAt row 0)) e := by
  simp only [PostgreSQLTableLister.apply, except_bind_eq_error_iff] at h
  rcases h with h | ⟨columns, hcolumns, h | ⟨primaryKey, hprimaryKey, h | ⟨_, -, h⟩⟩⟩
  · exact .inl ⟨_, PostgreSQLClient.eq_sqlError_of_query_ok errorMessage h⟩
  · have hnames := columnNames_of_query_eq_ok errorMessage answer hcolumns
    refine (eq_error_of_query_withColumnIndex errorMessage answer unknownColumn (fieldAt · 0)
      _ (by intros; rfl) h).imp id ?_
    rintro ⟨r, hr, hname, rfl⟩
    exact ⟨_, .inl (List.mem_map_of_mem _ hr), hnames ▸ hname, rfl⟩
  · -- the key lister looks names up in the columns the primary-key lister left
    have hnames := columnNames_of_query_eq_ok errorMessage answer hcolumns
    have hsame := columns_of_query_withColumnIndex_eq_ok errorMessage answer unknownColumn
      (fieldAt · 0) _ (by intros; rfl) hprimaryKey
    refine (eq_error_of_query_withColumnIndex errorMessage answer unknownColumn
      (fun row => (keyRow row).attname) _ (by intros; rfl) h).imp id ?_
    rintro ⟨r, hr, hname, rfl⟩
    refine ⟨_, .inr (List.mem_map_of_mem _ (List.mem_map_of_mem _ hr)), ?_, rfl⟩
    rwa [hsame, hnames] at hname
  · cases h

/-- **Every exception names a failed statement or an unlisted column.** Whatever libpq
answers, an exception of `populate_database_schema` is the `sql_error` of a statement libpq
did not answer with rows, or the lookup's exception for a column that a table's primary-key
or key rows name and its column rows do not list. -/
theorem populateDatabaseSchema_eq_error {typeMap : TypeMap} {database : Database} {e : String}
    (h : PostgreSQLClient.populateDatabaseSchema errorMessage answer unknownColumn typeMap
      database = .error e) :
    (∃ sql, (answer sql).status ≠ .tuplesOk ∧ e = PostgreSQLClient.sqlError errorMessage sql) ∨
      ∃ row ∈ (answer tablesQuery).result.rows, ∃ name,
        (name ∈ (catalog answer (fieldAt row 0)).primaryKeyRows ∨
          name ∈ (catalog answer (fieldAt row 0)).keyRows.map (·.attname)) ∧
        name ∉ (catalog answer (fieldAt row 0)).columnRows.map (·.attname) ∧
        e = unknownColumn name := by
  simp only [PostgreSQLClient.populateDatabaseSchema, except_bind_eq_error_iff] at h
  rcases h with h | ⟨_, -, h | ⟨_, -, h⟩⟩
  · rcases PostgreSQLClient.query_eq_error errorMessage h with ⟨hstatus, he⟩ | h
    · exact .inl ⟨_, hstatus, he⟩
    obtain ⟨table, -, row, hrow, h⟩ :=
      exists_eq_error_of_foldlM_eq_error (fun _ => True) (fun _ _ _ _ _ => trivial) trivial h
    exact (PostgreSQLTableLister.eq_error_of_apply errorMessage answer unknownColumn h).imp id
      fun hunlisted => ⟨row, hrow, hunlisted⟩
  · exact .inl ⟨_, PostgreSQLClient.eq_sqlError_of_query_ok errorMessage h⟩
  · cases h

end Client

/-! ### Two connections -/

/-- A database whose one table is `events`: an `id` column, its primary key, a `name` column,
and one index, on the column `indexColumn`. -/
def eventsAnswer (indexColumn sql : String) : Answer :=
  if sql = tablesQuery then ⟨.tuplesOk, 0, ⟨[19], [[some "events"]], by decide⟩⟩
  else if sql = columnsQuery "events" then
    ⟨.tuplesOk, 0, ⟨[19, 25, 16, 16, 25],
      [[some "id", some "integer", some "t", some "f", none],
        [some "name", some "text", some "f", some "f", none]], by decide⟩⟩
  else if sql = primaryKeyQuery "events" then ⟨.tuplesOk, 0, ⟨[19], [[some "id"]], by decide⟩⟩
  else if sql = keysQuery "events" then
    ⟨.tuplesOk, 0, ⟨[19, 16, 19], [[some "events_index", some "f", some indexColumn]], by simp⟩⟩
  else ⟨.tuplesOk, 0, ⟨[], [], by simp⟩⟩

/-- libpq answers every statement about `events` with rows. -/
theorem eventsAnswer_status (indexColumn sql : String) :
    (eventsAnswer indexColumn sql).status = .tuplesOk := by
  simp only [eventsAnswer, apply_ite Answer.status, ite_self]

/-- The rows of the answers about `events`, read without comparing a statement with itself. -/
theorem eventsAnswer_rows (indexColumn : String) :
    (eventsAnswer indexColumn tablesQuery).result.rows = [[some "events"]] ∧
      (eventsAnswer indexColumn (columnsQuery "events")).result.rows =
        [[some "id", some "integer", some "t", some "f", none],
          [some "name", some "text", some "f", some "f", none]] ∧
      (eventsAnswer indexColumn (primaryKeyQuery "events")).result.rows = [[some "id"]] ∧
      (eventsAnswer indexColumn (keysQuery "events")).result.rows =
        [[some "events_index", some "f", some indexColumn]] := by
  refine ⟨?_, ?_, ?_, ?_⟩ <;> rw [eventsAnswer]
  · rw [if_pos rfl]
  · rw [if_neg (by decide), if_pos rfl]
  · rw [if_neg (by decide), if_neg (by decide), if_pos rfl]
  · rw [if_neg (by decide), if_neg (by decide), if_neg (by decide), if_pos rfl]

/-- Introspecting `events` with its index on `name` reads the catalog of its answers. -/
theorem populateDatabaseSchema_eq_ok_events :
    Answered (eventsAnswer "name") ∧
      (∀ row ∈ (eventsAnswer "name" tablesQuery).result.rows,
        KeyColumnsListed (catalog (eventsAnswer "name") (fieldAt row 0))) ∧
      PostgreSQLClient.populateDatabaseSchema "" (eventsAnswer "name") (fun _ => "") ⟨∅⟩ ⟨[]⟩ =
        .ok (KitchenSync.PostgreSQLClient.populateDatabaseSchema
            (fun columns name => columns.findIdx (·.name == name)) ⟨[]⟩
            ((eventsAnswer "name" tablesQuery).result.rows.map fun row =>
              catalog (eventsAnswer "name") (fieldAt row 0)),
          KitchenSync.PostgreSQLClient.collectTypeMap ⟨∅⟩
            ((eventsAnswer "name" typesQuery).result.rows.map fun row =>
              PostgreSQLTypeMapCollector.typeRow (fieldAt row 0) (fieldAt row 1))) :=
  have hanswered : Answered (eventsAnswer "name") :=
    ⟨eventsAnswer_status _ _, eventsAnswer_status _ _, fun _ _ =>
      ⟨eventsAnswer_status _ _, eventsAnswer_status _ _, eventsAnswer_status _ _⟩⟩
  have hlisted : ∀ row ∈ (eventsAnswer "name" tablesQuery).result.rows,
      KeyColumnsListed (catalog (eventsAnswer "name") (fieldAt row 0)) := by
    obtain ⟨htables, hcolumns, hprimaryKey, hkeys⟩ := eventsAnswer_rows "name"
    rw [htables]
    rintro row hrow
    rw [List.mem_singleton.mp hrow]
    show KeyColumnsListed (catalog (eventsAnswer "name") "events")
    rw [catalog, hcolumns, hprimaryKey, hkeys]
    decide
  ⟨hanswered, hlisted, populateDatabaseSchema_eq_ok "" _ _ ⟨∅⟩ ⟨[]⟩ hanswered hlisted⟩

/-- With its index on the system column `oid`, which the column query leaves out, the key
lister's lookup throws. -/
theorem populateDatabaseSchema_eq_error_oid :
    PostgreSQLClient.populateDatabaseSchema "" (eventsAnswer "oid") ("no column " ++ ·) ⟨∅⟩
        ⟨[]⟩ = .error ("no column " ++ "oid") ∧
      ((∃ sql, (eventsAnswer "oid" sql).status ≠ .tuplesOk ∧
          "no column " ++ "oid" = PostgreSQLClient.sqlError "" sql) ∨
        ∃ row ∈ (eventsAnswer "oid" tablesQuery).result.rows, ∃ name,
          (name ∈ (catalog (eventsAnswer "oid") (fieldAt row 0)).primaryKeyRows ∨
            name ∈ (catalog (eventsAnswer "oid") (fieldAt row 0)).keyRows.map (·.attname)) ∧
          name ∉ (catalog (eventsAnswer "oid") (fieldAt row 0)).columnRows.map (·.attname) ∧
          "no column " ++ "oid" = "no column " ++ name) :=
  have h : PostgreSQLClient.populateDatabaseSchema "" (eventsAnswer "oid") ("no column " ++ ·)
      ⟨∅⟩ ⟨[]⟩ = .error ("no column " ++ "oid") := by
    obtain ⟨htables, hcolumns, hprimaryKey, hkeys⟩ := eventsAnswer_rows "oid"
    simp only [PostgreSQLClient.populateDatabaseSchema, PostgreSQLTableLister.apply,
      PostgreSQLClient.query_of_tuplesOk _ _ _ (eventsAnswer_status _ _), htables,
      List.foldlM_cons, List.foldlM_nil, show fieldAt [some "events"] 0 = "events" from rfl,
      hcolumns, hprimaryKey, hkeys]
    rfl
  ⟨h, populateDatabaseSchema_eq_error _ _ _ h⟩

end Connection

end KitchenSync
