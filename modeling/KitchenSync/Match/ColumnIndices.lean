import KitchenSync.Match.Keys
import KitchenSync.Match.Tables
import KitchenSync.Sorting

/-!
# Column indices in messages

The primary-key and key messages render index lists through `columns_list` against
the from-side table's columns, the to-side lists included. The reads stay in range:
`check_table_match` checks the columns first, and a passing column check leaves both
tables with the same number of columns.
-/

namespace KitchenSync

/-- `columns_list` fails exactly when some index is past the end of the columns, and then
with the out-of-range failure. -/
theorem columnsList_eq_error_iff {columns : List Column} {indices : List ℕ} {e : Failure} :
    columnsList columns indices = .error e ↔
      e = .columnIndexOutOfRange ∧ ∃ index ∈ indices, columns.length ≤ index := by
  induction indices generalizing e with
  | nil => simp [columnsList]
  | cons index indices ih =>
    by_cases hindex : index < columns.length
    · have hrest : ∀ g : String → String,
          (columnsList columns indices >>= fun rest => Except.ok (g rest)) = .error e ↔
            columnsList columns indices = .error e := fun g => by
        cases columnsList columns indices <;> simp
      simp only [columnsList, List.get?_eq_getElem?, List.getElem?_eq_getElem hindex,
        except_pure, except_ok_bind, hrest, ih, List.mem_cons, exists_eq_or_imp,
        not_le.mpr hindex, false_or]
    · simp only [columnsList, List.get?_eq_getElem?, List.getElem?_eq_none (not_lt.mp hindex),
        except_throw, except_error_bind, Except.error.injEq, eq_comm]
      exact ⟨fun h => ⟨h, index, List.mem_cons_self _ _, not_lt.mp hindex⟩, And.left⟩

/-- With every index in range, `columns_list` does not fail. -/
theorem columnsList_ne_error {columns : List Column} {indices : List ℕ}
    (h : ∀ index ∈ indices, index < columns.length) (e : Failure) :
    columnsList columns indices ≠ .error e := fun herror => by
  obtain ⟨-, index, hmem, hle⟩ := columnsList_eq_error_iff.mp herror
  exact absurd (h index hmem) (not_lt.mpr hle)

/-- With every index in range, `columns_list` renders the list. -/
theorem columnsList_eq_ok {columns : List Column} {indices : List ℕ}
    (h : ∀ index ∈ indices, index < columns.length) :
    ∃ text, columnsList columns indices = .ok text := by
  cases hlist : columnsList columns indices with
  | error e => exact absurd hlist (columnsList_ne_error h e)
  | ok text => exact ⟨text, rfl⟩

/-- The column walk reads no column through an index. -/
theorem checkColumnsMatch_ne_columnIndexOutOfRange (table : Table)
    (fromColumns toColumns : List Column) :
    checkColumnsMatch table fromColumns toColumns ≠ .error .columnIndexOutOfRange := by
  induction fromColumns generalizing toColumns with
  | nil => cases toColumns <;> simp [checkColumnsMatch]
  | cons fromColumn fromColumns ih =>
    cases toColumns with
    | nil => simp [checkColumnsMatch]
    | cons toColumn toColumns =>
      by_cases hname : toColumn.name = fromColumn.name
      · simp [checkColumnsMatch, hname, ih]
      · simp only [checkColumnsMatch, hname, if_false]
        split_ifs <;> simp

/-- The primary-key check reads only in range when both index lists are in range of the
table it reports on. -/
theorem checkPrimaryKeyMatches_ne_columnIndexOutOfRange {table : Table}
    {fromColumns toColumns : List ℕ}
    (hfrom : ∀ index ∈ fromColumns, index < table.columns.length)
    (hto : ∀ index ∈ toColumns, index < table.columns.length) :
    checkPrimaryKeyMatches table fromColumns toColumns ≠ .error .columnIndexOutOfRange := by
  obtain ⟨fromText, hfromText⟩ := columnsList_eq_ok hfrom
  obtain ⟨toText, htoText⟩ := columnsList_eq_ok hto
  unfold checkPrimaryKeyMatches
  split_ifs <;> simp [hfromText, htoText]

/-- The key check reads only in range when both keys' columns are in range of the table it
reports on. -/
theorem checkKeyMatch_ne_columnIndexOutOfRange {table : Table} {fromKey toKey : Key}
    (hfrom : ∀ index ∈ fromKey.columns, index < table.columns.length)
    (hto : ∀ index ∈ toKey.columns, index < table.columns.length) :
    checkKeyMatch table fromKey toKey ≠ .error .columnIndexOutOfRange := by
  obtain ⟨fromText, hfromText⟩ := columnsList_eq_ok hfrom
  obtain ⟨toText, htoText⟩ := columnsList_eq_ok hto
  unfold checkKeyMatch
  split_ifs <;> simp [hfromText, htoText]

/-- The key walk reads only in range when every key on both sides is in range of the
table it reports on. -/
theorem checkKeysMatchLoop_ne_columnIndexOutOfRange {table : Table} {fromKeys toKeys : List Key}
    (hfrom : ∀ key ∈ fromKeys, ∀ index ∈ key.columns, index < table.columns.length)
    (hto : ∀ key ∈ toKeys, ∀ index ∈ key.columns, index < table.columns.length) :
    checkKeysMatchLoop table fromKeys toKeys ≠ .error .columnIndexOutOfRange := by
  induction fromKeys generalizing toKeys with
  | nil => cases toKeys <;> simp [checkKeysMatchLoop]
  | cons fromKey fromKeys ih =>
    cases toKeys with
    | nil => simp [checkKeysMatchLoop]
    | cons toKey toKeys =>
      simp only [List.forall_mem_cons] at hfrom hto
      simp only [checkKeysMatchLoop]
      split_ifs
      · simp
      · simp
      · simp only [ne_eq, except_bind_eq_error, not_or, not_and]
        exact ⟨checkKeyMatch_ne_columnIndexOutOfRange hfrom.1 hto.1,
          fun _ => ih hfrom.2 hto.2⟩

/-- A pair of tables whose indices are in range is compared without an out-of-range read:
the to-side indices are rendered against the from-side columns only after the column
check has made the two column lists equally long. -/
theorem checkTableMatch_ne_columnIndexOutOfRange {fromTable toTable : Table}
    (hfrom : fromTable.IndicesInRange) (hto : toTable.IndicesInRange) :
    checkTableMatch fromTable toTable ≠ .error .columnIndexOutOfRange := by
  simp only [checkTableMatch, ne_eq, except_bind_eq_error, not_or, not_and]
  refine ⟨checkColumnsMatch_ne_columnIndexOutOfRange _ _ _, fun hcolumns => ?_⟩
  have hlength : toTable.columns.length = fromTable.columns.length := by
    simpa using (congrArg List.length ((checkColumnsMatch_eq_ok_iff _ _ _).mp hcolumns)).symm
  have hkeys : ∀ {table : Table}, table.IndicesInRange →
      table.columns.length = fromTable.columns.length →
      ∀ key ∈ sortKeys table.keys, ∀ index ∈ key.columns, index < fromTable.columns.length :=
    fun htable hlen key hkey index hindex =>
      hlen ▸ htable.2 key ((sortKeys_perm _).mem_iff.mp hkey) index hindex
  exact ⟨checkPrimaryKeyMatches_ne_columnIndexOutOfRange hfrom.1 (hlength ▸ hto.1),
    fun _ => checkKeysMatchLoop_ne_columnIndexOutOfRange (hkeys hfrom rfl) (hkeys hto hlength)⟩

/-- The unfiltered walk over tables with indices in range makes no out-of-range read. -/
theorem checkTablesMatchLoop_ne_columnIndexOutOfRange {fromTables toTables : List Table}
    (hfrom : ∀ table ∈ fromTables, table.IndicesInRange)
    (hto : ∀ table ∈ toTables, table.IndicesInRange) :
    checkTablesMatchLoop [] [] fromTables toTables ≠ .error .columnIndexOutOfRange := by
  induction fromTables generalizing toTables with
  | nil => cases toTables <;> simp [checkTablesMatchLoop]
  | cons fromTable fromTables ih =>
    cases toTables with
    | nil => simp [checkTablesMatchLoop]
    | cons toTable toTables =>
      simp only [List.forall_mem_cons] at hfrom hto
      simp only [checkTablesMatchLoop, ignored_nil, if_false, skipIgnoredTables_nil]
      split_ifs
      · simp
      · simp
      · simp only [ne_eq, except_bind_eq_error, not_or, not_and]
        exact ⟨checkTableMatch_ne_columnIndexOutOfRange hfrom.1 hto.1, fun _ => ih hfrom.2 hto.2⟩

/-- **In-range reads.** When every primary-key and key index of both databases is a
position of its own table's columns, every index list `check_schema_match` renders with
`columns_list` against the from-side table's columns is in range: the comparison never
ends in an out-of-range read. -/
theorem checkSchemaMatch_ne_columnIndexOutOfRange {fromDatabase toDatabase : Database}
    {ignoreTables onlyTables : List String}
    (hfrom : fromDatabase.IndicesInRange) (hto : toDatabase.IndicesInRange) :
    checkSchemaMatch fromDatabase toDatabase ignoreTables onlyTables ≠
      .error .columnIndexOutOfRange := by
  have hmem : ∀ {database : Database}, database.IndicesInRange →
      ∀ table ∈ (sortTables database.tables).filter (kept ignoreTables onlyTables),
        table.IndicesInRange := fun hdatabase table htable =>
    hdatabase table ((sortTables_perm _).mem_iff.mp (List.mem_filter.mp htable).1)
  rw [checkSchemaMatch, checkTablesMatch_eq]
  exact checkTablesMatchLoop_ne_columnIndexOutOfRange (hmem hfrom) (hmem hto)

/-- In-range reads at two one-column tables whose primary keys differ: the mismatch
message renders both primary keys against the from-side column. -/
theorem checkSchemaMatch_ne_columnIndexOutOfRange_primary_key :
    Database.IndicesInRange
        ⟨[⟨"t", [⟨"x", false, .noDefault, "", ColumnTypes.sint, 4, 0, 0, "", "", ""⟩], [0],
          .explicitPrimaryKey, []⟩]⟩ ∧
      Database.IndicesInRange
        ⟨[⟨"t", [⟨"x", false, .noDefault, "", ColumnTypes.sint, 4, 0, 0, "", "", ""⟩], [],
          .noAvailableKey, []⟩]⟩ ∧
      checkSchemaMatch
          ⟨[⟨"t", [⟨"x", false, .noDefault, "", ColumnTypes.sint, 4, 0, 0, "", "", ""⟩], [0],
            .explicitPrimaryKey, []⟩]⟩
          ⟨[⟨"t", [⟨"x", false, .noDefault, "", ColumnTypes.sint, 4, 0, 0, "", "", ""⟩], [],
            .noAvailableKey, []⟩]⟩ [] [] ≠
        .error .columnIndexOutOfRange :=
  ⟨by decide, by decide, checkSchemaMatch_ne_columnIndexOutOfRange (by decide) (by decide)⟩

end KitchenSync
