import KitchenSync.Match.Acceptance

/-!
# What the schema comparison reports

Every `schema_mismatch` thrown by `check_schema_match` names a real discrepancy
between the two databases, once table names are distinct within each database and
column names within each table. The argument follows the walk: tables passed over
agree by name, and a sorted list whose head comes after a name holds no table of
that name.
-/

namespace KitchenSync

variable {ignoreTables onlyTables : List String}

/-- Names in strictly increasing order are distinct. -/
theorem name_ne_of_lt {table other : Table} (h : table.name.data < other.name.data) :
    table.name ≠ other.name := fun heq => lt_irrefl _ (heq ▸ h)

/-- No table after the head of a strictly sorted list shares a name with anything that
precedes the head. -/
theorem not_mem_of_lt_head {table : Table} {tables : List Table} {name : String}
    (hsorted : (table :: tables).Sorted fun table other => table.name.data < other.name.data)
    (hlt : name.data < table.name.data) : name ∉ (table :: tables).map (·.name) := by
  simp only [List.map_cons, List.mem_cons, List.mem_map, not_or, not_exists, not_and]
  refine ⟨fun heq => lt_irrefl _ (heq ▸ hlt), fun other hother heq => ?_⟩
  have hlt' := hlt.trans (List.rel_of_sorted_cons hsorted other hother)
  rw [heq] at hlt'
  exact lt_irrefl _ hlt'

/-- The unfiltered walk over strictly sorted lists throws a missing table that the
to-list lacks, an extra table that the from-list lacks, or what `check_table_match`
throws for a pair of tables with one name. -/
theorem checkTablesMatchLoop_reason {fromTables toTables : List Table} {e : Failure}
    (hfrom : fromTables.Sorted fun table other => table.name.data < other.name.data)
    (hto : toTables.Sorted fun table other => table.name.data < other.name.data)
    (h : checkTablesMatchLoop [] [] fromTables toTables = .error e) :
    (∃ fromTable ∈ fromTables, fromTable.name ∉ toTables.map (·.name) ∧
      e = .schemaMismatch ("Missing table " ++ fromTable.name)) ∨
    (∃ toTable ∈ toTables, toTable.name ∉ fromTables.map (·.name) ∧
      e = .schemaMismatch ("Extra table " ++ toTable.name)) ∨
    (∃ fromTable ∈ fromTables, ∃ toTable ∈ toTables, fromTable.name = toTable.name ∧
      checkTableMatch fromTable toTable = .error e) := by
  induction fromTables generalizing toTables with
  | nil =>
    cases toTables with
    | nil => simp [checkTablesMatchLoop] at h
    | cons toTable toTables =>
      simp only [checkTablesMatchLoop, reportSchemaMismatch_eq, Except.error.injEq] at h
      exact .inr (.inl ⟨toTable, List.mem_cons_self _ _, by simp, h.symm⟩)
  | cons fromTable fromTables ih =>
    cases toTables with
    | nil =>
      simp only [checkTablesMatchLoop, ignored_nil, if_false, reportSchemaMismatch_eq,
        Except.error.injEq] at h
      exact .inl ⟨fromTable, List.mem_cons_self _ _, by simp, h.symm⟩
    | cons toTable toTables =>
      by_cases hlt : fromTable.name.data < toTable.name.data
      · simp only [checkTablesMatchLoop, ignored_nil, if_false, hlt, if_true,
          reportSchemaMismatch_eq, Except.error.injEq] at h
        exact .inl ⟨fromTable, List.mem_cons_self _ _, not_mem_of_lt_head hto hlt, h.symm⟩
      by_cases hgt : toTable.name.data < fromTable.name.data
      · simp only [checkTablesMatchLoop, ignored_nil, if_false, hlt, hgt, if_true,
          reportSchemaMismatch_eq, Except.error.injEq] at h
        exact .inr (.inl ⟨toTable, List.mem_cons_self _ _, not_mem_of_lt_head hfrom hgt, h.symm⟩)
      have hname := name_eq_of_not_lt hlt hgt
      simp only [checkTablesMatchLoop, ignored_nil, if_false, hlt, hgt, skipIgnoredTables_nil,
        except_bind_eq_error] at h
      rcases h with h | ⟨-, h⟩
      · exact .inr (.inr ⟨fromTable, List.mem_cons_self _ _, toTable, List.mem_cons_self _ _,
          hname, h⟩)
      rcases ih hfrom.of_cons hto.of_cons h with
        ⟨table, hmem, hnot, rfl⟩ | ⟨table, hmem, hnot, rfl⟩ |
          ⟨table, hmem, other, hother, hsame, hcheck⟩
      · have hne : table.name ≠ toTable.name := by
          rw [← hname]
          exact (name_ne_of_lt (List.rel_of_sorted_cons hfrom table hmem)).symm
        exact .inl ⟨table, List.mem_cons_of_mem _ hmem,
          List.not_mem_cons_of_ne_of_not_mem hne hnot, rfl⟩
      · have hne : table.name ≠ fromTable.name := by
          rw [hname]
          exact (name_ne_of_lt (List.rel_of_sorted_cons hto table hmem)).symm
        exact .inr (.inl ⟨table, List.mem_cons_of_mem _ hmem,
          List.not_mem_cons_of_ne_of_not_mem hne hnot, rfl⟩)
      · exact .inr (.inr ⟨table, List.mem_cons_of_mem _ hmem, other,
          List.mem_cons_of_mem _ hother, hsame, hcheck⟩)

/-- A pair of tables the walk compares: one name, kept on both sides. -/
structure KeptPair (fromDatabase toDatabase : Database) (ignoreTables onlyTables : List String)
    (fromTable toTable : Table) : Prop where
  fromMem : fromTable ∈ fromDatabase.tables
  toMem : toTable ∈ toDatabase.tables
  fromKept : ¬Ignored ignoreTables onlyTables fromTable
  toKept : ¬Ignored ignoreTables onlyTables toTable
  sameName : fromTable.name = toTable.name

/-- The reasons that name a real discrepancy between two databases. A missing or extra
table is kept on one side only; a missing, extra or misordered column belongs to a pair
of kept tables whose columns differ so; the primary-key and key messages come from the
checks of a kept pair whose column names agree. -/
inductive Discrepancy (fromDatabase toDatabase : Database) (ignoreTables onlyTables : List String) :
    String → Prop
  | missingTable (fromTable : Table) (hmem : fromTable ∈ fromDatabase.tables)
      (hkept : ¬Ignored ignoreTables onlyTables fromTable)
      (habsent : ∀ toTable ∈ toDatabase.tables, ¬Ignored ignoreTables onlyTables toTable →
        toTable.name ≠ fromTable.name) :
      Discrepancy fromDatabase toDatabase ignoreTables onlyTables
        ("Missing table " ++ fromTable.name)
  | extraTable (toTable : Table) (hmem : toTable ∈ toDatabase.tables)
      (hkept : ¬Ignored ignoreTables onlyTables toTable)
      (habsent : ∀ fromTable ∈ fromDatabase.tables, ¬Ignored ignoreTables onlyTables fromTable →
        fromTable.name ≠ toTable.name) :
      Discrepancy fromDatabase toDatabase ignoreTables onlyTables ("Extra table " ++ toTable.name)
  | missingColumn (fromTable toTable : Table) (x : String)
      (hpair : KeptPair fromDatabase toDatabase ignoreTables onlyTables fromTable toTable)
      (hfrom : x ∈ fromTable.columns.map (·.name)) (hto : x ∉ toTable.columns.map (·.name)) :
      Discrepancy fromDatabase toDatabase ignoreTables onlyTables
        ("Missing column " ++ x ++ " on table " ++ fromTable.name)
  | extraColumn (fromTable toTable : Table) (y : String)
      (hpair : KeptPair fromDatabase toDatabase ignoreTables onlyTables fromTable toTable)
      (hto : y ∈ toTable.columns.map (·.name)) (hfrom : y ∉ fromTable.columns.map (·.name)) :
      Discrepancy fromDatabase toDatabase ignoreTables onlyTables
        ("Extra column " ++ y ++ " on table " ++ fromTable.name)
  | misorderedColumn (fromTable toTable : Table) (x y : String)
      (hpair : KeptPair fromDatabase toDatabase ignoreTables onlyTables fromTable toTable)
      (hfrom : [x, y].Sublist (fromTable.columns.map (·.name)))
      (hto : [y, x].Sublist (toTable.columns.map (·.name))) :
      Discrepancy fromDatabase toDatabase ignoreTables onlyTables
        ("Misordered column " ++ x ++ " on table " ++ fromTable.name ++ ", should have " ++ y ++
          " first")
  | keys (fromTable toTable : Table) (reason : String)
      (hpair : KeptPair fromDatabase toDatabase ignoreTables onlyTables fromTable toTable)
      (hcolumns : fromTable.columns.map (·.name) = toTable.columns.map (·.name))
      (hkeys : (do
        checkPrimaryKeyMatches fromTable fromTable.primaryKeyColumns toTable.primaryKeyColumns
        checkKeysMatch fromTable fromTable.keys toTable.keys) = .error (.schemaMismatch reason)) :
      Discrepancy fromDatabase toDatabase ignoreTables onlyTables reason

/-- **Accurate reasons.** With distinct table names in each database and distinct column
names in each table, every reason `check_schema_match` throws names a real discrepancy. -/
theorem checkSchemaMatch_reason {fromDatabase toDatabase : Database}
    (hfromTables : fromDatabase.TableNamesDistinct) (htoTables : toDatabase.TableNamesDistinct)
    (hfromColumns : fromDatabase.ColumnNamesDistinct) (htoColumns : toDatabase.ColumnNamesDistinct)
    {reason : String}
    (h : checkSchemaMatch fromDatabase toDatabase ignoreTables onlyTables =
      .error (.schemaMismatch reason)) :
    Discrepancy fromDatabase toDatabase ignoreTables onlyTables reason := by
  rw [checkSchemaMatch, checkTablesMatch_eq] at h
  rcases checkTablesMatchLoop_reason (sortTables_filter_sorted hfromTables)
      (sortTables_filter_sorted htoTables) h with
    ⟨fromTable, hmem, hnot, heq⟩ | ⟨toTable, hmem, hnot, heq⟩ |
      ⟨fromTable, hfromMem, toTable, htoMem, hname, hcheck⟩
  · obtain ⟨hmem, hkept⟩ := mem_sortTables_filter.mp hmem
    cases heq
    exact .missingTable fromTable hmem hkept fun toTable htoTable htoKept hname =>
      hnot (List.mem_map.mpr ⟨toTable, mem_sortTables_filter.mpr ⟨htoTable, htoKept⟩, hname⟩)
  · obtain ⟨hmem, hkept⟩ := mem_sortTables_filter.mp hmem
    cases heq
    exact .extraTable toTable hmem hkept fun fromTable hfromTable hfromKept hname =>
      hnot (List.mem_map.mpr ⟨fromTable, mem_sortTables_filter.mpr ⟨hfromTable, hfromKept⟩, hname⟩)
  · obtain ⟨hfromMem, hfromKept⟩ := mem_sortTables_filter.mp hfromMem
    obtain ⟨htoMem, htoKept⟩ := mem_sortTables_filter.mp htoMem
    have hpair : KeptPair fromDatabase toDatabase ignoreTables onlyTables fromTable toTable :=
      ⟨hfromMem, htoMem, hfromKept, htoKept, hname⟩
    simp only [checkTableMatch, except_bind_eq_error] at hcheck
    rcases hcheck with hcolumns | ⟨hcolumns, hkeys⟩
    · rcases checkColumnsMatch_reason (hfromColumns _ hfromMem) (htoColumns _ htoMem) hcolumns with
        ⟨x, hx, hnot, heq⟩ | ⟨y, hy, hnot, heq⟩ | ⟨x, y, hxy, hyx, heq⟩ <;> cases heq
      · exact .missingColumn fromTable toTable x hpair hx hnot
      · exact .extraColumn fromTable toTable y hpair hy hnot
      · exact .misorderedColumn fromTable toTable x y hpair hxy hyx
    · exact .keys fromTable toTable reason hpair ((checkColumnsMatch_eq_ok_iff _ _ _).mp hcolumns)
        (except_bind_eq_error.mpr hkeys)

/-- The reason for a database of tables `a` and `b` against one of `a` alone: table `b`
is missing, and it is kept on the from-side only. -/
theorem checkSchemaMatch_reason_missing_table :
    Database.TableNamesDistinct
        ⟨[⟨"a", [], [], .noAvailableKey, []⟩, ⟨"b", [], [], .noAvailableKey, []⟩]⟩ ∧
      Database.TableNamesDistinct ⟨[⟨"a", [], [], .noAvailableKey, []⟩]⟩ ∧
      Database.ColumnNamesDistinct
        ⟨[⟨"a", [], [], .noAvailableKey, []⟩, ⟨"b", [], [], .noAvailableKey, []⟩]⟩ ∧
      Database.ColumnNamesDistinct ⟨[⟨"a", [], [], .noAvailableKey, []⟩]⟩ ∧
      checkSchemaMatch ⟨[⟨"a", [], [], .noAvailableKey, []⟩, ⟨"b", [], [], .noAvailableKey, []⟩]⟩
        ⟨[⟨"a", [], [], .noAvailableKey, []⟩]⟩ [] [] = .error (.schemaMismatch "Missing table b") ∧
      Discrepancy ⟨[⟨"a", [], [], .noAvailableKey, []⟩, ⟨"b", [], [], .noAvailableKey, []⟩]⟩
        ⟨[⟨"a", [], [], .noAvailableKey, []⟩]⟩ [] [] "Missing table b" :=
  ⟨by decide, by decide, by decide, by decide, rfl,
    checkSchemaMatch_reason (by decide) (by decide) (by decide) (by decide) rfl⟩

end KitchenSync
