import KitchenSync.Match.Columns

/-!
# The table walk

`check_tables_match` skips the tables the filters leave out on both sides while it
walks. The walk is the same as a walk without filters over the kept tables alone,
and that walk succeeds exactly when the two lists pair off table by table, each
pair with one name and accepted by `check_table_match`.
-/

namespace KitchenSync

variable {ignoreTables onlyTables : List String}

/-- The tables the filters keep, as a test for `List.filter`. -/
def kept (ignoreTables onlyTables : List String) (table : Table) : Bool :=
  !decide (Ignored ignoreTables onlyTables table)

/-- A table is kept exactly when it is not ignored. -/
@[simp] theorem kept_eq_true (table : Table) :
    kept ignoreTables onlyTables table = true ↔ ¬Ignored ignoreTables onlyTables table := by
  simp [kept]

/-- Without filters no table is skipped. -/
@[simp] theorem ignored_nil (table : Table) : ¬Ignored [] [] table := by
  simp [Ignored]

/-- Without filters `skip_ignored_tables` stays where it is. -/
@[simp] theorem skipIgnoredTables_nil (tables : List Table) :
    skipIgnoredTables [] [] tables = tables := by
  cases tables <;> simp [skipIgnoredTables, List.dropWhile_cons]

/-- Skipping ignored tables does not change which tables are kept. -/
theorem filter_skipIgnoredTables (tables : List Table) :
    (skipIgnoredTables ignoreTables onlyTables tables).filter (kept ignoreTables onlyTables) =
      tables.filter (kept ignoreTables onlyTables) := by
  induction tables with
  | nil => rfl
  | cons table tables ih =>
    by_cases hignored : Ignored ignoreTables onlyTables table
    · simpa [skipIgnoredTables, List.dropWhile_cons, hignored] using ih
    · simp [skipIgnoredTables, List.dropWhile_cons, hignored]

/-- `skip_ignored_tables` stops at a kept table. -/
theorem not_ignored_of_skipIgnoredTables {tables rest : List Table} {table : Table}
    (h : skipIgnoredTables ignoreTables onlyTables tables = table :: rest) :
    ¬Ignored ignoreTables onlyTables table := by
  induction tables with
  | nil => simp [skipIgnoredTables] at h
  | cons first tables ih =>
    by_cases hignored : Ignored ignoreTables onlyTables first
    · exact ih (by simpa [skipIgnoredTables, List.dropWhile_cons, hignored] using h)
    · simp only [skipIgnoredTables, List.dropWhile_cons, hignored, decide_False,
        Bool.false_eq_true, if_false, List.cons.injEq] at h
      exact h.1 ▸ hignored

/-- The filtered walk is the unfiltered walk over the kept tables of both sides. -/
theorem checkTablesMatchLoop_skip (fromTables toTables : List Table) :
    checkTablesMatchLoop ignoreTables onlyTables fromTables
        (skipIgnoredTables ignoreTables onlyTables toTables) =
      checkTablesMatchLoop [] [] (fromTables.filter (kept ignoreTables onlyTables))
        (toTables.filter (kept ignoreTables onlyTables)) := by
  induction fromTables generalizing toTables with
  | nil =>
    rw [← filter_skipIgnoredTables toTables]
    cases hskip : skipIgnoredTables ignoreTables onlyTables toTables with
    | nil => rfl
    | cons toTable toRest =>
      simp [checkTablesMatchLoop, not_ignored_of_skipIgnoredTables hskip]
  | cons fromTable fromTables ih =>
    by_cases hignored : Ignored ignoreTables onlyTables fromTable
    · simp [checkTablesMatchLoop, hignored, ih]
    · rw [← filter_skipIgnoredTables toTables]
      cases hskip : skipIgnoredTables ignoreTables onlyTables toTables with
      | nil => simp [checkTablesMatchLoop, hignored]
      | cons toTable toRest =>
        simp [checkTablesMatchLoop, hignored, not_ignored_of_skipIgnoredTables hskip, ih]


/-- `check_tables_match` is the unfiltered walk over the sorted kept tables. -/
theorem checkTablesMatch_eq (fromTables toTables : List Table) :
    checkTablesMatch fromTables toTables ignoreTables onlyTables =
      checkTablesMatchLoop [] [] ((sortTables fromTables).filter (kept ignoreTables onlyTables))
        ((sortTables toTables).filter (kept ignoreTables onlyTables)) :=
  checkTablesMatchLoop_skip _ _

/-- Neither name precedes the other only when the names are equal. -/
theorem name_eq_of_not_lt {table other : Table} (h : ¬table.name.data < other.name.data)
    (h' : ¬other.name.data < table.name.data) : table.name = other.name :=
  String.ext (le_antisymm (not_lt.mp h') (not_lt.mp h))

/-- The unfiltered walk succeeds exactly when the lists pair off, each pair with one
name and accepted by `check_table_match`. -/
theorem checkTablesMatchLoop_eq_ok_iff (fromTables toTables : List Table) :
    checkTablesMatchLoop [] [] fromTables toTables = .ok () ↔
      List.Forall₂ (fun fromTable toTable =>
        fromTable.name = toTable.name ∧ checkTableMatch fromTable toTable = .ok ())
        fromTables toTables := by
  induction fromTables generalizing toTables with
  | nil => cases toTables <;> simp [checkTablesMatchLoop]
  | cons fromTable fromTables ih =>
    cases toTables with
    | nil => simp [checkTablesMatchLoop]
    | cons toTable toTables =>
      by_cases hlt : fromTable.name.data < toTable.name.data
      · have hne : fromTable.name ≠ toTable.name := fun h => lt_irrefl _ (h ▸ hlt)
        simp [checkTablesMatchLoop, hlt, hne]
      · by_cases hgt : toTable.name.data < fromTable.name.data
        · have hne : fromTable.name ≠ toTable.name := fun h => lt_irrefl _ (h ▸ hgt)
          simp [checkTablesMatchLoop, hlt, hgt, hne]
        · simp [checkTablesMatchLoop, hlt, hgt, name_eq_of_not_lt hlt hgt, ih, and_assoc]

end KitchenSync
