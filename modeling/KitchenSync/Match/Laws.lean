import KitchenSync.Match.Acceptance

/-!
# Laws of the schema comparison

Whether `check_schema_match` accepts two databases does not depend on which one is the
from-side, and two comparisons that pass chain: acceptance is symmetric and transitive,
for every database and every filter, whatever the names. Narrowing the filters never
makes a passing comparison fail. Both follow from acceptance read as a pairing of the
sorted kept tables by a relation made of equalities.
-/

namespace KitchenSync

/-- What the comparison requires of two keys at one position of the sorted key lists. -/
def KeysAgree (fromKey toKey : Key) : Prop :=
  fromKey.name = toKey.name ∧ fromKey.unique = toKey.unique ∧ fromKey.columns = toKey.columns

/-- What the comparison requires of two tables it pairs: one name, the same column names in
order, the same primary key, and sorted keys that agree position by position. -/
def TablesAgree (fromTable toTable : Table) : Prop :=
  fromTable.name = toTable.name ∧
    fromTable.columns.map (·.name) = toTable.columns.map (·.name) ∧
    fromTable.primaryKeyColumns = toTable.primaryKeyColumns ∧
    List.Forall₂ KeysAgree (sortKeys fromTable.keys) (sortKeys toTable.keys)

/-! ### Pairings by a symmetric or transitive relation -/

section Forall₂

variable {α : Type} {R : α → α → Prop}

/-- A pairwise relation of a symmetric relation is symmetric. -/
private theorem forall₂_symm (hsymm : ∀ a b, R a b → R b a) {l l' : List α}
    (h : List.Forall₂ R l l') : List.Forall₂ R l' l :=
  (h.imp fun a b => hsymm a b).flip

/-- A pairwise relation of a transitive relation is transitive. -/
private theorem forall₂_trans (htrans : ∀ a b c, R a b → R b c → R a c) {l l' l'' : List α}
    (h : List.Forall₂ R l l') (h' : List.Forall₂ R l' l'') : List.Forall₂ R l l'' := by
  induction h generalizing l'' with
  | nil => exact h'
  | cons hr _ ih =>
    cases h' with
    | cons hr' hrest => exact .cons (htrans _ _ _ hr hr') (ih hrest)

end Forall₂

/-- Agreement of keys is symmetric. -/
theorem KeysAgree.symm {key other : Key} (h : KeysAgree key other) : KeysAgree other key :=
  ⟨h.1.symm, h.2.1.symm, h.2.2.symm⟩

/-- Agreement of keys is transitive. -/
theorem KeysAgree.trans {key other third : Key} (h : KeysAgree key other)
    (h' : KeysAgree other third) : KeysAgree key third :=
  ⟨h.1.trans h'.1, h.2.1.trans h'.2.1, h.2.2.trans h'.2.2⟩

/-- Agreement of tables is symmetric. -/
theorem TablesAgree.symm {table other : Table} (h : TablesAgree table other) :
    TablesAgree other table :=
  ⟨h.1.symm, h.2.1.symm, h.2.2.1.symm, forall₂_symm (fun a b => @KeysAgree.symm a b) h.2.2.2⟩

/-- Agreement of tables is transitive. -/
theorem TablesAgree.trans {table other third : Table} (h : TablesAgree table other)
    (h' : TablesAgree other third) : TablesAgree table third :=
  ⟨h.1.trans h'.1, h.2.1.trans h'.2.1, h.2.2.1.trans h'.2.2.1,
    forall₂_trans (fun a b c => @KeysAgree.trans a b c) h.2.2.2 h'.2.2.2⟩

/-! ### Acceptance as a pairing -/

/-- `check_schema_match` returns exactly when the sorted kept tables of the two sides pair
off by `TablesAgree`. No condition on the names: the walk pairs by position. -/
theorem checkSchemaMatch_eq_ok_iff_forall₂ (fromDatabase toDatabase : Database)
    (ignoreTables onlyTables : List String) :
    checkSchemaMatch fromDatabase toDatabase ignoreTables onlyTables = .ok () ↔
      List.Forall₂ TablesAgree
        ((sortTables fromDatabase.tables).filter (kept ignoreTables onlyTables))
        ((sortTables toDatabase.tables).filter (kept ignoreTables onlyTables)) := by
  rw [checkSchemaMatch, checkTablesMatch_eq, checkTablesMatchLoop_eq_ok_iff]
  simp only [checkTableMatch_eq_ok_iff, checkKeysMatch_eq_ok_iff]
  rfl

/-- Acceptance is symmetric and transitive: whether two databases match does not depend on
which is compared against which, and a database that matches a second one that matches a
third matches the third, under the same filters. -/
theorem checkSchemaMatch_symmetric_transitive (ignoreTables onlyTables : List String) :
    Symmetric (fun fromDatabase toDatabase : Database =>
      checkSchemaMatch fromDatabase toDatabase ignoreTables onlyTables = .ok ()) ∧
    Transitive (fun fromDatabase toDatabase : Database =>
      checkSchemaMatch fromDatabase toDatabase ignoreTables onlyTables = .ok ()) := by
  simp only [Symmetric, Transitive, checkSchemaMatch_eq_ok_iff_forall₂]
  exact ⟨fun _ _ h => forall₂_symm (fun a b => @TablesAgree.symm a b) h,
    fun _ _ _ h h' => forall₂_trans (fun a b c => @TablesAgree.trans a b c) h h'⟩

/-! ### Narrower filters -/

/-- The filters read only a table's name. -/
theorem kept_congr {ignoreTables onlyTables : List String} {table other : Table}
    (hname : table.name = other.name) :
    kept ignoreTables onlyTables table = kept ignoreTables onlyTables other := by
  simp [kept, Ignored, hname]

/-- Filters that keep fewer tables keep the kept tables of wider filters that they keep. -/
theorem filter_kept_of_narrower {ignoreTables onlyTables ignoreTables' onlyTables' : List String}
    (hnarrower : ∀ table, ¬Ignored ignoreTables' onlyTables' table →
      ¬Ignored ignoreTables onlyTables table) (tables : List Table) :
    tables.filter (kept ignoreTables' onlyTables') =
      (tables.filter (kept ignoreTables onlyTables)).filter (kept ignoreTables' onlyTables') := by
  rw [List.filter_filter]
  congr 1
  funext table
  by_cases hkept : Ignored ignoreTables' onlyTables' table
  · simp [kept, hkept]
  · simp [kept, hkept, hnarrower table hkept]

/-- Narrowing the filters keeps a match: when every table the new filters keep is kept by
the old ones (more tables ignored, or a shorter list of tables to compare), databases that
matched under the old filters match under the new ones. -/
theorem checkSchemaMatch_of_narrower_filters {fromDatabase toDatabase : Database}
    {ignoreTables onlyTables ignoreTables' onlyTables' : List String}
    (hnarrower : ∀ table, ¬Ignored ignoreTables' onlyTables' table →
      ¬Ignored ignoreTables onlyTables table)
    (hmatch : checkSchemaMatch fromDatabase toDatabase ignoreTables onlyTables = .ok ()) :
    checkSchemaMatch fromDatabase toDatabase ignoreTables' onlyTables' = .ok () := by
  rw [checkSchemaMatch_eq_ok_iff_forall₂] at hmatch ⊢
  rw [filter_kept_of_narrower hnarrower (sortTables fromDatabase.tables),
    filter_kept_of_narrower hnarrower (sortTables toDatabase.tables)]
  exact List.rel_filter (fun _ _ hagree => by simp only [kept_congr hagree.1]) hmatch

/-- Databases of tables `a` and `b`, listed in either order, match with no filter, and so
when only `a` is compared. -/
theorem checkSchemaMatch_of_narrower_filters_only_a :
    (∀ table, ¬Ignored [] ["a"] table → ¬Ignored [] [] table) ∧
      checkSchemaMatch ⟨[⟨"a", [], [], .noAvailableKey, []⟩, ⟨"b", [], [], .noAvailableKey, []⟩]⟩
        ⟨[⟨"b", [], [], .noAvailableKey, []⟩, ⟨"a", [], [], .noAvailableKey, []⟩]⟩ [] [] = .ok () ∧
      checkSchemaMatch ⟨[⟨"a", [], [], .noAvailableKey, []⟩, ⟨"b", [], [], .noAvailableKey, []⟩]⟩
        ⟨[⟨"b", [], [], .noAvailableKey, []⟩, ⟨"a", [], [], .noAvailableKey, []⟩]⟩ [] ["a"] =
        .ok () := by
  have hnarrower : ∀ table, ¬Ignored [] ["a"] table → ¬Ignored [] [] table := by
    simp [Ignored]
  exact ⟨hnarrower, rfl, checkSchemaMatch_of_narrower_filters hnarrower rfl⟩

end KitchenSync
