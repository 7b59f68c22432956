import KitchenSync.SchemaMatch

/-!
# The column walk

`check_columns_match` advances the from-cursor on every iteration and the
to-cursor on every match. It accepts exactly the column lists with one sequence
of names, and when the names in each list are distinct every message it throws
names a real difference between the lists.
-/

namespace KitchenSync

/-- The column walk reads only the name of the table it reports on. -/
theorem checkColumnsMatch_congr {table table' : Table} (hname : table.name = table'.name) :
    checkColumnsMatch table = checkColumnsMatch table' := by
  funext fromColumns toColumns
  induction fromColumns generalizing toColumns with
  | nil => cases toColumns <;> simp only [checkColumnsMatch, hname]
  | cons fromColumn fromColumns ih =>
    cases toColumns <;> simp only [checkColumnsMatch, checkColumnMatch_eq, hname, ih]

/-- The column walk succeeds exactly when both lists carry the same names in the
same order. -/
theorem checkColumnsMatch_eq_ok_iff (table : Table) (fromColumns toColumns : List Column) :
    checkColumnsMatch table fromColumns toColumns = .ok () ↔
      fromColumns.map (·.name) = toColumns.map (·.name) := by
  induction fromColumns generalizing toColumns with
  | nil => cases toColumns <;> simp [checkColumnsMatch]
  | cons fromColumn fromColumns ih =>
    cases toColumns with
    | nil => simp [checkColumnsMatch]
    | cons toColumn toColumns =>
      by_cases hname : toColumn.name = fromColumn.name
      · simp [checkColumnsMatch, hname, ih]
      · have hne : fromColumn.name ≠ toColumn.name := Ne.symm hname
        simp only [checkColumnsMatch, hname, if_false, List.map_cons, List.cons.injEq, hne,
          false_and, iff_false]
        split_ifs <;> simp

/-- A name that is found further along a list, but not at its head, is found in its tail. -/
private theorem mem_names_tail {c : Column} {cs : List Column} {name : String}
    (hfound : ∃ column ∈ c :: cs, column.name = name) (hhead : c.name ≠ name) :
    name ∈ cs.map (·.name) := by
  obtain ⟨column, hmem, rfl⟩ := hfound
  rcases List.mem_cons.mp hmem with rfl | hmem
  · exact absurd rfl hhead
  · exact List.mem_map_of_mem _ hmem

/-- When the names within each list are distinct, the column walk throws only one of
its three messages, and each names a real difference: a missing column is in the
from-list only, an extra column in the to-list only, and a misordered pair occurs in
both lists in opposite orders. -/
theorem checkColumnsMatch_reason {table : Table} {fromColumns toColumns : List Column}
    {e : Failure} (hfrom : (fromColumns.map (·.name)).Nodup) (hto : (toColumns.map (·.name)).Nodup)
    (h : checkColumnsMatch table fromColumns toColumns = .error e) :
    (∃ x ∈ fromColumns.map (·.name), x ∉ toColumns.map (·.name) ∧
      e = .schemaMismatch ("Missing column " ++ x ++ " on table " ++ table.name)) ∨
    (∃ y ∈ toColumns.map (·.name), y ∉ fromColumns.map (·.name) ∧
      e = .schemaMismatch ("Extra column " ++ y ++ " on table " ++ table.name)) ∨
    (∃ x y, [x, y].Sublist (fromColumns.map (·.name)) ∧ [y, x].Sublist (toColumns.map (·.name)) ∧
      e = .schemaMismatch ("Misordered column " ++ x ++ " on table " ++ table.name ++
        ", should have " ++ y ++ " first")) := by
  induction fromColumns generalizing toColumns with
  | nil =>
    cases toColumns with
    | nil => simp [checkColumnsMatch] at h
    | cons toColumn toColumns =>
      simp only [checkColumnsMatch, reportSchemaMismatch_eq, Except.error.injEq] at h
      exact .inr (.inl ⟨toColumn.name, List.mem_cons_self _ _, List.not_mem_nil _, h.symm⟩)
  | cons fromColumn fromColumns ih =>
    cases toColumns with
    | nil =>
      simp only [checkColumnsMatch, reportSchemaMismatch_eq, Except.error.injEq] at h
      exact .inl ⟨fromColumn.name, List.mem_cons_self _ _, List.not_mem_nil _, h.symm⟩
    | cons toColumn toColumns =>
      simp only [List.map_cons, List.nodup_cons] at hfrom hto
      by_cases hname : toColumn.name = fromColumn.name
      · simp only [checkColumnsMatch, hname, if_true, checkColumnMatch_eq, except_ok_bind] at h
        rcases ih hfrom.2 hto.2 h with
          ⟨x, hx, hnot, rfl⟩ | ⟨y, hy, hnot, rfl⟩ | ⟨x, y, hxy, hyx, rfl⟩
        · have hne : x ≠ toColumn.name := fun hx' => hfrom.1 (hname ▸ hx' ▸ hx)
          exact .inl ⟨x, List.mem_cons_of_mem _ hx,
            List.not_mem_cons_of_ne_of_not_mem hne hnot, rfl⟩
        · have hne : y ≠ fromColumn.name := fun hy' => hto.1 (hname ▸ hy' ▸ hy)
          exact .inr (.inl ⟨y, List.mem_cons_of_mem _ hy,
            List.not_mem_cons_of_ne_of_not_mem hne hnot, rfl⟩)
        · exact .inr (.inr ⟨x, y, hxy.cons _, hyx.cons _, rfl⟩)
      · simp only [checkColumnsMatch, hname, if_false] at h
        by_cases hmissing : ∃ column ∈ toColumn :: toColumns, column.name = fromColumn.name
        · by_cases hextra : ∃ column ∈ fromColumn :: fromColumns, column.name = toColumn.name
          · simp only [hmissing, hextra, not_true_eq_false, if_false, reportSchemaMismatch_eq,
              Except.error.injEq] at h
            exact .inr (.inr ⟨fromColumn.name, toColumn.name,
              (List.singleton_sublist.mpr (mem_names_tail hextra (Ne.symm hname))).cons₂ _,
              (List.singleton_sublist.mpr (mem_names_tail hmissing hname)).cons₂ _, h.symm⟩)
          · simp only [hmissing, hextra, not_true_eq_false, not_false_eq_true, if_false, if_true,
              reportSchemaMismatch_eq, Except.error.injEq] at h
            exact .inr (.inl ⟨toColumn.name, List.mem_cons_self _ _,
              fun hmem => hextra (List.mem_map.mp hmem), h.symm⟩)
        · simp only [hmissing, not_false_eq_true, if_true, reportSchemaMismatch_eq,
            Except.error.injEq] at h
          exact .inl ⟨fromColumn.name, List.mem_cons_self _ _,
            fun hmem => hmissing (List.mem_map.mp hmem), h.symm⟩

end KitchenSync
