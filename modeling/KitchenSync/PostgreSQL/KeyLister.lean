import KitchenSync.Schema

/-!
# Reading keys from the PostgreSQL catalog

`PostgreSQLKeyLister` receives one row per indexed column, ordered by index name, and
builds the table's keys: a row opens a new key unless it continues the key listed
last, and adds its column to the last key. When the rows of each index are adjacent,
the fold yields one key per index, in order of first appearance, with every column of
the index in row order.
-/

namespace KitchenSync

/-- A row of the key query: `indexname`, `indisunique` and `attname`. -/
structure KeyRow where
  indexname : String
  indisunique : String
  attname : String
  deriving DecidableEq, Repr

namespace PostgreSQLKeyLister

/-- `Key(key_name, unique)`: the source passes the `bool` it read as the key's
uniqueness. -/
def newKey (keyName : String) (unique : Bool) : Key :=
  ⟨keyName, if unique then .uniqueKey else .standardKey, []⟩

/-- `table.keys.back().columns.push_back(column_index)`. -/
def pushColumnToBack (keys : List Key) (columnIndex : ℕ) : List Key :=
  match keys.getLast? with
  | some back => keys.dropLast ++ [{ back with columns := back.columns ++ [columnIndex] }]
  | none => keys

/-- `operator()`, over the keys of the table. `index_of_column` is a parameter: it reads
the table's columns, which the key lister leaves alone. -/
def apply (indexOfColumn : String → ℕ) (keys : List Key) (row : KeyRow) : List Key :=
  let keyName := row.indexname
  let unique := decide (row.indisunique = "t")
  let columnIndex := indexOfColumn row.attname
  let keys :=
    if keys = [] ∨ keys.getLast?.map (·.name) ≠ some keyName then keys ++ [newKey keyName unique]
    else keys
  pushColumnToBack keys columnIndex

/-- The keys the lister leaves on a table that had none, after the query fed it `rows`. -/
def listKeys (indexOfColumn : String → ℕ) (rows : List KeyRow) : List Key :=
  rows.foldl (apply indexOfColumn) []

/-- Pushing onto a key list that ends in `back` extends `back`. -/
@[simp] theorem pushColumnToBack_append (keys : List Key) (back : Key) (columnIndex : ℕ) :
    pushColumnToBack (keys ++ [back]) columnIndex =
      keys ++ [{ back with columns := back.columns ++ [columnIndex] }] := by
  simp [pushColumnToBack]

/-- Pushing a column keeps the names of the keys. -/
@[simp] theorem map_name_pushColumnToBack (keys : List Key) (columnIndex : ℕ) :
    (pushColumnToBack keys columnIndex).map (·.name) = keys.map (·.name) := by
  rcases keys.eq_nil_or_concat with rfl | ⟨keys, back, rfl⟩
  · rfl
  · simp

/-- The lister over one more row is its step on the keys read from the rows before. -/
theorem listKeys_append_singleton (indexOfColumn : String → ℕ) (rows : List KeyRow)
    (row : KeyRow) :
    listKeys indexOfColumn (rows ++ [row]) =
      apply indexOfColumn (listKeys indexOfColumn rows) row := by
  simp [listKeys, List.foldl_append]

end PostgreSQLKeyLister

/-! The keys the rows describe, stated without the fold. -/

/-- The index names of the rows, each once, in order of first appearance. -/
def indexNames (rows : List KeyRow) : List String :=
  rows.foldl (fun names row => if row.indexname ∈ names then names else names ++ [row.indexname]) []

/-- The key the rows describe for one index name: unique when its first row says so, with
the columns of all its rows in row order. -/
def describedKey (indexOfColumn : String → ℕ) (rows : List KeyRow) (keyName : String) : Key :=
  ⟨keyName,
    if (rows.find? (·.indexname = keyName)).map (·.indisunique) = some "t" then .uniqueKey
    else .standardKey,
    (rows.filter (·.indexname = keyName)).map fun row => indexOfColumn row.attname⟩

/-- One key per index name, in order of first appearance. -/
def describedKeys (indexOfColumn : String → ℕ) (rows : List KeyRow) : List Key :=
  (indexNames rows).map (describedKey indexOfColumn rows)

/-- The rows of each index are adjacent: between two rows of one index, every row belongs
to it. -/
def RowsGrouped (rows : List KeyRow) : Prop :=
  ∀ before first between second after, rows = before ++ first :: between ++ second :: after →
    first.indexname = second.indexname → ∀ row ∈ between, row.indexname = first.indexname

/-- Rows ordered by index name, as the key query's `ORDER BY indexname` returns them, are
grouped. -/
theorem rowsGrouped_of_sorted {rows : List KeyRow}
    (hsorted : (rows.map (·.indexname.data)).Sorted (· ≤ ·)) : RowsGrouped rows := by
  rintro before first between second after rfl hname row hrow
  simp only [List.Sorted, List.map_append, List.map_cons, List.pairwise_append,
    List.pairwise_cons, List.mem_map, List.mem_append, List.mem_cons] at hsorted
  have hfirst : first.indexname.data ≤ row.indexname.data :=
    hsorted.1.2.1.1 _ ⟨row, hrow, rfl⟩
  have hsecond : row.indexname.data ≤ second.indexname.data :=
    hsorted.2.2 _ (.inr (.inr ⟨row, hrow, rfl⟩)) _ (.inl rfl)
  exact String.ext (le_antisymm (hname ▸ hsecond) hfirst)

section Grouping

variable {rows : List KeyRow} {row : KeyRow}

/-- Dropping the last row keeps the rows grouped. -/
theorem RowsGrouped.of_append (h : RowsGrouped (rows ++ [row])) : RowsGrouped rows :=
  fun before first between second after hrows =>
    h before first between second (after ++ [row]) (by simp [hrows])

/-- When the row's index already has a row, the last row belongs to that index too. -/
theorem RowsGrouped.last_indexname (h : RowsGrouped (rows ++ [row]))
    (hmem : ∃ r ∈ rows, r.indexname = row.indexname) :
    rows.getLast?.map (·.indexname) = some row.indexname := by
  obtain ⟨r, hr, hname⟩ := hmem
  obtain ⟨before, between, rfl⟩ := List.mem_iff_append.mp hr
  have hbetween := h before r between row [] (by simp) hname
  obtain ⟨last, hlast⟩ : ∃ last, (r :: between).getLast? = some last :=
    ⟨_, List.getLast?_cons⟩
  have hmemLast := List.mem_of_mem_getLast? hlast
  simp only [List.getLast?_append, hlast]
  rcases List.mem_cons.mp hmemLast with rfl | hlastMem
  · simp [hname]
  · simp [hbetween last hlastMem, hname]

end Grouping

/-! ### The first-appearance names -/

/-- One more row adds its index name unless an earlier row named it. -/
theorem indexNames_append_singleton (rows : List KeyRow) (row : KeyRow) :
    indexNames (rows ++ [row]) =
      if row.indexname ∈ indexNames rows then indexNames rows
      else indexNames rows ++ [row.indexname] := by
  simp [indexNames, List.foldl_append]

/-- The index names are those of the rows. -/
theorem mem_indexNames {rows : List KeyRow} {keyName : String} :
    keyName ∈ indexNames rows ↔ ∃ row ∈ rows, row.indexname = keyName := by
  induction rows using List.reverseRecOn with
  | nil => simp [indexNames]
  | append_singleton rows row ih =>
    have hstep : keyName ∈ indexNames (rows ++ [row]) ↔
        keyName ∈ indexNames rows ∨ row.indexname = keyName := by
      rw [indexNames_append_singleton]
      split_ifs with hrow
      · exact ⟨Or.inl, fun h => h.elim id (· ▸ hrow)⟩
      · simp [eq_comm]
    simp [hstep, ih, or_and_right, exists_or]

/-- Each index name appears once. -/
theorem nodup_indexNames (rows : List KeyRow) : (indexNames rows).Nodup := by
  induction rows using List.reverseRecOn with
  | nil => simp [indexNames]
  | append_singleton rows row ih =>
    rw [indexNames_append_singleton]
    split_ifs with hrow
    · exact ih
    · exact ih.append (List.nodup_singleton _) (by simpa using hrow)

/-- In grouped rows the index listed last is that of the last row. -/
theorem getLast?_indexNames {rows : List KeyRow} (h : RowsGrouped rows) :
    (indexNames rows).getLast? = rows.getLast?.map (·.indexname) := by
  induction rows using List.reverseRecOn with
  | nil => simp [indexNames]
  | append_singleton rows row ih =>
    rw [indexNames_append_singleton]
    split_ifs with hrow
    · rw [ih h.of_append, h.last_indexname (mem_indexNames.mp hrow)]
      simp
    · simp

/-! ### The described keys after one more row -/

section DescribedKey

variable (indexOfColumn : String → ℕ) {rows : List KeyRow} {row : KeyRow}

/-- The key described for an index name has that name. -/
@[simp] theorem describedKey_name (keyName : String) :
    (describedKey indexOfColumn rows keyName).name = keyName := rfl

/-- The described keys are named by the index names, in order. -/
@[simp] theorem map_name_describedKeys :
    (describedKeys indexOfColumn rows).map (·.name) = indexNames rows := by
  simp [describedKeys, Function.comp_def]

/-- A row of another index leaves a described key alone. -/
theorem describedKey_append_of_ne {keyName : String} (hne : row.indexname ≠ keyName) :
    describedKey indexOfColumn (rows ++ [row]) keyName =
      describedKey indexOfColumn rows keyName := by
  simp [describedKey, List.find?_append, List.filter_append, hne]

/-- A further row of a listed index adds its column to that index's key. -/
theorem describedKey_append_of_mem (hmem : ∃ r ∈ rows, r.indexname = row.indexname) :
    describedKey indexOfColumn (rows ++ [row]) row.indexname =
      { describedKey indexOfColumn rows row.indexname with
        columns := (describedKey indexOfColumn rows row.indexname).columns ++
          [indexOfColumn row.attname] } := by
  obtain ⟨found, hfound⟩ : ∃ found, rows.find? (·.indexname = row.indexname) = some found := by
    simpa [Option.isSome_iff_exists] using List.find?_isSome.mpr (by simpa using hmem)
  simp [describedKey, List.find?_append, List.filter_append, hfound]

/-- The first row of an index opens its key, with that row's uniqueness and column. -/
theorem describedKey_append_of_not_mem (hmem : ¬∃ r ∈ rows, r.indexname = row.indexname) :
    describedKey indexOfColumn (rows ++ [row]) row.indexname =
      { PostgreSQLKeyLister.newKey row.indexname (decide (row.indisunique = "t")) with
        columns := [indexOfColumn row.attname] } := by
  have hnone : rows.find? (·.indexname = row.indexname) = none := by
    simpa using hmem
  have hfilter : rows.filter (·.indexname = row.indexname) = [] := by
    simpa using hmem
  simp [describedKey, PostgreSQLKeyLister.newKey, List.find?_append, List.filter_append,
    hnone, hfilter]

end DescribedKey

/-! ### The lister's step and run -/

section Run

variable (indexOfColumn : String → ℕ)

/-- One row moves the described keys of the rows before it to those of the rows up to it. -/
theorem apply_describedKeys {rows : List KeyRow} {row : KeyRow}
    (h : RowsGrouped (rows ++ [row])) :
    PostgreSQLKeyLister.apply indexOfColumn (describedKeys indexOfColumn rows) row =
      describedKeys indexOfColumn (rows ++ [row]) := by
  have hkeep : ∀ keyName ∈ indexNames rows, keyName ≠ row.indexname →
      describedKey indexOfColumn (rows ++ [row]) keyName =
        describedKey indexOfColumn rows keyName :=
    fun keyName _ hne => describedKey_append_of_ne indexOfColumn (Ne.symm hne)
  by_cases hmem : ∃ r ∈ rows, r.indexname = row.indexname
  case pos =>
    -- the row continues the key listed last
    obtain ⟨names, hnames⟩ : ∃ names, indexNames rows = names ++ [row.indexname] := by
      rw [← List.getLast?_eq_some_iff, getLast?_indexNames h.of_append,
        h.last_indexname hmem]
    have hnodup := nodup_indexNames rows
    rw [hnames, List.nodup_append] at hnodup
    have hne : ∀ keyName ∈ names, keyName ≠ row.indexname :=
      fun keyName hk hEq => hnodup.2.2 hk (hEq ▸ List.mem_singleton_self _)
    have hsame : names.map (describedKey indexOfColumn (rows ++ [row])) =
        names.map (describedKey indexOfColumn rows) :=
      List.map_congr_left fun keyName hk =>
        hkeep keyName (hnames ▸ List.mem_append_left _ hk) (hne keyName hk)
    simp [describedKeys, PostgreSQLKeyLister.apply, indexNames_append_singleton, hnames, hsame,
      describedKey_append_of_mem indexOfColumn hmem]
  case neg =>
    -- the row opens a new key after every key so far
    have hlast : (describedKeys indexOfColumn rows).getLast?.map (·.name) ≠ some row.indexname := by
      rw [← List.getLast?_map, map_name_describedKeys]
      exact fun hEq => hmem (mem_indexNames.mp (List.mem_of_mem_getLast? hEq))
    have hsame : (indexNames rows).map (describedKey indexOfColumn (rows ++ [row])) =
        (indexNames rows).map (describedKey indexOfColumn rows) :=
      List.map_congr_left fun keyName hk =>
        hkeep keyName hk fun hEq => hmem (mem_indexNames.mp (hEq ▸ hk))
    rw [PostgreSQLKeyLister.apply]
    simp only [if_pos (Or.inr hlast), PostgreSQLKeyLister.pushColumnToBack_append]
    simp [describedKeys, PostgreSQLKeyLister.newKey, indexNames_append_singleton,
      mem_indexNames.not.mpr hmem, hsame, describedKey_append_of_not_mem indexOfColumn hmem]

/-- The run: over rows whose indexes are each adjacent, the keys the lister builds are the
keys the rows describe. -/
theorem listKeys_of_rowsGrouped {rows : List KeyRow} (hgrouped : RowsGrouped rows) :
    PostgreSQLKeyLister.listKeys indexOfColumn rows = describedKeys indexOfColumn rows := by
  induction rows using List.reverseRecOn with
  | nil => rfl
  | append_singleton rows row ih =>
    rw [PostgreSQLKeyLister.listKeys_append_singleton, ih hgrouped.of_append,
      apply_describedKeys indexOfColumn hgrouped]

/-- Fed rows whose indexes are each adjacent, the key lister builds one key per index, in
order of first appearance and with distinct names: the key holds the column of each of the
index's rows in row order, and is unique exactly when the index's first row says `t`. -/
theorem listKeys_eq_describedKeys {rows : List KeyRow} (hgrouped : RowsGrouped rows) :
    PostgreSQLKeyLister.listKeys indexOfColumn rows = describedKeys indexOfColumn rows ∧
      ((PostgreSQLKeyLister.listKeys indexOfColumn rows).map (·.name)).Nodup := by
  rw [listKeys_of_rowsGrouped indexOfColumn hgrouped, map_name_describedKeys]
  exact ⟨rfl, nodup_indexNames rows⟩

/-- Every column of a described key is the position of a row's column. -/
theorem mem_columns_of_mem_describedKeys {rows : List KeyRow} {key : Key}
    (hkey : key ∈ describedKeys indexOfColumn rows) {index : ℕ} (hindex : index ∈ key.columns) :
    ∃ row ∈ rows, indexOfColumn row.attname = index := by
  obtain ⟨keyName, -, rfl⟩ := List.mem_map.mp hkey
  obtain ⟨row, hrow, rfl⟩ := List.mem_map.mp hindex
  exact ⟨row, (List.mem_filter.mp hrow).1, rfl⟩

end Run

/-- Two indexes over columns `x` and `y`, listed in name order. -/
theorem listKeys_eq_describedKeys_two_indexes :
    RowsGrouped [⟨"a", "t", "x"⟩, ⟨"a", "t", "y"⟩, ⟨"b", "f", "x"⟩] ∧
      (PostgreSQLKeyLister.listKeys (fun column => if column = "x" then 0 else 1)
          [⟨"a", "t", "x"⟩, ⟨"a", "t", "y"⟩, ⟨"b", "f", "x"⟩] =
        describedKeys (fun column => if column = "x" then 0 else 1)
          [⟨"a", "t", "x"⟩, ⟨"a", "t", "y"⟩, ⟨"b", "f", "x"⟩] ∧
      ((PostgreSQLKeyLister.listKeys (fun column => if column = "x" then 0 else 1)
          [⟨"a", "t", "x"⟩, ⟨"a", "t", "y"⟩, ⟨"b", "f", "x"⟩]).map (·.name)).Nodup) :=
  ⟨rowsGrouped_of_sorted (by decide),
    listKeys_eq_describedKeys _ (rowsGrouped_of_sorted (by decide))⟩

/-! ### Key names in any row order -/

section Names

variable (indexOfColumn : String → ℕ)

/-- A row opens a key exactly when its index is not the one listed last. -/
theorem map_name_listKeys_append_singleton (rows : List KeyRow) (row : KeyRow) :
    (PostgreSQLKeyLister.listKeys indexOfColumn (rows ++ [row])).map (·.name) =
      if ((PostgreSQLKeyLister.listKeys indexOfColumn rows).map (·.name)).getLast? =
          some row.indexname then
        (PostgreSQLKeyLister.listKeys indexOfColumn rows).map (·.name)
      else (PostgreSQLKeyLister.listKeys indexOfColumn rows).map (·.name) ++ [row.indexname] := by
  rw [PostgreSQLKeyLister.listKeys_append_singleton, PostgreSQLKeyLister.apply]
  generalize PostgreSQLKeyLister.listKeys indexOfColumn rows = keys
  rw [PostgreSQLKeyLister.map_name_pushColumnToBack]
  rcases keys.eq_nil_or_concat with rfl | ⟨keys, back, rfl⟩
  · simp [PostgreSQLKeyLister.newKey]
  · by_cases hname : back.name = row.indexname <;> simp [hname, PostgreSQLKeyLister.newKey]

/-- The key listed last is named after the last row's index. -/
theorem getLast?_map_name_listKeys (rows : List KeyRow) :
    ((PostgreSQLKeyLister.listKeys indexOfColumn rows).map (·.name)).getLast? =
      rows.getLast?.map (·.indexname) := by
  induction rows using List.reverseRecOn with
  | nil => rfl
  | append_singleton rows row ih =>
    rw [map_name_listKeys_append_singleton]
    split_ifs with hlast
    · simp [hlast]
    · simp

/-- The keys are named after the indexes of the rows. -/
theorem mem_map_name_listKeys {rows : List KeyRow} {keyName : String} :
    keyName ∈ (PostgreSQLKeyLister.listKeys indexOfColumn rows).map (·.name) ↔
      ∃ row ∈ rows, row.indexname = keyName := by
  induction rows using List.reverseRecOn with
  | nil => simp [PostgreSQLKeyLister.listKeys]
  | append_singleton rows row ih =>
    have hstep : keyName ∈ (PostgreSQLKeyLister.listKeys indexOfColumn (rows ++ [row])).map (·.name) ↔
        keyName ∈ (PostgreSQLKeyLister.listKeys indexOfColumn rows).map (·.name) ∨
          row.indexname = keyName := by
      rw [map_name_listKeys_append_singleton]
      split_ifs with hlast
      · -- the row's index is the last one listed, so it is listed
        have hmem := List.mem_of_mem_getLast? hlast
        exact ⟨.inl, fun h => h.elim id (· ▸ hmem)⟩
      · simp [eq_comm]
    simp [hstep, ih, or_and_right, exists_or]

/-- No rows are grouped. -/
theorem rowsGrouped_nil : RowsGrouped [] := by
  intro before first between second after h
  simp at h

/-- One more row keeps the rows grouped exactly when it continues the last index or starts
an index with no earlier row. -/
theorem rowsGrouped_append_singleton_iff {rows : List KeyRow} {row : KeyRow} :
    RowsGrouped (rows ++ [row]) ↔
      RowsGrouped rows ∧ ((∃ r ∈ rows, r.indexname = row.indexname) →
        rows.getLast?.map (·.indexname) = some row.indexname) := by
  refine ⟨fun h => ⟨h.of_append, h.last_indexname⟩, ?_⟩
  rintro ⟨hgrouped, hlast⟩ before first between second after hrows hname r hr
  rcases after.eq_nil_or_concat with rfl | ⟨after, last, rfl⟩
  · -- the second row is the new one
    have hsplit : rows ++ [row] = (before ++ first :: between) ++ [second] := by simpa using hrows
    obtain ⟨rfl, hrow⟩ := List.append_inj' hsplit rfl
    obtain rfl : row = second := by simpa using hrow
    have hend := hlast ⟨first, by simp, hname⟩
    rcases between.eq_nil_or_concat with rfl | ⟨between, final, rfl⟩
    · simp at hr
    · rw [List.concat_eq_append] at hr hend
      have hfinal : final.indexname = first.indexname := by
        rw [← List.cons_append, ← List.append_assoc, List.getLast?_concat] at hend
        simpa [hname] using hend
      rcases List.mem_append.mp hr with hr | hr
      · exact hgrouped before first between final [] (by simp) hfinal.symm r hr
      · rw [List.mem_singleton.mp hr, hfinal]
  · have hsplit : rows ++ [row] = (before ++ first :: between ++ second :: after) ++ [last] := by
      simpa using hrows
    obtain ⟨rfl, -⟩ := List.append_inj' hsplit rfl
    exact hgrouped before first between second after rfl hname r hr

/-- **Key names distinct exactly when the rows are grouped.** The key lister builds keys with
distinct names exactly when the rows of each index are adjacent, as the key query's
`ORDER BY` makes them; rows of one index apart open a second key of the same name. -/
theorem nodup_map_name_listKeys_iff (rows : List KeyRow) :
    ((PostgreSQLKeyLister.listKeys indexOfColumn rows).map (·.name)).Nodup ↔ RowsGrouped rows := by
  induction rows using List.reverseRecOn with
  | nil => exact iff_of_true List.nodup_nil rowsGrouped_nil
  | append_singleton rows row ih =>
    rw [map_name_listKeys_append_singleton, rowsGrouped_append_singleton_iff, ← ih,
      getLast?_map_name_listKeys]
    split_ifs with hlast
    · simp [hlast]
    · rw [List.nodup_append, ← mem_map_name_listKeys indexOfColumn]
      simp [hlast]

/-- Rows of index `a` apart give two keys named `a`. -/
example : (PostgreSQLKeyLister.listKeys (fun _ => 0)
    [⟨"a", "t", "x"⟩, ⟨"b", "f", "y"⟩, ⟨"a", "t", "z"⟩]).map (·.name) = ["a", "b", "a"] := by
  decide

end Names

end KitchenSync
