import KitchenSync.Match.Columns

/-!
# The key walk

`check_keys_match` sorts both key lists with `Key::operator<`, which orders by key
type before name, and then walks them comparing names alone. The walk accepts
exactly the pairs of sorted lists that agree key by key. Because the sort is not by
name, two key lists with the same names need not pair up: a unique key sorts before
every standard key, so a missing unique key is reported as an extra standard key.
-/

namespace KitchenSync

/-- `check_key_match` returns exactly when the unique flags and the column lists agree. -/
theorem checkKeyMatch_eq_ok_iff (table : Table) (fromKey toKey : Key) :
    checkKeyMatch table fromKey toKey = .ok () ↔
      fromKey.unique = toKey.unique ∧ fromKey.columns = toKey.columns := by
  by_cases hunique : fromKey.unique = toKey.unique
  · by_cases hcolumns : fromKey.columns = toKey.columns
    · simp [checkKeyMatch, hunique, hcolumns]
    · simp only [checkKeyMatch, hunique, hcolumns, ne_eq, not_true_eq_false, not_false_eq_true,
        if_true, if_false, except_pure, except_ok_bind, and_false, iff_false]
      cases columnsList table.columns toKey.columns <;>
        cases columnsList table.columns fromKey.columns <;> simp
  · simp [checkKeyMatch, hunique]

/-- The key walk reads only the name and the columns of the table it reports on. -/
theorem checkKeysMatchLoop_congr {table table' : Table} (hname : table.name = table'.name)
    (hcolumns : table.columns = table'.columns) :
    checkKeysMatchLoop table = checkKeysMatchLoop table' := by
  funext fromKeys toKeys
  induction fromKeys generalizing toKeys with
  | nil => cases toKeys <;> simp only [checkKeysMatchLoop, hname]
  | cons fromKey fromKeys ih =>
    cases toKeys <;> simp only [checkKeysMatchLoop, checkKeyMatch, hname, hcolumns, ih]

/-- The key walk succeeds exactly when the lists pair off key by key, each pair with
one name and accepted by `check_key_match`. -/
theorem checkKeysMatchLoop_eq_ok_iff (table : Table) (fromKeys toKeys : List Key) :
    checkKeysMatchLoop table fromKeys toKeys = .ok () ↔
      List.Forall₂ (fun fromKey toKey =>
        fromKey.name = toKey.name ∧ checkKeyMatch table fromKey toKey = .ok ())
        fromKeys toKeys := by
  induction fromKeys generalizing toKeys with
  | nil => cases toKeys <;> simp [checkKeysMatchLoop]
  | cons fromKey fromKeys ih =>
    cases toKeys with
    | nil => simp [checkKeysMatchLoop]
    | cons toKey toKeys =>
      by_cases hlt : fromKey.name.data < toKey.name.data
      · have hne : fromKey.name ≠ toKey.name := fun h => lt_irrefl _ (h ▸ hlt)
        simp [checkKeysMatchLoop, hlt, hne]
      · by_cases hgt : toKey.name.data < fromKey.name.data
        · have hne : fromKey.name ≠ toKey.name := fun h => lt_irrefl _ (h ▸ hgt)
          simp [checkKeysMatchLoop, hlt, hgt, hne]
        · have hname : fromKey.name = toKey.name :=
            String.ext (le_antisymm (not_lt.mp hgt) (not_lt.mp hlt))
          simp [checkKeysMatchLoop, hlt, hgt, hname, ih, and_assoc]

/-- `check_keys_match` accepts exactly the key lists that, once each is sorted by
`Key::operator<`, agree position by position in name, unique flag and columns. -/
theorem checkKeysMatch_eq_ok_iff (table : Table) (fromKeys toKeys : List Key) :
    checkKeysMatch table fromKeys toKeys = .ok () ↔
      List.Forall₂ (fun fromKey toKey => fromKey.name = toKey.name ∧
        fromKey.unique = toKey.unique ∧ fromKey.columns = toKey.columns)
        (sortKeys fromKeys) (sortKeys toKeys) := by
  simp only [checkKeysMatch, checkKeysMatchLoop_eq_ok_iff, checkKeyMatch_eq_ok_iff]

/-- A table with two columns, for the key lists below. -/
def keyedTable : Table :=
  ⟨"t", [⟨"c0", false, .noDefault, "", ColumnTypes.sint, 4, 0, 0, "", "", ""⟩,
    ⟨"c1", false, .noDefault, "", ColumnTypes.sint, 4, 0, 0, "", "", ""⟩], [], .noAvailableKey, []⟩

/-- The walk compares names across key types. A unique key `b` missing on the to-side
sorts before the standard key `a` that both sides have, and is reported as `a` being
extra; and two key lists with the same names, unique flags and columns, where `a` and
`b` are standard on one side and spatial on the other, are rejected. -/
theorem checkKeysMatch_compares_names_across_key_types :
    checkKeysMatch keyedTable [⟨"a", .standardKey, [0]⟩, ⟨"b", .uniqueKey, [1]⟩]
        [⟨"a", .standardKey, [0]⟩] = .error (.schemaMismatch "Extra key a on table t") ∧
    checkKeysMatch keyedTable [⟨"a", .spatialKey, [0]⟩, ⟨"b", .standardKey, [1]⟩]
        [⟨"a", .standardKey, [0]⟩, ⟨"b", .spatialKey, [1]⟩] =
      .error (.schemaMismatch "Extra key a on table t") :=
  ⟨rfl, rfl⟩

end KitchenSync
