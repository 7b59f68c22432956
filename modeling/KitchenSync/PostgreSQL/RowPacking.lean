import KitchenSync.PostgreSQL.Fields

/-!
# Packing result rows

`PostgreSQLRow::pack_row_into` hands a row of a text-format result to the packer: the
result's column count, then each field. A NULL field is packed as `nil` without a
conversion; any other field is decoded by the conversion `conversion_for` keeps for its
column, which the result computes at its first non-NULL field and keeps for every later row.
Packed row after row, a result is packed as if each field were decoded by the conversion of
its column's type alone, and the decimal text PostgreSQL writes for an integer column is
packed as its integer.

`PQunescapeBytea` (libpq) and `ewkb_hex_to_standard_geom_bin` (`ewkb.h`, not under src/)
are parameters; how the packer encodes each value (`message_pack/`, not under src/) is left
to the constructors of `PackedValue`.
-/

namespace KitchenSync

open PostgreSQLRes

/-- What `pack_row_into` and `pack_column_into` hand to the packer: `pack_array_length`,
`nullptr`, a `bool`, an `int64_t`, an `uncopied_byte_string`, or the geometry that
`ewkb_hex_to_standard_geom_bin` returns. -/
inductive PackedValue where
  | arrayLength (length : ℕ)
  | nil
  | bool (value : Bool)
  | int (value : ℤ)
  | bytes (value : String)
  | geometry (value : String)
  deriving DecidableEq, Repr

/-! ### The packer's loops -/

section Packing

variable (unescapeBytea ewkbHexToStandardGeomBin : String → String)

/-- The `switch` of `pack_column_into`: a non-NULL field under its column's conversion. -/
def packField : PostgreSQLColumnConversion → String → PackedValue
  | .encodeBool, value => .bool (boolAt value)
  | .encodeSint, value => .int (intAt value)
  | .encodeBytea, value => .bytes (unescapeBytea value)
  | .encodeGeom, value => .geometry (ewkbHexToStandardGeomBin value)
  | .encodeRaw, value => .bytes value

variable (typeMap : TypeMap) (columnTypes : List ℕ)

/-- `PostgreSQLRow::pack_column_into`: `nil` for a NULL field, without asking for a
conversion; any other field under `conversion_for(column_number)`, which computes the
result's conversions when it has none. -/
def packColumnInto (conversions : List PostgreSQLColumnConversion) (columnNumber : ℕ) :
    Option String → List PostgreSQLColumnConversion × PackedValue
  | none => (conversions, .nil)
  | some value =>
    let step := conversionFor typeMap columnTypes conversions columnNumber
    (step.1, packField unescapeBytea ewkbHexToStandardGeomBin step.2 value)

/-- The loop of `pack_row_into` over the fields from `column_number` on. -/
def packColumnsInto : List PostgreSQLColumnConversion → ℕ → List (Option String) →
    List PostgreSQLColumnConversion × List PackedValue
  | conversions, _, [] => (conversions, [])
  | conversions, columnNumber, field :: fields =>
    let column := packColumnInto unescapeBytea ewkbHexToStandardGeomBin typeMap columnTypes
      conversions columnNumber field
    let rest := packColumnsInto column.1 (columnNumber + 1) fields
    (rest.1, column.2 :: rest.2)

/-- `PostgreSQLRow::pack_row_into`: `pack_array_length` of the result's column count, then
the fields. -/
def packRowInto (conversions : List PostgreSQLColumnConversion) (row : List (Option String)) :
    List PostgreSQLColumnConversion × List PackedValue :=
  let fields := packColumnsInto unescapeBytea ewkbHexToStandardGeomBin typeMap columnTypes
    conversions 0 row
  (fields.1, .arrayLength columnTypes.length :: fields.2)

/-- The row loop of `PostgreSQLClient::query` with a handler that packs each row: every row
goes through the one `PostgreSQLRes`, and so through the conversions it keeps. -/
def packRowsInto : List PostgreSQLColumnConversion → List (List (Option String)) →
    List PostgreSQLColumnConversion × List (List PackedValue)
  | conversions, [] => (conversions, [])
  | conversions, row :: rows =>
    let packed := packRowInto unescapeBytea ewkbHexToStandardGeomBin typeMap columnTypes
      conversions row
    let rest := packRowsInto packed.1 rows
    (rest.1, packed.2 :: rest.2)

end Packing

/-- A text-format result as libpq returns it: the `PQftype` of each column, and the fields
of each row, `none` for SQL NULL. Every row has a field per column. -/
structure PostgreSQLResult where
  columnTypes : List ℕ
  rows : List (List (Option String))
  length_eq : ∀ row ∈ rows, row.length = columnTypes.length

section Packed

variable (unescapeBytea ewkbHexToStandardGeomBin : String → String) (typeMap : TypeMap)

/-- A result packed row by row from a new `PostgreSQLRes`, which keeps no conversions. -/
def packResult (result : PostgreSQLResult) : List (List PackedValue) :=
  (packRowsInto unescapeBytea ewkbHexToStandardGeomBin typeMap result.columnTypes [] result.rows).2

/-- A field decoded by the conversion of its column's type, with no conversion kept. -/
def packedField (typid : ℕ) : Option String → PackedValue
  | none => .nil
  | some value => packField unescapeBytea ewkbHexToStandardGeomBin (conversionForType typeMap typid) value

/-- A row packed field by field from the types of the columns. -/
def packedRow (columnTypes : List ℕ) (row : List (Option String)) : List PackedValue :=
  .arrayLength columnTypes.length ::
    List.zipWith (packedField unescapeBytea ewkbHexToStandardGeomBin typeMap) columnTypes row

/-! ### What a column's type decodes -/

/-- **Integers are packed as themselves.** The decimal text PostgreSQL writes for a value of a
`smallint`, `integer` or `bigint` column, in the range of `int64_t`, is packed as that
integer. -/
theorem packedField_int_toString {typid : ℕ} (htypid : typid ∈ [int2Oid, int4Oid, int8Oid])
    {n : ℤ} (hmin : llongMin ≤ n) (hmax : n ≤ llongMax) :
    packedField unescapeBytea ewkbHexToStandardGeomBin typeMap typid (some (toString n)) = .int n := by
  have hsint : conversionForType typeMap typid = .encodeSint := by
    simp only [List.mem_cons, List.mem_nil_iff, or_false] at htypid
    rcases htypid with rfl | rfl | rfl <;> rfl
  rw [packedField, hsint, packField, intAt_toString hmin hmax]

/-- A `bigint` column holding `-42`, decoded through any map. -/
theorem packedField_int_toString_bigint :
    int8Oid ∈ [int2Oid, int4Oid, int8Oid] ∧ llongMin ≤ -42 ∧ -42 ≤ llongMax ∧
      packedField id id ⟨∅⟩ int8Oid (some (toString (-42 : ℤ))) = .int (-42) :=
  have htypid : int8Oid ∈ [int2Oid, int4Oid, int8Oid] := by decide
  have hmin : llongMin ≤ -42 := by decide
  have hmax : (-42 : ℤ) ≤ llongMax := by decide
  ⟨htypid, hmin, hmax, packedField_int_toString id id ⟨∅⟩ htypid hmin hmax⟩

/-- **Geometry after introspection.** Under the map the type query fills from PostgreSQL's
rows, a field of a type that none of the switch's cases names is packed through
`ewkb_hex_to_standard_geom_bin` exactly when the query listed its type as `geometry`, and as
its raw text otherwise. -/
theorem packedField_collectTypeMap (typeRows : List (ℕ × String))
    (hoids : ∀ row ∈ typeRows, row.1 < 2 ^ 32) {typid : ℕ} (hbuiltin : typid ∉ builtinOids)
    (value : String) :
    packedField unescapeBytea ewkbHexToStandardGeomBin
        (PostgreSQLClient.collectTypeMap ⟨∅⟩
          (typeRows.map fun row => PostgreSQLTypeMapCollector.typeRow (toString row.1) row.2))
        typid (some value) =
      if (typid, "geometry") ∈ typeRows then .geometry (ewkbHexToStandardGeomBin value)
      else .bytes value := by
  have hmem := mem_collectTypeMap_typeRow ⟨∅⟩ typeRows hoids typid
  simp only [Finset.not_mem_empty, false_or] at hmem
  rw [packedField, conversionForType_of_not_mem_builtinOids _ hbuiltin]
  split_ifs with hgeometry hlisted hlisted
  · rfl
  · exact absurd (hmem.mp hgeometry) hlisted
  · exact absurd (hmem.mpr hlisted) hgeometry
  · rfl

/-- A PostGIS `geometry` column at OID `16400`, and a `citext` column at `16500` the query
does not list. -/
theorem packedField_collectTypeMap_postgis :
    (∀ row ∈ [((16400 : ℕ), "geometry")], row.1 < 2 ^ 32) ∧ 16500 ∉ builtinOids ∧
      packedField id (fun _ => "wkb") (PostgreSQLClient.collectTypeMap ⟨∅⟩
          ([((16400 : ℕ), "geometry")].map fun row =>
            PostgreSQLTypeMapCollector.typeRow (toString row.1) row.2)) 16500 (some "abc") =
        if ((16500 : ℕ), "geometry") ∈ [((16400 : ℕ), "geometry")] then .geometry "wkb"
        else .bytes "abc" :=
  have hoids : ∀ row ∈ [((16400 : ℕ), "geometry")], row.1 < 2 ^ 32 := by decide
  have hbuiltin : 16500 ∉ builtinOids := by decide
  ⟨hoids, hbuiltin, packedField_collectTypeMap id (fun _ => "wkb") _ hoids hbuiltin "abc"⟩

/-! ### The kept conversions do not show -/

variable {typeMap} {columnTypes : List ℕ} {conversions : List PostgreSQLColumnConversion}

/-- One field keeps the conversions of the columns, and is packed by its column's type. -/
theorem packColumnInto_step (hkept : ConversionsKept typeMap columnTypes conversions)
    {columnNumber : ℕ} (hlt : columnNumber < columnTypes.length) (field : Option String) :
    ConversionsKept typeMap columnTypes
        (packColumnInto unescapeBytea ewkbHexToStandardGeomBin typeMap columnTypes conversions
          columnNumber field).1 ∧
      (packColumnInto unescapeBytea ewkbHexToStandardGeomBin typeMap columnTypes conversions
          columnNumber field).2 =
        packedField unescapeBytea ewkbHexToStandardGeomBin typeMap columnTypes[columnNumber] field := by
  cases field with
  | none => exact ⟨hkept, rfl⟩
  | some value =>
    obtain ⟨hkept', hconversion⟩ := conversionFor_step typeMap columnTypes hkept columnNumber
    rw [populateConversions, List.getD_eq_getElem _ _ (by simpa using hlt),
      List.getElem_map] at hconversion
    exact ⟨hkept', by simp only [packColumnInto, packedField, hconversion]⟩

/-- The fields from `column_number` on are packed by the types of their columns. -/
theorem packColumnsInto_eq (hkept : ConversionsKept typeMap columnTypes conversions)
    (fields : List (Option String)) (columnNumber : ℕ)
    (hlength : columnNumber + fields.length = columnTypes.length) :
    ConversionsKept typeMap columnTypes
        (packColumnsInto unescapeBytea ewkbHexToStandardGeomBin typeMap columnTypes conversions
          columnNumber fields).1 ∧
      (packColumnsInto unescapeBytea ewkbHexToStandardGeomBin typeMap columnTypes conversions
          columnNumber fields).2 =
        List.zipWith (packedField unescapeBytea ewkbHexToStandardGeomBin typeMap)
          (columnTypes.drop columnNumber) fields := by
  induction fields generalizing conversions columnNumber with
  | nil => exact ⟨hkept, by simp [packColumnsInto]⟩
  | cons field fields ih =>
    rw [List.length_cons] at hlength
    have hlt : columnNumber < columnTypes.length := by omega
    obtain ⟨hkept', hfield⟩ := packColumnInto_step unescapeBytea ewkbHexToStandardGeomBin hkept hlt field
    obtain ⟨hkept'', hfields⟩ := ih hkept' (columnNumber + 1) (by omega)
    refine ⟨hkept'', ?_⟩
    simp only [packColumnsInto, List.drop_eq_getElem_cons hlt, List.zipWith_cons_cons, hfield,
      hfields]

/-- Rows with a field per column are packed by the types of their columns. -/
theorem packRowsInto_eq (hkept : ConversionsKept typeMap columnTypes conversions)
    (rows : List (List (Option String)))
    (hrows : ∀ row ∈ rows, row.length = columnTypes.length) :
    (packRowsInto unescapeBytea ewkbHexToStandardGeomBin typeMap columnTypes conversions rows).2 =
      rows.map (packedRow unescapeBytea ewkbHexToStandardGeomBin typeMap columnTypes) := by
  induction rows generalizing conversions with
  | nil => rfl
  | cons row rows ih =>
    obtain ⟨hkept', hrow⟩ := packColumnsInto_eq unescapeBytea ewkbHexToStandardGeomBin hkept row 0
      (by simp [hrows row (List.mem_cons_self _ _)])
    simp only [packRowsInto, packRowInto, List.map_cons, packedRow, hrow, List.drop_zero,
      ih hkept' fun row hrow => hrows row (List.mem_cons_of_mem _ hrow)]

/-- **Packing reads each field by its column's type.** However the result's NULLs fall, and so
whenever its conversions are computed, every row of a result is packed as its column count
followed by each field decoded by the conversion of its column's type: `nil` for NULL, and
otherwise a boolean, an integer, unescaped bytes, a geometry or the raw text. -/
theorem packResult_eq (result : PostgreSQLResult) :
    packResult unescapeBytea ewkbHexToStandardGeomBin typeMap result =
      result.rows.map (packedRow unescapeBytea ewkbHexToStandardGeomBin typeMap result.columnTypes) :=
  packRowsInto_eq unescapeBytea ewkbHexToStandardGeomBin (.inl rfl) result.rows result.length_eq

/-- The conversions are computed at the first row's boolean and kept for the second row's
integer. -/
example : packResult id id ⟨∅⟩ ⟨[int4Oid, boolOid], [[none, some "t"], [some "-7", none]],
    by decide⟩ = [[.arrayLength 2, .nil, .bool true], [.arrayLength 2, .int (-7), .nil]] := by
  decide

end Packed

end KitchenSync
