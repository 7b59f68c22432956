import KitchenSync.Schema
import KitchenSync.Except
import KitchenSync.StdString

/-!
# Column DDL for PostgreSQL

`PostgreSQLClient::column_definition` writes the DDL fragment for a column: its quoted
name, the PostgreSQL type from `column_type`, `NOT NULL`, and the default clause from
`column_default`. The fragments that throw return `Except String String` with the text
of the `runtime_error`. The escaping functions of libpq, which the spec names but the
repository does not contain, are modelled from the spec's description.
-/

namespace KitchenSync

/-- libpq's `PQescapeStringConn`, as the spec describes it: `'` and `\` are doubled. -/
def escapeChars (value : List Char) : List Char :=
  value.flatMap fun c => if c = '\x27' ∨ c = '\\' then [c, c] else [c]

/-- A quote or backslash is doubled; any other character is kept. -/
@[simp] theorem escapeChars_cons (c : Char) (rest : List Char) :
    escapeChars (c :: rest) = (if c = '\x27' ∨ c = '\\' then [c, c] else [c]) ++ escapeChars rest :=
  rfl

/-- `escape_string_value`. -/
def escapeStringValue (value : String) : String := ⟨escapeChars value.data⟩

/-- `append_escaped_string_value_to`: the escaped value between single quotes. -/
def appendEscapedStringValueTo (result value : String) : String :=
  result ++ "'" ++ escapeStringValue value ++ "'"

/-- A byte as two lower-case hexadecimal digits. -/
def hexByte (c : Char) : List Char :=
  [Nat.digitChar (c.toNat % 256 / 16), Nat.digitChar (c.toNat % 16)]

/-- libpq's `PQescapeByteaConn` in the hex form of the spec's example: `\\x` and two
hexadecimal digits per byte. -/
def escapeByteaValue (value : String) : String :=
  ⟨'\\' :: '\\' :: 'x' :: value.data.flatMap hexByte⟩

/-- `append_escaped_bytea_value_to`: the escaped bytes between single quotes. -/
def appendEscapedByteaValueTo (result value : String) : String :=
  result ++ "'" ++ escapeByteaValue value ++ "'"

/-- The `uint32_t` that the first four bytes of a string encode, least significant first. -/
def sridPrefix (value : String) : ℕ :=
  (value.data.take 4).foldr (fun c n => c.toNat % 256 + 256 * n) 0

/-- `append_escaped_spatial_value_to`: `ST_GeomFromWKB` of the bytes after the four-byte
SRID prefix, with the SRID. `value.substr(4)` throws `out_of_range` on a value shorter
than the prefix; the text of that exception is the library's. -/
def appendEscapedSpatialValueTo (result value : String) : Except String String :=
  if value.length < 4 then throw "basic_string::substr"
  else pure (appendEscapedByteaValueTo (result ++ "ST_GeomFromWKB(") (substr value 4 npos) ++
    "," ++ toString (sridPrefix value) ++ ")")

/-- `append_escaped_column_value_to`: bytea for `BLOB`, spatial for `SPATIAL`, string
otherwise. -/
def appendEscapedColumnValueTo (result : String) (column : Column) (value : String) :
    Except String String :=
  if column.columnType = ColumnTypes.blob then pure (appendEscapedByteaValueTo result value)
  else if column.columnType = ColumnTypes.spat then appendEscapedSpatialValueTo result value
  else pure (appendEscapedStringValueTo result value)

/-- Modelled from the spec: `quote_identifier` (`sql_functions.h`, not under src/) quotes
with `"`, which inside the name is doubled. -/
def quoteIdentifier (name : String) : String :=
  ⟨'"' :: name.data.flatMap (fun c => if c = '"' then [c, c] else [c]) ++ ['"']⟩

namespace PostgreSQLClient

/-- `PostgreSQLClient::column_type`. -/
def columnType (column : Column) : Except String String :=
  if column.columnType = ColumnTypes.blob then pure "bytea"
  else if column.columnType = ColumnTypes.text then pure "text"
  else if column.columnType = ColumnTypes.vchr then
    pure ("character varying" ++ if column.size > 0 then "(" ++ toString column.size ++ ")" else "")
  else if column.columnType = ColumnTypes.fchr then
    pure ("character(" ++ toString column.size ++ ")")
  else if column.columnType = ColumnTypes.uuid then pure "uuid"
  else if column.columnType = ColumnTypes.bool then pure "boolean"
  else if column.columnType = ColumnTypes.sint then
    match column.size with
    | 2 => pure "smallint"
    | 4 => pure "integer"
    | 8 => pure "bigint"
    | _ => throw ("Don't know how to create integer column " ++ column.name ++ " of size " ++
        toString column.size)
  else if column.columnType = ColumnTypes.real then
    pure (if column.size = 4 then "real" else "double precision")
  else if column.columnType = ColumnTypes.deci then
    pure (if column.size ≠ 0 then
      "numeric(" ++ toString column.size ++ "," ++ toString column.scale ++ ")" else "numeric")
  else if column.columnType = ColumnTypes.date then pure "date"
  else if column.columnType = ColumnTypes.time then
    pure (if column.flags &&& ColumnFlags.timeZone ≠ 0 then "time with time zone"
      else "time without time zone")
  else if column.columnType = ColumnTypes.dttm then
    pure (if column.flags &&& ColumnFlags.timeZone ≠ 0 then "timestamp with time zone"
      else "timestamp without time zone")
  else if column.columnType = ColumnTypes.spat then
    pure ("geometry" ++
      if column.referenceSystem ≠ "" then
        "(" ++ (if column.typeRestriction = "" then "geometry" else column.typeRestriction) ++
          "," ++ column.referenceSystem ++ ")"
      else if column.typeRestriction ≠ "" then "(" ++ column.typeRestriction ++ ")"
      else "")
  else throw ("Don't know how to express column type of " ++ column.name ++ " (" ++
    column.columnType ++ ")")

/-- The branch `column_type` takes for `TIME`, which reads the time-zone flag. -/
theorem columnType_time {column : Column} (htype : column.columnType = ColumnTypes.time) :
    columnType column = .ok (if column.flags &&& ColumnFlags.timeZone ≠ 0 then "time with time zone"
      else "time without time zone") := by
  simp [columnType, htype, ColumnTypes.time, ColumnTypes.blob, ColumnTypes.text, ColumnTypes.vchr,
    ColumnTypes.fchr, ColumnTypes.uuid, ColumnTypes.bool, ColumnTypes.sint, ColumnTypes.real,
    ColumnTypes.deci, ColumnTypes.date]

/-- The branch `column_type` takes for `DATETIME`, which reads the time-zone flag. -/
theorem columnType_dttm {column : Column} (htype : column.columnType = ColumnTypes.dttm) :
    columnType column = .ok (if column.flags &&& ColumnFlags.timeZone ≠ 0 then
      "timestamp with time zone" else "timestamp without time zone") := by
  simp [columnType, htype, ColumnTypes.time, ColumnTypes.blob, ColumnTypes.text, ColumnTypes.vchr,
    ColumnTypes.fchr, ColumnTypes.uuid, ColumnTypes.bool, ColumnTypes.sint, ColumnTypes.real,
    ColumnTypes.deci, ColumnTypes.date, ColumnTypes.dttm]

/-- The branch `column_type` takes for `INT`, which reads the size. -/
theorem columnType_sint {column : Column} (htype : column.columnType = ColumnTypes.sint) :
    columnType column = match column.size with
      | 2 => .ok "smallint"
      | 4 => .ok "integer"
      | 8 => .ok "bigint"
      | _ => .error ("Don't know how to create integer column " ++ column.name ++ " of size " ++
        toString column.size) := by
  simp [columnType, htype, ColumnTypes.sint, ColumnTypes.blob, ColumnTypes.text,
    ColumnTypes.vchr, ColumnTypes.fchr, ColumnTypes.uuid, ColumnTypes.bool]

/-- The column types `column_type` writes a name for, whatever the column's size. -/
def unsizedColumnTypes : List String :=
  [ColumnTypes.blob, ColumnTypes.text, ColumnTypes.vchr, ColumnTypes.fchr, ColumnTypes.uuid,
    ColumnTypes.bool, ColumnTypes.real, ColumnTypes.deci, ColumnTypes.date, ColumnTypes.time,
    ColumnTypes.dttm, ColumnTypes.spat]

/-- `column_type` writes a name exactly for the types of its chain, an `INT` only of 2, 4 or 8
bytes; for any other column it throws. -/
theorem exists_columnType_eq_ok_iff (column : Column) :
    (∃ typeName, columnType column = .ok typeName) ↔
      column.columnType ∈ unsizedColumnTypes ∨
        (column.columnType = ColumnTypes.sint ∧ column.size ∈ [2, 4, 8]) := by
  by_cases hunsized : column.columnType ∈ unsizedColumnTypes
  · simp only [hunsized, true_or, iff_true]
    simp only [unsizedColumnTypes, List.mem_cons, List.mem_nil_iff, or_false] at hunsized
    rcases hunsized with h | h | h | h | h | h | h | h | h | h | h | h <;>
      simp [columnType, h, ColumnTypes.blob, ColumnTypes.text, ColumnTypes.vchr, ColumnTypes.fchr,
        ColumnTypes.uuid, ColumnTypes.bool, ColumnTypes.sint, ColumnTypes.real, ColumnTypes.deci,
        ColumnTypes.date, ColumnTypes.time, ColumnTypes.dttm, ColumnTypes.spat]
  · simp only [hunsized, false_or]
    simp only [unsizedColumnTypes, List.mem_cons, List.mem_nil_iff, or_false, not_or] at hunsized
    obtain ⟨hblob, htext, hvchr, hfchr, huuid, hbool, hreal, hdeci, hdate, htime, hdttm, hspat⟩ :=
      hunsized
    by_cases hsint : column.columnType = ColumnTypes.sint
    · -- an integer column is written by its size
      rw [columnType_sint hsint]
      simp only [hsint, true_and]
      split <;> simp_all
    · simp [columnType, hblob, htext, hvchr, hfchr, huuid, hbool, hsint, hreal, hdeci, hdate,
        htime, hdttm, hspat]

/-- `PostgreSQLClient::column_sequence_name`: the name PostgreSQL gives a serial's sequence. -/
def columnSequenceName (table : Table) (column : Column) : String :=
  table.name ++ "_" ++ column.name ++ "_seq"

/-- `PostgreSQLClient::column_default`. The `default_expression` case has no `break`: after
appending the expression it falls through to `default:`, which throws. -/
def columnDefault (table : Table) (column : Column) : Except String String :=
  let result := " DEFAULT "
  match column.defaultType with
  | .noDefault => pure (result ++ "NULL")
  | .sequence =>
    pure (result ++ "nextval('" ++ escapeStringValue (columnSequenceName table column) ++
      "'::regclass)")
  | .defaultValue =>
    if column.columnType = ColumnTypes.bool ∨ column.columnType = ColumnTypes.sint ∨
        column.columnType = ColumnTypes.uint ∨ column.columnType = ColumnTypes.real ∨
        column.columnType = ColumnTypes.deci then
      pure (result ++ column.defaultValue)
    else appendEscapedColumnValueTo result column column.defaultValue
  | .defaultExpression =>
    throw ("Don't know how to express default of " ++ column.name ++ " (" ++
      toString column.defaultType.toNat ++ ")")

/-- `PostgreSQLClient::column_definition`; `if (column.default_type)` tests for a type
other than `no_default`. -/
def columnDefinition (table : Table) (column : Column) : Except String String := do
  let typeName ← columnType column
  let result := quoteIdentifier column.name ++ " " ++ typeName ++
    if !column.nullable then " NOT NULL" else ""
  if column.defaultType ≠ .noDefault then
    let default ← columnDefault table column
    pure (result ++ default)
  else pure result

end PostgreSQLClient

end KitchenSync
