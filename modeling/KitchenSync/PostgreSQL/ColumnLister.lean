import KitchenSync.Schema
import KitchenSync.StdString

/-!
# Reading columns from the PostgreSQL catalog

`PostgreSQLColumnLister` turns each row of the column query into a `Column`: it
classifies the `pg_get_expr` text of the default, then maps the `format_type` text
to a canonical column type. The two `extract_column_*` helpers and
`Table::index_of_column` live outside src/; the first two are modelled from the
spec below, the last is a parameter where it is used.
-/

namespace KitchenSync

/-- A row of the column query: `attname`, `format_type(atttypid, atttypmod)`,
`attnotnull`, `atthasdef` and `pg_get_expr(adbin, adrelid)`, as `string_at` reads them. -/
structure ColumnRow where
  attname : String
  formatType : String
  attnotnull : String
  atthasdef : String
  pgGetExpr : String
  deriving DecidableEq, Repr

/-- The decimal number at the front of a list of characters; `0` when there is none. -/
def readNumber (cs : List Char) : ℕ :=
  (cs.takeWhile Char.isDigit).foldl (fun n c => 10 * n + (c.toNat - '0'.toNat)) 0

/-- Modelled from the spec: `extract_column_length` is declared in `sql_functions.h`,
which is not under src/. The spec reads `numeric(p,s)` as precision `p` and
`character varying(n)`, `character(n)` as length `n`: the number after the first `(`. -/
def extractColumnLength (dbType : String) : ℕ :=
  readNumber ((dbType.data.dropWhile (· ≠ '(')).drop 1)

/-- Modelled from the spec: `extract_column_scale` (`sql_functions.h`, not under src/)
reads the scale `s` of `numeric(p,s)`: the number after the first `,`. -/
def extractColumnScale (dbType : String) : ℕ :=
  readNumber ((dbType.data.dropWhile (· ≠ ',')).drop 1)

namespace PostgreSQLColumnLister

/-- The loop of `unescape_string_value` over the characters still to read: a `\` or a
`'` is dropped and the character after it kept, whatever it is. After a trailing one
the loop reads the string's terminating `'\0'`. -/
def unescapeChars : List Char → List Char
  | [] => []
  | c :: rest =>
    if c = '\\' ∨ c = '\x27' then
      match rest with
      | [] => ['\x00']
      | next :: rest => next :: unescapeChars rest
    else c :: unescapeChars rest

/-- A character that is no escape is kept. -/
@[simp] theorem unescapeChars_cons_of_not_escape {c : Char} (rest : List Char)
    (hc : ¬(c = '\\' ∨ c = '\x27')) : unescapeChars (c :: rest) = c :: unescapeChars rest := by
  cases rest <;> simp [unescapeChars, hc]

/-- An escape character is dropped and the character after it kept. -/
@[simp] theorem unescapeChars_escape_cons {c : Char} (next : Char) (rest : List Char)
    (hc : c = '\\' ∨ c = '\x27') :
    unescapeChars (c :: next :: rest) = next :: unescapeChars rest := by
  simp [unescapeChars, hc]

/-- A last escape character with nothing after it reads the terminating `'\0'`. -/
@[simp] theorem unescapeChars_escape_singleton {c : Char} (hc : c = '\\' ∨ c = '\x27') :
    unescapeChars [c] = ['\x00'] := by
  simp [unescapeChars, hc]

/-- `unescape_string_value`. -/
def unescapeStringValue (escaped : String) : String := ⟨unescapeChars escaped.data⟩

/-- `extract_spatial_type_restriction_and_reference_system`: lower-case the text, split it
at its first comma, and drop a `geometry` subtype given with a reference system. -/
def extractSpatialTypeRestrictionAndReferenceSystem (typeRestriction : String) :
    String × String :=
  let typeRestriction := toLower typeRestriction
  let commaPos := find typeRestriction ','
  if commaPos = npos then (typeRestriction, "")
  else
    let referenceSystem := substr typeRestriction (commaPos + 1) npos
    let typeRestriction := substr typeRestriction 0 commaPos
    (if typeRestriction = "geometry" then "" else typeRestriction, referenceSystem)

/-- The first half of `operator()`: the `(default_type, default_value)` read from
`atthasdef` and the text of `pg_get_expr`. -/
def readDefault (dbType atthasdef defaultValue : String) : DefaultType × String :=
  if atthasdef = "t" then
    if defaultValue.length > 20 ∧ substr defaultValue 0 9 = "nextval('" ∧
        substr defaultValue (sizeSub defaultValue.length 12) 12 = "'::regclass)" then
      (.sequence, "")
    else if substr defaultValue 0 6 = "NULL::" ∧
        substr dbType 0 (sizeSub defaultValue.length 6) = substr defaultValue 6 npos then
      (.defaultExpression, "NULL")
    else if defaultValue.length > 2 ∧ charAt defaultValue 0 = '\x27' then
      (.defaultValue, unescapeStringValue
        (substr defaultValue 1 (sizeSub (rfind defaultValue '\x27') 1)))
    else if defaultValue.length > 0 ∧ defaultValue ≠ "false" ∧ defaultValue ≠ "true" ∧
        findFirstNotOf defaultValue "0123456789." ≠ npos then
      (.defaultExpression,
        if defaultValue = "now()" then "CURRENT_TIMESTAMP"
        else if defaultValue = "('now'::text)::date" then "CURRENT_DATE"
        else if defaultValue = "\"current_schema\"()" ∨ defaultValue = "\"current_user\"()" ∨
            defaultValue = "\"session_user\"()" then
          substr defaultValue 1 (sizeSub defaultValue.length 4)
        else defaultValue)
    else (.defaultValue, defaultValue)
  else (.noDefault, "")

/-- The arguments after the fourth that the second half of `operator()` passes to the
`Column` constructor: every `emplace_back` passes the name, nullability and default
first, then these, with the constructor's defaults for those it leaves out. -/
structure ColumnTypeArgs where
  columnType : String
  size : ℕ := 0
  scale : ℕ := 0
  flags : ℕ := ColumnFlags.nothing
  typeRestriction : String := ""
  referenceSystem : String := ""
  dbTypeDef : String := ""
  deriving DecidableEq, Repr

/-- The type arguments of the `emplace_back` that the second half of `operator()` chooses
for the `format_type` text. -/
def typeArgs (dbType : String) : ColumnTypeArgs :=
  if dbType = "boolean" then { columnType := ColumnTypes.bool }
  else if dbType = "smallint" then { columnType := ColumnTypes.sint, size := 2 }
  else if dbType = "integer" then { columnType := ColumnTypes.sint, size := 4 }
  else if dbType = "bigint" then { columnType := ColumnTypes.sint, size := 8 }
  else if dbType = "real" then { columnType := ColumnTypes.real, size := 4 }
  else if dbType = "double precision" then { columnType := ColumnTypes.real, size := 8 }
  else if substr dbType 0 8 = "numeric(" then
    { columnType := ColumnTypes.deci, size := extractColumnLength dbType,
      scale := extractColumnScale dbType }
  else if substr dbType 0 7 = "numeric" then { columnType := ColumnTypes.deci }
  else if substr dbType 0 18 = "character varying(" then
    { columnType := ColumnTypes.vchr, size := extractColumnLength dbType }
  else if substr dbType 0 18 = "character varying" then { columnType := ColumnTypes.vchr }
  else if substr dbType 0 10 = "character(" then
    { columnType := ColumnTypes.fchr, size := extractColumnLength dbType }
  else if dbType = "text" then { columnType := ColumnTypes.text }
  else if dbType = "bytea" then { columnType := ColumnTypes.blob }
  else if dbType = "uuid" then { columnType := ColumnTypes.uuid }
  else if dbType = "date" then { columnType := ColumnTypes.date }
  else if dbType = "time without time zone" then { columnType := ColumnTypes.time }
  else if dbType = "time with time zone" then
    { columnType := ColumnTypes.time, flags := ColumnFlags.timeZone }
  else if dbType = "timestamp without time zone" then { columnType := ColumnTypes.dttm }
  else if dbType = "timestamp with time zone" then
    { columnType := ColumnTypes.dttm, flags := ColumnFlags.timeZone }
  else if dbType = "geometry" then { columnType := ColumnTypes.spat }
  else if substr dbType 0 9 = "geometry(" then
    let spatial := extractSpatialTypeRestrictionAndReferenceSystem
      (substr dbType 9 (sizeSub dbType.length 10))
    { columnType := ColumnTypes.spat, typeRestriction := spatial.1,
      referenceSystem := spatial.2 }
  else { columnType := ColumnTypes.unkn, dbTypeDef := dbType }

/-- The column that the second half of `operator()` places. -/
def typedColumn (name : String) (nullable : Bool) (defaultType : DefaultType)
    (defaultValue dbType : String) : Column :=
  let args := typeArgs dbType
  ⟨name, nullable, defaultType, defaultValue, args.columnType, args.size, args.scale, args.flags,
    args.typeRestriction, args.referenceSystem, args.dbTypeDef⟩

/-- The column `operator()` appends for a row. -/
def column (row : ColumnRow) : Column :=
  let default := readDefault row.formatType row.atthasdef row.pgGetExpr
  typedColumn row.attname (row.attnotnull = "f") default.1 default.2 row.formatType

/-- `operator()`: append the row's column to the table. -/
def apply (table : Table) (row : ColumnRow) : Table :=
  { table with columns := table.columns ++ [column row] }

end PostgreSQLColumnLister

end KitchenSync
