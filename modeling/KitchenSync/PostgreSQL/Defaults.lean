import KitchenSync.PostgreSQL.ColumnLister
import KitchenSync.PostgreSQL.ColumnDefinition
import KitchenSync.PostgreSQL.TypeRoundTrip

/-!
# Column defaults between the catalog and the DDL

A string default leaves the client as an escaped SQL literal, and PostgreSQL lists it
back as `'<literal>'::<type>`. The lister cuts the literal out at the last quote and
unescapes it: for any value this gives the value back. The `nextval` of a serial column,
and a plain number or truth value, which `column_default` writes unquoted, are read back
as they were written too. A default expression goes the other way less well: `column_default` has no `break` after the expression, so every
column the lister reads with a default expression makes `column_definition` throw.
-/

namespace KitchenSync

/-- Unescaping undoes the escaping of quotes and backslashes. -/
@[simp] theorem unescapeChars_escapeChars (value : List Char) :
    PostgreSQLColumnLister.unescapeChars (escapeChars value) = value := by
  induction value with
  | nil => rfl
  | cons c rest ih =>
    by_cases hc : c = '\x27' ∨ c = '\\'
    · simp [hc, hc.symm, ih]
    · rw [escapeChars_cons, if_neg hc, List.singleton_append,
        PostgreSQLColumnLister.unescapeChars_cons_of_not_escape _ fun h => hc h.symm, ih]

/-- `rfind` finds a character at its last occurrence. -/
theorem rfind_of_not_mem {before after : List Char} {c : Char} (hc : c ∉ after) :
    rfind ⟨before ++ c :: after⟩ c = before.length := by
  have hnone : after.reverse.findIdx? (· == c) = none :=
    List.findIdx?_eq_none_iff.mpr fun x hx => by
      simpa using fun hEq : x = c => hc (hEq ▸ List.mem_reverse.mp hx)
  simp [rfind, List.findIdx?_append, hnone, List.findIdx?_cons, String.length]

/-- The `(default_type, default_value)` the lister reads from the listing of an escaped
string literal, whatever the column's type. -/
theorem readDefault_escaped_literal (dbType value castType : String)
    (hcast : '\x27' ∉ castType.data) :
    PostgreSQLColumnLister.readDefault dbType "t"
        ("'" ++ escapeStringValue value ++ "'::" ++ castType) = (.defaultValue, value) := by
  have hdata : ("'" ++ escapeStringValue value ++ "'::" ++ castType).data =
      '\x27' :: (escapeChars value.data ++ '\x27' :: ':' :: ':' :: castType.data) := by
    simp [escapeStringValue]
  have hrfind : rfind ("'" ++ escapeStringValue value ++ "'::" ++ castType) '\x27' =
      (escapeChars value.data).length + 1 := by
    rw [String.ext_iff.mpr hdata, ← List.cons_append, rfind_of_not_mem (by simpa using hcast)]
    rfl
  have hnotSequence : substr ("'" ++ escapeStringValue value ++ "'::" ++ castType) 0 9 ≠
      "nextval('" := fun h => by
    simpa [hdata] using congrArg (fun s => s.data.head?) h
  have hnotNull : substr ("'" ++ escapeStringValue value ++ "'::" ++ castType) 0 6 ≠ "NULL::" :=
    fun h => by simpa [hdata] using congrArg (fun s => s.data.head?) h
  have hliteral : ("'" ++ escapeStringValue value ++ "'::" ++ castType).length > 2 ∧
      charAt ("'" ++ escapeStringValue value ++ "'::" ++ castType) 0 = '\x27' := by
    rw [← String.length_data, charAt, hdata]
    simp only [List.length_cons, List.length_append, List.getD_cons_zero, and_true]
    omega
  rw [PostgreSQLColumnLister.readDefault, if_pos rfl, if_neg fun h => hnotSequence h.2.1,
    if_neg fun h => hnotNull h.1, if_pos hliteral, hrfind, sizeSub_of_le (Nat.le_add_left 1 _),
    Nat.add_sub_cancel]
  simp [PostgreSQLColumnLister.unescapeStringValue, hdata]

/-- A string default written as an escaped literal is read back as that string: the
lister records it as a literal default with exactly the original value. -/
theorem column_default_of_escaped_literal (name formatType attnotnull value castType : String)
    (hcast : '\x27' ∉ castType.data) :
    (PostgreSQLColumnLister.column
        ⟨name, formatType, attnotnull, "t",
          "'" ++ escapeStringValue value ++ "'::" ++ castType⟩).defaultType =
      .defaultValue ∧
    (PostgreSQLColumnLister.column
        ⟨name, formatType, attnotnull, "t",
          "'" ++ escapeStringValue value ++ "'::" ++ castType⟩).defaultValue =
      value := by
  simp [PostgreSQLColumnLister.column, PostgreSQLColumnLister.typedColumn,
    readDefault_escaped_literal _ _ _ hcast]

/-- A value with a quote and a backslash, listed as a `text` literal. -/
theorem column_default_of_escaped_literal_text :
    '\x27' ∉ "text".data ∧
    (PostgreSQLColumnLister.column
        ⟨"title", "text", "f", "t",
          "'" ++ escapeStringValue "it's a\\b" ++ "'::" ++ "text"⟩).defaultType =
      .defaultValue ∧
    (PostgreSQLColumnLister.column
        ⟨"title", "text", "f", "t",
          "'" ++ escapeStringValue "it's a\\b" ++ "'::" ++ "text"⟩).defaultValue =
      "it's a\\b" :=
  ⟨by decide, column_default_of_escaped_literal "title" "text" "f" "it's a\\b" "text" (by decide)⟩

/-! ### Sequences and plain numbers -/

/-- The default of a serial column is written as `nextval` of the sequence PostgreSQL creates
for it, named `table_column_seq` and escaped as a string literal, and the lister reads that
text back as a sequence default, whatever the table and column are named. -/
theorem readDefault_columnDefault_sequence (table : Table) {column : Column} (dbType : String)
    (hsequence : column.defaultType = .sequence) :
    PostgreSQLClient.columnDefault table column = .ok (" DEFAULT " ++ "nextval('" ++
        escapeStringValue (table.name ++ "_" ++ column.name ++ "_seq") ++ "'::regclass)") ∧
      PostgreSQLColumnLister.readDefault dbType "t" ("nextval('" ++
        escapeStringValue (table.name ++ "_" ++ column.name ++ "_seq") ++ "'::regclass)") =
        (.sequence, "") := by
  set sequenceName := escapeStringValue (table.name ++ "_" ++ column.name ++ "_seq")
  have hhead : ("nextval('" ++ sequenceName).data.length = sequenceName.length + 9 := by
    simp [← String.length_data]
  have hlength : ("nextval('" ++ sequenceName ++ "'::regclass)").length =
      sequenceName.length + 21 := by
    rw [← String.length_data, String.data_append, List.length_append, hhead]
    rfl
  have hprefix : substr ("nextval('" ++ sequenceName ++ "'::regclass)") 0 9 = "nextval('" := by
    simp [String.ext_iff]
  have hsuffix : substr ("nextval('" ++ sequenceName ++ "'::regclass)")
      (sizeSub ("nextval('" ++ sequenceName ++ "'::regclass)").length 12) 12 = "'::regclass)" := by
    rw [hlength, sizeSub_of_le (by omega), String.ext_iff, substr_data, String.data_append,
      show sequenceName.length + 21 - 12 = sequenceName.length + 9 by omega, ← hhead,
      List.drop_left]
    rfl
  constructor
  · simp only [PostgreSQLClient.columnDefault, hsequence]
    rfl
  · rw [PostgreSQLColumnLister.readDefault, if_pos rfl, if_pos ⟨by omega, hprefix, hsuffix⟩]

/-- A serial `id` column of type `integer`. -/
def serialIdColumn : Column :=
  ⟨"id", false, .sequence, "", ColumnTypes.sint, 4, 0, ColumnFlags.nothing, "", "", ""⟩

/-- The default of `events.id` is `nextval('events_id_seq'::regclass)`, read back as a
sequence. -/
theorem readDefault_columnDefault_sequence_events :
    serialIdColumn.defaultType = .sequence ∧
      PostgreSQLClient.columnDefault ⟨"events", [serialIdColumn], [0], .explicitPrimaryKey, []⟩
          serialIdColumn = .ok (" DEFAULT " ++ "nextval('" ++
            escapeStringValue ("events" ++ "_" ++ "id" ++ "_seq") ++ "'::regclass)") ∧
        PostgreSQLColumnLister.readDefault "integer" "t" ("nextval('" ++
          escapeStringValue ("events" ++ "_" ++ "id" ++ "_seq") ++ "'::regclass)") =
          (.sequence, "") :=
  ⟨rfl, readDefault_columnDefault_sequence _ "integer" rfl⟩

/-- The text of a plain number, all digits and points, or of a truth value. -/
def PlainDefault (value : String) : Prop :=
  (∀ c ∈ value.data, c ∈ "0123456789.".data) ∨ value = "false" ∨ value = "true"

instance : DecidablePred PlainDefault := fun _ => inferInstanceAs (Decidable (_ ∨ _))

/-- The lister reads the text of a plain number or a truth value as that value. -/
theorem readDefault_of_plainDefault (dbType : String) {value : String}
    (hvalue : PlainDefault value) :
    PostgreSQLColumnLister.readDefault dbType "t" value = (.defaultValue, value) := by
  rcases hvalue with hdigits | rfl | rfl
  case inl =>
    -- a sequence, a `NULL::` cast and a literal all start with a character no number has
    have hfirst : ∀ {c : Char}, value.data.head? = some c → c ∈ "0123456789.".data :=
      fun h => hdigits _ (List.mem_of_mem_head? h)
    have hnotPrefix : ∀ {count : ℕ} {text : String} {c : Char}, 0 < count →
        text.data.head? = some c → c ∉ "0123456789.".data → substr value 0 count ≠ text :=
      fun hcount htext hc h => by
        have hhead := congrArg (fun s : String => s.data.head?) h
        simp only [substr_data, List.drop_zero, List.head?_take, if_neg hcount.ne', htext] at hhead
        exact hc (hfirst hhead)
    have hnotSequence : substr value 0 9 ≠ "nextval('" := hnotPrefix (by decide) rfl (by decide)
    have hnotNull : substr value 0 6 ≠ "NULL::" := hnotPrefix (by decide) rfl (by decide)
    have hnotLiteral : ¬(value.length > 2 ∧ charAt value 0 = '\x27') := fun ⟨hlength, hquote⟩ => by
      rcases hdata : value.data with _ | ⟨c, rest⟩
      · rw [← String.length_data, hdata] at hlength
        exact absurd hlength (by decide)
      · have hc : charAt value 0 = c := by simp [charAt, hdata]
        exact absurd (hfirst (by rw [hdata]; rfl)) (by rw [← hc, hquote]; decide)
    rw [PostgreSQLColumnLister.readDefault, if_pos rfl, if_neg fun h => hnotSequence h.2.1,
      if_neg fun h => hnotNull h.1, if_neg hnotLiteral,
      if_neg fun h => h.2.2.2 (findFirstNotOf_of_forall_mem hdigits)]
  all_goals rfl

/-- A plain number or truth value in a column of a type `column_default` writes unquoted is
written as it is, and the lister reads that text back as the same value. -/
theorem readDefault_columnDefault_plain (table : Table) {column : Column} (dbType : String)
    (hdefault : column.defaultType = .defaultValue)
    (htype : column.columnType ∈ [ColumnTypes.bool, ColumnTypes.sint, ColumnTypes.uint,
      ColumnTypes.real, ColumnTypes.deci])
    (hvalue : PlainDefault column.defaultValue) :
    PostgreSQLClient.columnDefault table column = .ok (" DEFAULT " ++ column.defaultValue) ∧
      PostgreSQLColumnLister.readDefault dbType "t" column.defaultValue =
        (.defaultValue, column.defaultValue) := by
  simp only [List.mem_cons, List.mem_nil_iff, or_false] at htype
  exact ⟨by simp [PostgreSQLClient.columnDefault, hdefault, htype],
    readDefault_of_plainDefault dbType hvalue⟩

/-- A `retries integer DEFAULT 3` column. -/
def retriesColumn : Column :=
  ⟨"retries", false, .defaultValue, "3", ColumnTypes.sint, 4, 0, ColumnFlags.nothing, "", "", ""⟩

/-- The default `3` of `retries` is written as it is and read back as `3`. -/
theorem readDefault_columnDefault_plain_retries :
    retriesColumn.defaultType = .defaultValue ∧
    retriesColumn.columnType ∈ [ColumnTypes.bool, ColumnTypes.sint, ColumnTypes.uint,
      ColumnTypes.real, ColumnTypes.deci] ∧
    PlainDefault retriesColumn.defaultValue ∧
    PostgreSQLClient.columnDefault ⟨"jobs", [retriesColumn], [], .noAvailableKey, []⟩
        retriesColumn = .ok (" DEFAULT " ++ retriesColumn.defaultValue) ∧
      PostgreSQLColumnLister.readDefault "integer" "t" retriesColumn.defaultValue =
        (.defaultValue, retriesColumn.defaultValue) :=
  ⟨rfl, by decide, by decide, readDefault_columnDefault_plain _ "integer" rfl (by decide) (by decide)⟩

/-! ### Default expressions -/

/-- Once the type is written, a column with a default expression makes `column_definition`
throw: `column_default` appends the expression and falls through to `default:`. -/
theorem columnDefinition_of_defaultExpression (table : Table) {column : Column}
    {typeName : String} (htype : PostgreSQLClient.columnType column = .ok typeName)
    (hdefault : column.defaultType = .defaultExpression) :
    PostgreSQLClient.columnDefinition table column =
      .error ("Don't know how to express default of " ++ column.name ++ " (3)") := by
  simp [PostgreSQLClient.columnDefinition, PostgreSQLClient.columnDefault, htype, hdefault,
    String.append_assoc]
  rfl

/-- The row PostgreSQL lists for `created_at timestamp DEFAULT CURRENT_TIMESTAMP`. -/
def createdAtRow : ColumnRow :=
  ⟨"created_at", "timestamp without time zone", "f", "t", "now()"⟩

/-- The lister reads `created_at` as a timestamp with the default expression
`CURRENT_TIMESTAMP`, and `column_definition` then throws for it on any table. -/
theorem columnDefinition_throws_for_listed_default_expression (table : Table) :
    (PostgreSQLColumnLister.column createdAtRow).columnType = ColumnTypes.dttm ∧
    (PostgreSQLColumnLister.column createdAtRow).defaultType = .defaultExpression ∧
    (PostgreSQLColumnLister.column createdAtRow).defaultValue = "CURRENT_TIMESTAMP" ∧
    PostgreSQLClient.columnDefinition table (PostgreSQLColumnLister.column createdAtRow) =
      .error "Don't know how to express default of created_at (3)" :=
  ⟨rfl, rfl, rfl, columnDefinition_of_defaultExpression table rfl rfl⟩

/-! ### When `column_definition` returns -/

/-- `column_type` throws for an unknown type. -/
theorem columnType_ne_ok_of_unkn {column : Column} (hunknown : column.columnType = ColumnTypes.unkn)
    (typeName : String) : PostgreSQLClient.columnType column ≠ .ok typeName := by
  simp [PostgreSQLClient.columnType, hunknown, ColumnTypes.unkn, ColumnTypes.time,
    ColumnTypes.blob, ColumnTypes.text, ColumnTypes.vchr, ColumnTypes.fchr, ColumnTypes.uuid,
    ColumnTypes.bool, ColumnTypes.sint, ColumnTypes.real, ColumnTypes.deci, ColumnTypes.date,
    ColumnTypes.dttm, ColumnTypes.spat]

/-- `column_default` returns for every default but an expression and a literal of a spatial
column too short for its SRID prefix. -/
theorem exists_columnDefault_eq_ok_iff (table : Table) (column : Column) :
    (∃ default, PostgreSQLClient.columnDefault table column = .ok default) ↔
      column.defaultType ≠ .defaultExpression ∧
      (column.defaultType = .defaultValue → column.columnType = ColumnTypes.spat →
        4 ≤ column.defaultValue.length) := by
  obtain ⟨name, nullable, defaultType, defaultValue, columnType, _, _, _, _, _, _⟩ := column
  cases defaultType
  case defaultValue =>
    by_cases hspatial : columnType = ColumnTypes.spat
    · subst hspatial
      simp [PostgreSQLClient.columnDefault, appendEscapedColumnValueTo,
        appendEscapedSpatialValueTo, ColumnTypes.spat, ColumnTypes.blob, ColumnTypes.bool,
        ColumnTypes.sint, ColumnTypes.uint, ColumnTypes.real, ColumnTypes.deci]
      split <;> simp <;> omega
    · simp only [PostgreSQLClient.columnDefault, appendEscapedColumnValueTo, if_neg hspatial]
      split_ifs <;> simp [hspatial]
  all_goals simp [PostgreSQLClient.columnDefault]

/-- `column_definition` returns exactly when `column_type` and `column_default` both do: the
default is written only for a column that has one, and `column_default` returns for a column
without one as well. -/
theorem exists_columnDefinition_eq_ok_iff_and (table : Table) (column : Column) :
    (∃ fragment, PostgreSQLClient.columnDefinition table column = .ok fragment) ↔
      (∃ typeName, PostgreSQLClient.columnType column = .ok typeName) ∧
        ∃ default, PostgreSQLClient.columnDefault table column = .ok default := by
  constructor
  · rintro ⟨fragment, hfragment⟩
    simp only [PostgreSQLClient.columnDefinition] at hfragment
    rcases htype : PostgreSQLClient.columnType column with _ | typeName
    · simp [htype] at hfragment
    refine ⟨⟨typeName, rfl⟩, ?_⟩
    by_cases hnoDefault : column.defaultType = .noDefault
    · exact ⟨" DEFAULT NULL", by simp [PostgreSQLClient.columnDefault, hnoDefault]⟩
    rcases hdefault : PostgreSQLClient.columnDefault table column with _ | default
    · simp [htype, hnoDefault, hdefault] at hfragment
    · exact ⟨default, rfl⟩
  · rintro ⟨⟨typeName, htype⟩, default, hdefault⟩
    simp only [PostgreSQLClient.columnDefinition, htype, hdefault, except_ok_bind]
    split_ifs <;> exact ⟨_, rfl⟩

/-- For every row the lister reads, `column_definition` returns exactly when the column's
type is known, its default is no expression, and a literal default of a spatial column has
the four bytes of its SRID prefix. -/
theorem exists_columnDefinition_eq_ok_iff (table : Table) (row : ColumnRow) :
    (∃ fragment, PostgreSQLClient.columnDefinition table (PostgreSQLColumnLister.column row) =
        .ok fragment) ↔
      (PostgreSQLColumnLister.column row).columnType ≠ ColumnTypes.unkn ∧
      (PostgreSQLColumnLister.column row).defaultType ≠ .defaultExpression ∧
      ((PostgreSQLColumnLister.column row).defaultType = .defaultValue →
        (PostgreSQLColumnLister.column row).columnType = ColumnTypes.spat →
        4 ≤ (PostgreSQLColumnLister.column row).defaultValue.length) := by
  have hknown : (PostgreSQLColumnLister.column row).columnType ≠ ColumnTypes.unkn →
      ∃ typeName, PostgreSQLClient.columnType (PostgreSQLColumnLister.column row) =
        .ok typeName := fun hknown =>
    let ⟨typeName, hwritten, _⟩ :=
      columnType_writes row.formatType (PostgreSQLColumnLister.column row) rfl hknown
    ⟨typeName, hwritten⟩
  rw [← exists_columnDefault_eq_ok_iff table]
  generalize PostgreSQLColumnLister.column row = column at hknown ⊢
  have hnoDefault : column.defaultType = .noDefault →
      PostgreSQLClient.columnDefault table column = .ok " DEFAULT NULL" := fun h => by
    simp [PostgreSQLClient.columnDefault, h]
  constructor
  · rintro ⟨fragment, hfragment⟩
    simp only [PostgreSQLClient.columnDefinition] at hfragment
    rcases htype : PostgreSQLClient.columnType column with _ | typeName
    · simp [htype] at hfragment
    refine ⟨fun hunknown => columnType_ne_ok_of_unkn hunknown typeName htype, ?_⟩
    by_cases hdefault : column.defaultType = .noDefault
    · exact ⟨_, hnoDefault hdefault⟩
    rcases hdefaultResult : PostgreSQLClient.columnDefault table column with _ | default
    · simp [htype, hdefault, hdefaultResult] at hfragment
    · exact ⟨default, rfl⟩
  · rintro ⟨hunknown, default, hdefault⟩
    obtain ⟨typeName, htype⟩ := hknown hunknown
    simp only [PostgreSQLClient.columnDefinition, htype, hdefault, except_ok_bind]
    split_ifs <;> exact ⟨_, rfl⟩

end KitchenSync
