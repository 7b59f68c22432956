import KitchenSync.PostgreSQL.ColumnLister
import KitchenSync.PostgreSQL.ColumnDefinition
import Mathlib.Data.Nat.Digits

/-!
# Column types read back from their DDL

The lister reads a `format_type` text as a canonical column: a column type with its
size, scale, flags, type restriction and reference system. `column_type` writes a
column back as a PostgreSQL type name. For every text the lister recognises, the name
written for its canonical column is read as the same canonical column, except for a
`numeric(0,s)` with a non-zero scale, which is written as an unsized `numeric`.
-/

namespace KitchenSync

open PostgreSQLColumnLister

/-! ### Decimal numerals

`to_string` writes a size in decimal, and the lister's number reader reads it back. -/

/-- One step of `readNumber`. -/
def digitStep (n : ℕ) (c : Char) : ℕ := 10 * n + (c.toNat - '0'.toNat)

/-- A decimal digit is written as a digit character standing for it. -/
theorem digitChar_isDigit_and_value : ∀ d < 10,
    (Nat.digitChar d).isDigit = true ∧ (Nat.digitChar d).toNat - '0'.toNat = d := by
  decide

/-- Reading the digits `toDigitsCore` prepends to `ds` starts from the number they
stand for. -/
theorem foldl_digitStep_toDigitsCore (fuel n : ℕ) (ds : List Char) (hfuel : n < fuel) :
    (Nat.toDigitsCore 10 fuel n ds).foldl digitStep 0 = ds.foldl digitStep n := by
  induction fuel generalizing n ds with
  | zero => omega
  | succ fuel ih =>
    have hdigit := (digitChar_isDigit_and_value (n % 10) (Nat.mod_lt _ (by omega))).2
    by_cases hn : n / 10 = 0
    · rw [Nat.toDigitsCore, if_pos hn, List.foldl_cons, digitStep, hdigit, Nat.mul_zero,
        Nat.zero_add, Nat.mod_eq_of_lt (by omega)]
    · rw [Nat.toDigitsCore, if_neg hn, ih _ _ (by omega), List.foldl_cons, digitStep, hdigit,
        Nat.div_add_mod]

/-- `toDigitsCore` prepends only digits. -/
theorem isDigit_of_mem_toDigitsCore (fuel n : ℕ) {ds : List Char}
    (hds : ∀ c ∈ ds, c.isDigit = true) : ∀ c ∈ Nat.toDigitsCore 10 fuel n ds, c.isDigit = true := by
  induction fuel generalizing n ds with
  | zero => exact hds
  | succ fuel ih =>
    have hdigit := (digitChar_isDigit_and_value (n % 10) (Nat.mod_lt _ (by omega))).1
    have hcons : ∀ c ∈ Nat.digitChar (n % 10) :: ds, c.isDigit = true := by
      simpa [hdigit] using hds
    rw [Nat.toDigitsCore]
    split
    · exact hcons
    · exact ih _ hcons

/-- A number written by `to_string` is all digits. -/
theorem isDigit_of_mem_toString {n : ℕ} : ∀ c ∈ (toString n).data, c.isDigit = true :=
  isDigit_of_mem_toDigitsCore _ _ (by simp)

/-- A number written by `to_string` and followed by a non-digit reads back as itself. -/
theorem readNumber_toString (n : ℕ) {c : Char} (rest : List Char) (hc : c.isDigit = false) :
    readNumber ((toString n).data ++ c :: rest) = n := by
  rw [readNumber, List.takeWhile_append_of_pos isDigit_of_mem_toString,
    List.takeWhile_cons_of_neg (by simp [hc]), List.append_nil]
  exact foldl_digitStep_toDigitsCore _ _ _ (by omega)

/-- The search for the scale's comma passes over a written number. -/
theorem dropWhile_toString (n : ℕ) (rest : List Char) :
    ((toString n).data ++ rest).dropWhile (fun c => !decide (c = ',')) =
      rest.dropWhile (fun c => !decide (c = ',')) :=
  List.dropWhile_append_of_pos fun c hc => by
    have hne : c ≠ ',' := fun hEq => absurd (isDigit_of_mem_toString c hc) (by simp [hEq])
    simp [hne]

/-! ### Spatial type restrictions -/

/-- What the spatial reader returns: lower-case texts and a type restriction in which the
comma search finds nothing; beside a reference system, a restriction other than `geometry`
with no comma, and a reference system that `substr` keeps whole. -/
structure SpatialRead (typeRestriction referenceSystem : String) : Prop where
  lower_typeRestriction : toLower typeRestriction = typeRestriction
  lower_referenceSystem : toLower referenceSystem = referenceSystem
  find_typeRestriction : find typeRestriction ',' = npos
  with_referenceSystem : referenceSystem ≠ "" →
    ',' ∉ typeRestriction.data ∧ typeRestriction.length ≠ npos ∧
      typeRestriction ≠ "geometry" ∧ referenceSystem.length ≤ npos

/-- A list holding `c` splits at the first `c`. -/
private theorem exists_first_split {c : Char} : ∀ {l : List Char}, c ∈ l →
    ∃ before after, l = before ++ c :: after ∧ c ∉ before
  | x :: rest, h => by
    by_cases hx : x = c
    · exact ⟨[], rest, by rw [hx]; rfl, List.not_mem_nil c⟩
    · obtain ⟨before, after, rfl, hbefore⟩ := exists_first_split ((List.mem_cons.mp h).resolve_left
        (Ne.symm hx))
      exact ⟨x :: before, after, rfl, by simp [hbefore, Ne.symm hx]⟩

/-- What the spatial reader returns satisfies `SpatialRead`. -/
theorem spatialRead_extract (typeRestriction : String) :
    SpatialRead (extractSpatialTypeRestrictionAndReferenceSystem typeRestriction).1
      (extractSpatialTypeRestrictionAndReferenceSystem typeRestriction).2 := by
  simp only [extractSpatialTypeRestrictionAndReferenceSystem]
  have hlower := toLower_toLower typeRestriction
  generalize toLower typeRestriction = low at hlower ⊢
  split_ifs with hfound hgeometry
  · exact ⟨hlower, rfl, hfound, fun h => absurd rfl h⟩
  · obtain ⟨before, after, hlow, hbefore⟩ :=
      exists_first_split (by_contra fun h => hfound (find_of_not_mem h) : ',' ∈ low.data)
    exact ⟨rfl, toLower_substr hlower _ _, rfl, fun _ => ⟨List.not_mem_nil _, by simp [npos],
      by simp, substr_length_le _ _ _⟩⟩
  · obtain ⟨before, after, hlow, hbefore⟩ :=
      exists_first_split (by_contra fun h => hfound (find_of_not_mem h) : ',' ∈ low.data)
    have hfind : find low ',' = before.length := by
      rw [show low = ⟨before ++ ',' :: after⟩ from String.ext hlow]
      exact find_of_not_mem_before hbefore
    have hhead : substr low 0 (find low ',') = ⟨before⟩ := by
      simp [String.ext_iff, hfind, hlow]
    rw [hhead] at hgeometry ⊢
    refine ⟨?_, toLower_substr hlower _ _, find_of_not_mem hbefore, fun _ =>
      ⟨hbefore, hfind ▸ hfound, hgeometry, substr_length_le _ _ _⟩⟩
    simpa [hhead] using toLower_substr hlower 0 (find low ',')

/-- Without a comma, the spatial reader keeps a lower-case text as it is. -/
theorem extract_of_find_eq_npos {typeRestriction : String}
    (hlower : toLower typeRestriction = typeRestriction) (hfind : find typeRestriction ',' = npos) :
    extractSpatialTypeRestrictionAndReferenceSystem typeRestriction = (typeRestriction, "") := by
  simp [extractSpatialTypeRestrictionAndReferenceSystem, hlower, hfind]

/-- The spatial reader splits `t,r` at the comma and clears a `geometry` restriction. -/
theorem extract_append_comma {typeRestriction referenceSystem : String}
    (hlowerType : toLower typeRestriction = typeRestriction)
    (hlowerReference : toLower referenceSystem = referenceSystem)
    (hcomma : ',' ∉ typeRestriction.data) (hlength : typeRestriction.length ≠ npos)
    (hreference : referenceSystem.length ≤ npos) :
    extractSpatialTypeRestrictionAndReferenceSystem (typeRestriction ++ "," ++ referenceSystem) =
      (if typeRestriction = "geometry" then "" else typeRestriction, referenceSystem) := by
  have hdata : (typeRestriction ++ "," ++ referenceSystem).data =
      typeRestriction.data ++ ',' :: referenceSystem.data := by simp
  have hfind : find (typeRestriction ++ "," ++ referenceSystem) ',' = typeRestriction.length := by
    rw [String.ext_iff.mpr hdata, find_of_not_mem_before hcomma, String.length_data]
  have hlower : toLower (typeRestriction ++ "," ++ referenceSystem) =
      typeRestriction ++ "," ++ referenceSystem := by
    rw [toLower_append, toLower_append, hlowerType, hlowerReference]
    rfl
  have hhead : substr (typeRestriction ++ "," ++ referenceSystem) 0 typeRestriction.length =
      typeRestriction := by
    simp [String.ext_iff, hdata, ← String.length_data]
  have hsuffix : substr (typeRestriction ++ "," ++ referenceSystem) (typeRestriction.length + 1)
      npos = referenceSystem := by
    have hreference' : referenceSystem.data.length ≤ npos := by rwa [String.length_data]
    simp [String.ext_iff, hdata, ← String.length_data, List.take_of_length_le, hreference']
  simp only [extractSpatialTypeRestrictionAndReferenceSystem, hlower, hfind, if_neg hlength,
    hhead, hsuffix]

/-! ### What the lister reads a text as -/

/-- The canonical column the lister reads a `format_type` text as: column type, size,
scale, flags, type restriction and reference system; the raw text it keeps for an
unknown type is left out. -/
def classify (dbType : String) : ColumnTypeArgs := { typeArgs dbType with dbTypeDef := "" }

/-- The canonical column a column carries. -/
def Column.canonicalType (column : Column) : ColumnTypeArgs :=
  { columnType := column.columnType, size := column.size, scale := column.scale,
    flags := column.flags, typeRestriction := column.typeRestriction,
    referenceSystem := column.referenceSystem }

/-- The type names of the columns the lister reads with no size or restriction. -/
def fixedTypeNames : List String :=
  ["boolean", "smallint", "integer", "bigint", "real", "double precision", "numeric",
    "character varying", "text", "bytea", "uuid", "date", "time without time zone",
    "time with time zone", "timestamp without time zone", "timestamp with time zone", "geometry"]

/-- Each text the lister reads is read as one of the fixed type names, as a sized
`numeric`, `character varying` or `character`, as a spatial type, or as unknown. -/
theorem typeArgs_cases (dbType : String) :
    (∃ typeName ∈ fixedTypeNames, typeArgs dbType = typeArgs typeName) ∨
    (substr dbType 0 8 = "numeric(" ∧ typeArgs dbType =
      { columnType := ColumnTypes.deci, size := extractColumnLength dbType,
        scale := extractColumnScale dbType }) ∨
    (∃ length, typeArgs dbType = { columnType := ColumnTypes.vchr, size := length }) ∨
    (∃ length, typeArgs dbType = { columnType := ColumnTypes.fchr, size := length }) ∨
    (∃ restriction reference, SpatialRead restriction reference ∧ typeArgs dbType =
      { columnType := ColumnTypes.spat, typeRestriction := restriction,
        referenceSystem := reference }) ∨
    typeArgs dbType = { columnType := ColumnTypes.unkn, dbTypeDef := dbType } := by
  generalize hargs : typeArgs dbType = args
  rw [typeArgs] at hargs
  simp only [ite_eq_iff] at hargs
  repeat' rcases hargs with ⟨h, rfl⟩ | ⟨-, hargs⟩
  -- the cases in the order of the source's chain
  iterate 6 exact .inl ⟨dbType, by rw [h]; decide, by rw [h]; rfl⟩
  · exact .inr (.inl ⟨h, rfl⟩)
  · exact .inl ⟨"numeric", by decide, rfl⟩
  · exact .inr (.inr (.inl ⟨_, rfl⟩))
  · exact .inl ⟨"character varying", by decide, rfl⟩
  · exact .inr (.inr (.inr (.inl ⟨_, rfl⟩)))
  iterate 9 exact .inl ⟨dbType, by rw [h]; decide, by rw [h]; rfl⟩
  · exact .inr (.inr (.inr (.inr (.inl ⟨_, _, spatialRead_extract _, rfl⟩))))
  · exact .inr (.inr (.inr (.inr (.inr rfl))))

/-! ### The names `column_type` writes, read again -/

/-- `numeric(p,s)` is read back as a decimal of precision `p` and scale `s`. -/
theorem typeArgs_numeric (precision scale : ℕ) :
    typeArgs ("numeric(" ++ toString precision ++ "," ++ toString scale ++ ")") =
      { columnType := ColumnTypes.deci, size := precision, scale := scale } := by
  simp [typeArgs, String.ext_iff, extractColumnLength, extractColumnScale, dropWhile_toString,
    readNumber_toString _ _ (by decide : ','.isDigit = false),
    readNumber_toString _ _ (by decide : ')'.isDigit = false)]

/-- `character varying(n)` is read back as a variable-length text of length `n`. -/
theorem typeArgs_characterVarying (length : ℕ) :
    typeArgs ("character varying" ++ ("(" ++ toString length ++ ")")) =
      { columnType := ColumnTypes.vchr, size := length } := by
  simp [typeArgs, String.ext_iff, extractColumnLength,
    readNumber_toString _ _ (by decide : ')'.isDigit = false)]

/-- `character(n)` is read back as a fixed-length text of length `n`. -/
theorem typeArgs_character (length : ℕ) :
    typeArgs ("character(" ++ toString length ++ ")") =
      { columnType := ColumnTypes.fchr, size := length } := by
  simp [typeArgs, String.ext_iff, extractColumnLength,
    readNumber_toString _ _ (by decide : ')'.isDigit = false)]

/-- `geometry(...)` is read back as a spatial column, with what the spatial reader makes of
the text between the brackets. -/
theorem typeArgs_geometry (inner : String) :
    typeArgs ("geometry" ++ ("(" ++ inner ++ ")")) =
      { columnType := ColumnTypes.spat,
        typeRestriction := (extractSpatialTypeRestrictionAndReferenceSystem inner).1,
        referenceSystem := (extractSpatialTypeRestrictionAndReferenceSystem inner).2 } := by
  have hinner : substr ("geometry" ++ ("(" ++ inner ++ ")")) 9
      (sizeSub ("geometry" ++ ("(" ++ inner ++ ")")).length 10) = inner := by
    simp [String.ext_iff, ← String.length_data]
  simp [typeArgs, String.ext_iff, hinner, -String.length_append]

/-- The name written for a spatial column is read back with the column's type restriction
and reference system. -/
theorem typeArgs_spatialTypeName {restriction reference : String}
    (hread : SpatialRead restriction reference) :
    typeArgs ("geometry" ++
        if reference ≠ "" then
          "(" ++ (if restriction = "" then "geometry" else restriction) ++ "," ++ reference ++ ")"
        else if restriction ≠ "" then "(" ++ restriction ++ ")"
        else "") =
      { columnType := ColumnTypes.spat, typeRestriction := restriction,
        referenceSystem := reference } := by
  by_cases hreference : reference = ""
  case neg =>
    -- both are written, a cleared restriction as `geometry`
    obtain ⟨hcomma, hlength, hgeometry, hreferenceLength⟩ := hread.with_referenceSystem hreference
    have hwritten : "(" ++ (if restriction = "" then "geometry" else restriction) ++ "," ++
        reference ++ ")" =
        "(" ++ ((if restriction = "" then "geometry" else restriction) ++ "," ++ reference) ++
          ")" := by
      simp only [String.append_assoc]
    rw [if_pos hreference, hwritten, typeArgs_geometry]
    by_cases hempty : restriction = ""
    · rw [if_pos hempty, extract_append_comma rfl hread.lower_referenceSystem (by decide)
        (by decide) hreferenceLength, hempty]
      rfl
    · rw [if_neg hempty, extract_append_comma hread.lower_typeRestriction
        hread.lower_referenceSystem hcomma hlength hreferenceLength, if_neg hgeometry]
  case pos =>
    by_cases hempty : restriction = ""
    · subst hreference hempty
      rfl
    · -- only the restriction is written
      rw [if_neg (not_not.mpr hreference), if_pos hempty, typeArgs_geometry,
        extract_of_find_eq_npos hread.lower_typeRestriction hread.find_typeRestriction, hreference]

/-! ### The round trip -/

/-- `column_type` writes every column type the lister reads, as a name the lister reads
back as the same canonical column unless it is an unsized `numeric` with a scale. -/
theorem columnType_writes (dbType : String) (column : Column)
    (hcarries : column.canonicalType = classify dbType)
    (hknown : (classify dbType).columnType ≠ ColumnTypes.unkn) :
    ∃ typeName, PostgreSQLClient.columnType column = .ok typeName ∧
      ((substr dbType 0 8 = "numeric(" → extractColumnLength dbType = 0 →
        extractColumnScale dbType = 0) → classify typeName = classify dbType) := by
  obtain ⟨name, nullable, defaultType, defaultValue, _, _, _, _, _, _, dbTypeDef⟩ := column
  simp only [Column.canonicalType, classify, ColumnTypeArgs.mk.injEq, and_true] at hcarries
  obtain ⟨rfl, rfl, rfl, rfl, rfl, rfl⟩ := hcarries
  have hclassify : ∀ typeName, typeArgs typeName = typeArgs dbType →
      classify typeName = classify dbType := fun _ h => by rw [classify, classify, h]
  rcases typeArgs_cases dbType with ⟨typeName, hmem, h⟩ | ⟨hhead, h⟩ | ⟨length, h⟩ |
    ⟨length, h⟩ | ⟨restriction, reference, hread, h⟩ | h <;> rw [h]
  · -- a fixed name is written as itself
    simp only [fixedTypeNames, List.mem_cons, List.mem_nil_iff, or_false] at hmem
    rcases hmem with rfl | rfl | rfl | rfl | rfl | rfl | rfl | rfl | rfl | rfl | rfl | rfl |
      rfl | rfl | rfl | rfl | rfl <;>
    -- the time types test the flags, which `rfl` computes only once the column is taken apart
    exact ⟨_, by
      first
        | rfl
        | (rw [PostgreSQLClient.columnType_time rfl]; dsimp only; rfl)
        | (rw [PostgreSQLClient.columnType_dttm rfl]; dsimp only; rfl),
      fun _ => hclassify _ h.symm⟩
  · -- `numeric(p,s)`, unsized when `p = 0`
    refine ⟨_, rfl, fun hnumeric => hclassify _ ?_⟩
    by_cases hlength : extractColumnLength dbType = 0
    · rw [if_neg (not_not.mpr hlength), h, hlength, hnumeric hhead hlength]
      rfl
    · rw [if_pos hlength, typeArgs_numeric, h]
  · -- `character varying(n)`, unsized when `n = 0`
    refine ⟨_, rfl, fun _ => hclassify _ ?_⟩
    by_cases hlength : length > 0
    · rw [if_pos hlength, typeArgs_characterVarying, h]
    · rw [if_neg hlength, String.append_empty, h, Nat.eq_zero_of_not_pos hlength]
      rfl
  · -- `character(n)`
    exact ⟨_, rfl, fun _ => hclassify _ (by rw [typeArgs_character, h])⟩
  · -- `geometry(...)`
    exact ⟨_, rfl, fun _ => hclassify _ (by rw [typeArgs_spatialTypeName hread, h])⟩
  · exact absurd (by rw [classify, h]) hknown

/-- Every column type the lister reads is written by `column_type` as a name that the
lister reads as the same canonical column; the one exception is a `numeric(0,s)` with
`s ≠ 0`, whose scale the unsized `numeric` drops. -/
theorem columnType_classify (dbType : String) (column : Column)
    (hcarries : column.canonicalType = classify dbType)
    (hknown : (classify dbType).columnType ≠ ColumnTypes.unkn)
    (hnumeric : substr dbType 0 8 = "numeric(" → extractColumnLength dbType = 0 →
      extractColumnScale dbType = 0) :
    ∃ typeName, PostgreSQLClient.columnType column = .ok typeName ∧
      classify typeName = classify dbType :=
  let ⟨typeName, hwritten, hread⟩ := columnType_writes dbType column hcarries hknown
  ⟨typeName, hwritten, hread hnumeric⟩

/-- `numeric(10,2)` as the lister reads it. -/
theorem columnType_classify_numeric :
    (PostgreSQLColumnLister.column ⟨"price", "numeric(10,2)", "f", "f", ""⟩).canonicalType =
      classify "numeric(10,2)" ∧
    (classify "numeric(10,2)").columnType ≠ ColumnTypes.unkn ∧
    (substr "numeric(10,2)" 0 8 = "numeric(" → extractColumnLength "numeric(10,2)" = 0 →
      extractColumnScale "numeric(10,2)" = 0) ∧
    ∃ typeName, PostgreSQLClient.columnType
        (PostgreSQLColumnLister.column ⟨"price", "numeric(10,2)", "f", "f", ""⟩) = .ok typeName ∧
      classify typeName = classify "numeric(10,2)" :=
  ⟨rfl, by decide, by decide,
    columnType_classify "numeric(10,2)" _ rfl (by decide) (by decide)⟩

end KitchenSync
