import Mathlib.Data.Finset.Basic
import Mathlib.Data.List.GetD

/-!
# How result columns are decoded

`PostgreSQLRes` chooses one `PostgreSQLColumnConversion` per result column from the
column's type OID: the built-in boolean, integer, `bytea`, `char` and `text` types by a
fixed switch, and any other type as geometry exactly when its OID is in the client's
`TypeMap`. `populate_database_schema` fills that map from the type query, one OID per row
named `geometry`. The conversions of a result are computed on the first `conversion_for`
and kept; as long as the map does not change, every call returns the conversion of its
column's type.
-/

namespace KitchenSync

/-- `PostgreSQLColumnConversion`: how `pack_column_into` encodes a field. -/
inductive PostgreSQLColumnConversion where
  | encodeRaw
  | encodeBool
  | encodeSint
  | encodeBytea
  | encodeGeom
  deriving DecidableEq, Repr

/-- `TypeMap`: the OIDs the `geometry` type has in the current schemas. -/
structure TypeMap where
  geometry : Finset ℕ
  deriving DecidableEq

/-- A row of the type query: the value `uint_at(0)` returns for `pg_type.oid`, and
`typname`. -/
structure TypeRow where
  oid : ℕ
  typname : String
  deriving DecidableEq, Repr

/-! The OIDs of `pg_type.h` that the source defines. -/

/-- `BOOLOID`. -/
def boolOid : ℕ := 16
/-- `BYTEAOID`. -/
def byteaOid : ℕ := 17
/-- `CHAROID`. -/
def charOid : ℕ := 18
/-- `INT8OID`. -/
def int8Oid : ℕ := 20
/-- `INT2OID`. -/
def int2Oid : ℕ := 21
/-- `INT4OID`. -/
def int4Oid : ℕ := 23
/-- `TEXTOID`. -/
def textOid : ℕ := 25

/-- The OIDs the switch of `conversion_for_type` names. -/
def builtinOids : List ℕ := [boolOid, int2Oid, int4Oid, int8Oid, byteaOid, charOid, textOid]

namespace PostgreSQLRes

/-- `PostgreSQLRes::conversion_for_type`: the switch on the built-in OIDs, and for any
other type `encode_geom` when the map lists it as geometry. -/
def conversionForType (typeMap : TypeMap) (typid : ℕ) : PostgreSQLColumnConversion :=
  if typid = boolOid then .encodeBool
  else if typid = int2Oid ∨ typid = int4Oid ∨ typid = int8Oid then .encodeSint
  else if typid = byteaOid then .encodeBytea
  else if typid = charOid ∨ typid = textOid then .encodeRaw
  else if typid ∈ typeMap.geometry then .encodeGeom
  else .encodeRaw

/-- `PostgreSQLRes::populate_conversions`: one conversion per result column, from the
`PQftype` of each column. -/
def populateConversions (typeMap : TypeMap) (columnTypes : List ℕ) :
    List PostgreSQLColumnConversion :=
  columnTypes.map (conversionForType typeMap)

/-- `PostgreSQLRes::conversion_for`: the kept conversions, computed first when there are
none, and the one at `column_number`. Past the last column the source reads outside the
vector; the model returns `encode_raw` there. -/
def conversionFor (typeMap : TypeMap) (columnTypes : List ℕ)
    (conversions : List PostgreSQLColumnConversion) (columnNumber : ℕ) :
    List PostgreSQLColumnConversion × PostgreSQLColumnConversion :=
  let conversions :=
    if conversions.isEmpty then populateConversions typeMap columnTypes else conversions
  (conversions, conversions.getD columnNumber .encodeRaw)

/-- A run of `conversion_for` calls on one result: what each call returns, in order. -/
def conversionsFor (typeMap : TypeMap) (columnTypes : List ℕ) :
    List PostgreSQLColumnConversion → List ℕ → List PostgreSQLColumnConversion
  | _, [] => []
  | conversions, columnNumber :: columnNumbers =>
    let step := conversionFor typeMap columnTypes conversions columnNumber
    step.2 :: conversionsFor typeMap columnTypes step.1 columnNumbers

end PostgreSQLRes

namespace PostgreSQLTypeMapCollector

/-- `operator()`: a row named `geometry` adds its OID, cut to the `uint32_t` it is stored
in. -/
def apply (typeMap : TypeMap) (row : TypeRow) : TypeMap :=
  if row.typname = "geometry" then ⟨insert (row.oid % 2 ^ 32) typeMap.geometry⟩ else typeMap

end PostgreSQLTypeMapCollector

/-- The type query of `PostgreSQLClient::populate_database_schema`: the collector over its
rows, from the client's map. -/
def PostgreSQLClient.collectTypeMap (typeMap : TypeMap) (rows : List TypeRow) : TypeMap :=
  rows.foldl PostgreSQLTypeMapCollector.apply typeMap

open PostgreSQLRes

/-! ### The type map -/

/-- The run of the collector: the map gains the OIDs of the rows named `geometry`, and
nothing else. -/
theorem mem_collectTypeMap_geometry (typeMap : TypeMap) (rows : List TypeRow) (typid : ℕ) :
    typid ∈ (PostgreSQLClient.collectTypeMap typeMap rows).geometry ↔
      typid ∈ typeMap.geometry ∨ ∃ row ∈ rows, row.typname = "geometry" ∧ row.oid % 2 ^ 32 = typid := by
  induction rows generalizing typeMap with
  | nil => simp [PostgreSQLClient.collectTypeMap]
  | cons row rows ih =>
    rw [PostgreSQLClient.collectTypeMap, List.foldl_cons, ← PostgreSQLClient.collectTypeMap, ih]
    by_cases hgeometry : row.typname = "geometry"
    · rw [PostgreSQLTypeMapCollector.apply, if_pos hgeometry]
      simp only [Finset.mem_insert, List.mem_cons, exists_eq_or_imp, hgeometry, true_and,
        @eq_comm _ typid]
      exact or_assoc.trans or_left_comm
    · simp [PostgreSQLTypeMapCollector.apply, hgeometry]

/-! ### The conversion of a type -/

/-- For a type that none of the switch's cases names, the map decides. -/
theorem conversionForType_of_not_mem_builtinOids (typeMap : TypeMap) {typid : ℕ}
    (hbuiltin : typid ∉ builtinOids) :
    conversionForType typeMap typid = if typid ∈ typeMap.geometry then .encodeGeom else .encodeRaw := by
  simp only [builtinOids, List.mem_cons, List.mem_nil_iff, or_false, not_or] at hbuiltin
  obtain ⟨hbool, hint2, hint4, hint8, hbytea, hchar, htext⟩ := hbuiltin
  simp only [conversionForType, hbool, hint2, hint4, hint8, hbytea, hchar, htext, or_self, if_false]

/-- A type is decoded as geometry exactly when it is none of the built-in types of the switch
and the map lists it. -/
theorem conversionForType_eq_encodeGeom_iff (typeMap : TypeMap) (typid : ℕ) :
    conversionForType typeMap typid = .encodeGeom ↔ typid ∉ builtinOids ∧ typid ∈ typeMap.geometry := by
  by_cases hbuiltin : typid ∈ builtinOids
  · -- the switch decides a built-in type before the map is read
    have hne : conversionForType typeMap typid ≠ .encodeGeom := by
      simp only [builtinOids, List.mem_cons, List.mem_nil_iff, or_false] at hbuiltin
      rcases hbuiltin with rfl | rfl | rfl | rfl | rfl | rfl | rfl <;> nofun
    exact iff_of_false hne fun h => h.1 hbuiltin
  · rw [conversionForType_of_not_mem_builtinOids typeMap hbuiltin]
    split_ifs with hmem <;> simp [hbuiltin, hmem]

/-! ### The kept conversions -/

section Run

variable (typeMap : TypeMap) (columnTypes : List ℕ)

/-- What `PostgreSQLRes` keeps: no conversions yet, or those of its columns under the map. -/
def ConversionsKept (conversions : List PostgreSQLColumnConversion) : Prop :=
  conversions = [] ∨ conversions = populateConversions typeMap columnTypes

/-- One call keeps the conversions of the columns, and returns the one of its column. -/
theorem conversionFor_step {conversions : List PostgreSQLColumnConversion}
    (hkept : ConversionsKept typeMap columnTypes conversions) (columnNumber : ℕ) :
    ConversionsKept typeMap columnTypes (conversionFor typeMap columnTypes conversions columnNumber).1 ∧
      (conversionFor typeMap columnTypes conversions columnNumber).2 =
        (populateConversions typeMap columnTypes).getD columnNumber .encodeRaw := by
  rcases hkept with rfl | rfl
  · exact ⟨.inr rfl, rfl⟩
  · -- kept conversions are those computed again
    have hkept : conversionFor typeMap columnTypes (populateConversions typeMap columnTypes)
        columnNumber = (populateConversions typeMap columnTypes,
          (populateConversions typeMap columnTypes).getD columnNumber .encodeRaw) := by
      simp only [conversionFor, ite_self]
    rw [hkept]
    exact ⟨.inr rfl, rfl⟩

/-- Every call of a run returns the conversion of its column. -/
theorem conversionsFor_eq_map {conversions : List PostgreSQLColumnConversion}
    (hkept : ConversionsKept typeMap columnTypes conversions) (columnNumbers : List ℕ) :
    conversionsFor typeMap columnTypes conversions columnNumbers =
      columnNumbers.map fun columnNumber =>
        (populateConversions typeMap columnTypes).getD columnNumber .encodeRaw := by
  induction columnNumbers generalizing conversions with
  | nil => rfl
  | cons columnNumber columnNumbers ih =>
    obtain ⟨hkept', hvalue⟩ := conversionFor_step typeMap columnTypes hkept columnNumber
    rw [conversionsFor, List.map_cons, hvalue, ih hkept']

end Run

/-- **Decoding after introspection.** Once the type query has filled the client's map, every
`conversion_for` a result answers, for a column it has, is the conversion of that column's
type: geometry exactly when the type is no built-in type of the switch and is in the map
before the query or is the OID of a row the query named `geometry`. -/
theorem conversionsFor_collectTypeMap (typeMap : TypeMap) (rows : List TypeRow)
    (columnTypes columnNumbers : List ℕ)
    (hcolumns : ∀ columnNumber ∈ columnNumbers, columnNumber < columnTypes.length) :
    conversionsFor (PostgreSQLClient.collectTypeMap typeMap rows) columnTypes [] columnNumbers =
        columnNumbers.map (fun columnNumber => conversionForType
          (PostgreSQLClient.collectTypeMap typeMap rows) (columnTypes.getD columnNumber 0)) ∧
      ∀ typid, conversionForType (PostgreSQLClient.collectTypeMap typeMap rows) typid = .encodeGeom ↔
        typid ∉ builtinOids ∧ (typid ∈ typeMap.geometry ∨
          ∃ row ∈ rows, row.typname = "geometry" ∧ row.oid % 2 ^ 32 = typid) := by
  refine ⟨?_, fun typid => by
    rw [conversionForType_eq_encodeGeom_iff, mem_collectTypeMap_geometry]⟩
  rw [conversionsFor_eq_map _ _ (.inl rfl)]
  refine List.map_congr_left fun columnNumber hmem => ?_
  have hlt := hcolumns columnNumber hmem
  rw [populateConversions, List.getD_eq_getElem _ _ (by simpa using hlt), List.getElem_map,
    List.getD_eq_getElem _ _ hlt]

/-- A result with a `bytea` column and a column of the geometry type that the type query
found at OID `16400`, read column by column. -/
theorem conversionsFor_collectTypeMap_geometry :
    (∀ columnNumber ∈ [0, 1], columnNumber < [byteaOid, 16400].length) ∧
    conversionsFor (PostgreSQLClient.collectTypeMap ⟨∅⟩ [⟨16400, "geometry"⟩])
        [byteaOid, 16400] [] [0, 1] =
      [0, 1].map (fun columnNumber => conversionForType
        (PostgreSQLClient.collectTypeMap ⟨∅⟩ [⟨16400, "geometry"⟩])
        ([byteaOid, 16400].getD columnNumber 0)) ∧
    ∀ typid, conversionForType (PostgreSQLClient.collectTypeMap ⟨∅⟩ [⟨16400, "geometry"⟩]) typid =
        .encodeGeom ↔
      typid ∉ builtinOids ∧ (typid ∈ (⟨∅⟩ : TypeMap).geometry ∨
        ∃ row ∈ [(⟨16400, "geometry"⟩ : TypeRow)], row.typname = "geometry" ∧
          row.oid % 2 ^ 32 = typid) :=
  have hcolumns : ∀ columnNumber ∈ [0, 1], columnNumber < [byteaOid, 16400].length := by decide
  ⟨hcolumns, conversionsFor_collectTypeMap ⟨∅⟩ _ _ _ hcolumns⟩

example : conversionsFor (PostgreSQLClient.collectTypeMap ⟨∅⟩ [⟨16400, "geometry"⟩])
    [byteaOid, 16400] [] [0, 1] = [.encodeBytea, .encodeGeom] := by decide

end KitchenSync
