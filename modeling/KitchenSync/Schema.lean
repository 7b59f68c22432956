import Mathlib.Data.List.Sort
import Mathlib.Data.String.Basic

/-!
# The canonical schema model

`schema.h` describes a database as a list of tables, each with ordered columns,
primary-key column indices and secondary keys. This file transcribes the fields
that the schema comparison and the PostgreSQL adapter read. A `size_t` is a
natural number, a `std::string` is a `String` whose characters stand for the
bytes of the C++ string, and `std::string::operator<` is the lexicographic order
on those characters.
-/

namespace KitchenSync

/-- `DefaultType`: how a column obtains a value when an insert omits it. -/
inductive DefaultType where
  | noDefault
  | sequence
  | defaultValue
  | defaultExpression
  deriving DecidableEq, Repr

/-- The enumerator values of `DefaultType`, as the source's `to_string` prints them. -/
def DefaultType.toNat : DefaultType → ℕ
  | noDefault => 0
  | sequence => 1
  | defaultValue => 2
  | defaultExpression => 3

/-! The `ColumnTypes` names of the canonical column taxonomy that the model reads. -/

namespace ColumnTypes

/-- `ColumnTypes::BLOB`. -/
def blob : String := "BLOB"
/-- `ColumnTypes::TEXT`. -/
def text : String := "TEXT"
/-- `ColumnTypes::VCHR`. -/
def vchr : String := "VARCHAR"
/-- `ColumnTypes::FCHR`. -/
def fchr : String := "CHAR"
/-- `ColumnTypes::UUID`. -/
def uuid : String := "UUID"
/-- `ColumnTypes::BOOL`. -/
def bool : String := "BOOL"
/-- `ColumnTypes::SINT`. -/
def sint : String := "INT"
/-- `ColumnTypes::UINT`. -/
def uint : String := "INT UNSIGNED"
/-- `ColumnTypes::REAL`. -/
def real : String := "REAL"
/-- `ColumnTypes::DECI`. -/
def deci : String := "DECIMAL"
/-- `ColumnTypes::DATE`. -/
def date : String := "DATE"
/-- `ColumnTypes::TIME`. -/
def time : String := "TIME"
/-- `ColumnTypes::DTTM`. -/
def dttm : String := "DATETIME"
/-- `ColumnTypes::SPAT`. -/
def spat : String := "SPATIAL"
/-- `ColumnTypes::UNKN`. -/
def unkn : String := "UNKNOWN"

end ColumnTypes

/-- `ColumnFlags::nothing`. -/
def ColumnFlags.nothing : ℕ := 0

/-- `ColumnFlags::time_zone`. -/
def ColumnFlags.timeZone : ℕ := 4

/-- `Column`, with its fields in the order of the source's constructor, so that
`⟨name, nullable, defaultType, ...⟩` reads as `Column(name, nullable, default_type, ...)`.
`enumeration_values` and `filter_expression` are left out: nothing modelled reads them. -/
structure Column where
  name : String
  nullable : Bool
  defaultType : DefaultType
  defaultValue : String
  columnType : String
  size : ℕ
  scale : ℕ
  flags : ℕ
  typeRestriction : String
  referenceSystem : String
  dbTypeDef : String
  deriving DecidableEq, Repr

/-- `KeyType`, whose enumerator values order keys before their names do. -/
inductive KeyType where
  | uniqueKey
  | standardKey
  | spatialKey
  deriving DecidableEq, Repr

/-- The enumerator values of `KeyType`. -/
def KeyType.toNat : KeyType → ℕ
  | uniqueKey => 0
  | standardKey => 1
  | spatialKey => 2

/-- `Key`: a named secondary index over column positions of its table. -/
structure Key where
  name : String
  keyType : KeyType
  columns : List ℕ
  deriving DecidableEq, Repr

/-- `Key::unique()`. -/
def Key.unique (key : Key) : Bool := key.keyType = .uniqueKey

/-- `Key::operator<`: by key type first, and by name between keys of one type. -/
def Key.lt (key other : Key) : Prop :=
  if key.keyType ≠ other.keyType then key.keyType.toNat < other.keyType.toNat
  else key.name.data < other.name.data

instance : DecidableRel Key.lt := fun key other =>
  inferInstanceAs (Decidable (if key.keyType ≠ other.keyType then _ else _))

/-- `PrimaryKeyType`. -/
inductive PrimaryKeyType where
  | noAvailableKey
  | explicitPrimaryKey
  | suitableUniqueKey
  deriving DecidableEq, Repr

/-- `Table`; `where_conditions` is left out, nothing modelled reads it. -/
structure Table where
  name : String
  columns : List Column
  primaryKeyColumns : List ℕ
  primaryKeyType : PrimaryKeyType
  keys : List Key
  deriving DecidableEq, Repr

/-- `Database`. -/
structure Database where
  tables : List Table
  deriving DecidableEq, Repr

/-! The invariants of the schema model that the comparison relies on. -/

/-- No two tables of a database share a name. -/
def Database.TableNamesDistinct (database : Database) : Prop :=
  (database.tables.map (·.name)).Nodup

/-- No two columns of a table share a name, in every table. -/
def Database.ColumnNamesDistinct (database : Database) : Prop :=
  ∀ table ∈ database.tables, (table.columns.map (·.name)).Nodup

/-- No two keys of a table share a name, in every table. -/
def Database.KeyNamesDistinct (database : Database) : Prop :=
  ∀ table ∈ database.tables, (table.keys.map (·.name)).Nodup

/-- Every primary-key column and key column of a table is a position of its columns. -/
def Table.IndicesInRange (table : Table) : Prop :=
  (∀ index ∈ table.primaryKeyColumns, index < table.columns.length) ∧
    ∀ key ∈ table.keys, ∀ index ∈ key.columns, index < table.columns.length

/-- Every table of the database keeps its indices in range. -/
def Database.IndicesInRange (database : Database) : Prop :=
  ∀ table ∈ database.tables, table.IndicesInRange

/-- A valid database: the invariants of the schema model together. -/
structure Database.Valid (database : Database) : Prop where
  tableNames : database.TableNamesDistinct
  columnNames : database.ColumnNamesDistinct
  keyNames : database.KeyNamesDistinct
  indices : database.IndicesInRange

instance (database : Database) : Decidable database.TableNamesDistinct :=
  inferInstanceAs (Decidable (List.Nodup _))

instance (database : Database) : Decidable database.ColumnNamesDistinct :=
  inferInstanceAs (Decidable (∀ table ∈ database.tables, _))

instance (database : Database) : Decidable database.KeyNamesDistinct :=
  inferInstanceAs (Decidable (∀ table ∈ database.tables, _))

instance (table : Table) : Decidable table.IndicesInRange :=
  inferInstanceAs (Decidable (_ ∧ _))

instance (database : Database) : Decidable database.IndicesInRange :=
  inferInstanceAs (Decidable (∀ table ∈ database.tables, _))

instance (database : Database) : Decidable database.Valid :=
  decidable_of_iff (database.TableNamesDistinct ∧ database.ColumnNamesDistinct ∧
      database.KeyNamesDistinct ∧ database.IndicesInRange)
    ⟨fun ⟨h₁, h₂, h₃, h₄⟩ => ⟨h₁, h₂, h₃, h₄⟩, fun ⟨h₁, h₂, h₃, h₄⟩ => ⟨h₁, h₂, h₃, h₄⟩⟩

end KitchenSync
