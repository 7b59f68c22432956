import KitchenSync.Except
import KitchenSync.Schema
import KitchenSync.SchemaMatch
import KitchenSync.Sorting
import KitchenSync.Match.Columns
import KitchenSync.Match.Tables
import KitchenSync.Match.Keys
import KitchenSync.Match.Acceptance
import KitchenSync.Match.Reasons
import KitchenSync.Match.Reordering
import KitchenSync.Match.ColumnIndices
import KitchenSync.Match.Laws
import KitchenSync.Match.Outline
import KitchenSync.StdString
import KitchenSync.PostgreSQL.ColumnLister
import KitchenSync.PostgreSQL.ColumnDefinition
import KitchenSync.PostgreSQL.Convert
import KitchenSync.PostgreSQL.KeyLister
import KitchenSync.PostgreSQL.Defaults
import KitchenSync.PostgreSQL.TypeRoundTrip
import KitchenSync.PostgreSQL.SchemaReader
import KitchenSync.PostgreSQL.Unescape
import KitchenSync.PostgreSQL.NormalForm
import KitchenSync.PostgreSQL.Conversions
import KitchenSync.PostgreSQL.Fields
import KitchenSync.PostgreSQL.RowPacking
import KitchenSync.PostgreSQL.Statements
import KitchenSync.PostgreSQL.Introspection
