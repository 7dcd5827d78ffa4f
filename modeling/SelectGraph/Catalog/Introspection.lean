import SelectGraph.Catalog.Basic
import SelectGraph.Database.Basic

/-!
# Catalogs read from a database

A database describes itself: its tables, and for each table the columns, the primary key, the
foreign keys and the indexes. The first question that fails ends the reading.
-/

namespace SelectGraph.Catalog

open Database (Backend Cell Fault Session queryRows textColumn intColumn)

def question (lines : List String) : String :=
  "\n\t\t" ++ Text.join "\n\t\t" lines ++ "\n\t"

def tablesQuestion : String := question
  ["SELECT TABLE_NAME", "FROM INFORMATION_SCHEMA.TABLES", "WHERE TABLE_SCHEMA = ?",
    "AND TABLE_TYPE IN ('BASE TABLE', 'VIEW')", "ORDER BY TABLE_NAME"]

def columnsQuestion : String := question
  ["SELECT COLUMN_NAME, DATA_TYPE, IS_NULLABLE", "FROM INFORMATION_SCHEMA.COLUMNS",
    "WHERE TABLE_SCHEMA = ? AND TABLE_NAME = ?", "ORDER BY ORDINAL_POSITION"]

def primaryKeyQuestion : String := question
  ["SELECT COLUMN_NAME", "FROM INFORMATION_SCHEMA.KEY_COLUMN_USAGE", "WHERE TABLE_SCHEMA = ?",
    "AND TABLE_NAME = ?", "AND CONSTRAINT_NAME = 'PRIMARY'", "ORDER BY ORDINAL_POSITION"]

def foreignKeysQuestion : String := question
  ["SELECT", "\tCOLUMN_NAME,", "\tREFERENCED_TABLE_NAME,", "\tREFERENCED_COLUMN_NAME,",
    "\tCONSTRAINT_NAME,", "\tORDINAL_POSITION", "FROM INFORMATION_SCHEMA.KEY_COLUMN_USAGE",
    "WHERE TABLE_SCHEMA = ?", "\tAND TABLE_NAME = ?", "\tAND REFERENCED_TABLE_NAME IS NOT NULL",
    "ORDER BY CONSTRAINT_NAME, ORDINAL_POSITION"]

def indexesQuestion : String := question
  ["SELECT INDEX_NAME, NON_UNIQUE, COLUMN_NAME", "FROM INFORMATION_SCHEMA.STATISTICS",
    "WHERE TABLE_SCHEMA = ?", "\tAND TABLE_NAME = ?", "ORDER BY INDEX_NAME, SEQ_IN_INDEX"]

def columnOfRow (cells : List Cell) : Except Fault Column := do
  let name ← textColumn cells 0
  let type ← textColumn cells 1
  let nullable ← textColumn cells 2
  return { name, type, nullable := Text.equalFold nullable "YES" }

def foreignKeyOfRow (cells : List Cell) : Except Fault ForeignKey := do
  let column ← textColumn cells 0
  let table ← textColumn cells 1
  let referenced ← textColumn cells 2
  let constraint ← textColumn cells 3
  let position ← intColumn cells 4
  return { column, table, referenced, constraint, position }

def indexPartOfRow (cells : List Cell) : Except Fault TableIndex := do
  let name ← textColumn cells 0
  let nonUnique ← intColumn cells 1
  let col ← textColumn cells 2
  return { name, unique := nonUnique == 0, columns := [col] }

def addIndexColumn (indexes : List TableIndex) (part : TableIndex) : List TableIndex :=
  if indexes.any (·.name == part.name) then
    indexes.map fun index =>
      if index.name == part.name then { index with columns := index.columns ++ part.columns }
      else index
  else indexes ++ [part]

/-- The indexes that columns of indexes make up, sorted by name. -/
def gatherIndexes (parts : List TableIndex) : List TableIndex :=
  (parts.foldl addIndexColumn []).mergeSort fun a b => decide (a.name ≤ b.name)

inductive Asked where
  | tables
  | columns (table : String)
  | primaryKey (table : String)
  | foreignKeys (table : String)
  | indexes (table : String)
  deriving DecidableEq

structure IntrospectionError where
  asked : Asked
  fault : Fault
  deriving DecidableEq

def IntrospectionError.message (error : IntrospectionError) : String :=
  let heading := match error.asked with
    | .tables => "failed to get tables"
    | .columns table => "failed to get columns for " ++ table
    | .primaryKey table => "failed to get primary key for table " ++ table
    | .foreignKeys table => "failed to get foreign keys for table " ++ table
    | .indexes table => "failed to get indexes for table " ++ table
  heading ++ ": " ++ error.fault.text

abbrev Reading := ExceptT IntrospectionError Session

def ask {α : Type} (backend : Backend) (asked : Asked) (sql : String) (args : List Literal)
    (cols : Nat) (read : Database.RowReader α) : Reading (List α) :=
  ExceptT.mk do
    let outcome ← queryRows backend sql args cols read
    return outcome.mapError fun fault => ⟨asked, fault⟩

def tableNamed (backend : Backend) (database name : String) : Reading Table := do
  let arguments : List Literal := [.text database, .text name]
  let columns ← ask backend (.columns name) columnsQuestion arguments 3 columnOfRow
  let primaryKey ← ask backend (.primaryKey name) primaryKeyQuestion arguments 1 (textColumn · 0)
  let foreignKeys ← ask backend (.foreignKeys name) foreignKeysQuestion arguments 5 foreignKeyOfRow
  let parts ← ask backend (.indexes name) indexesQuestion arguments 3 indexPartOfRow
  return { name, columns, primaryKey, foreignKeys, indexes := gatherIndexes parts }

def introspect (backend : Backend) (database : String) : Reading Catalog := do
  let names ← ask backend .tables tablesQuestion [.text database] 1 (textColumn · 0)
  let tables ← names.mapM (tableNamed backend database)
  return { tables, typeTables := [] }

end SelectGraph.Catalog
