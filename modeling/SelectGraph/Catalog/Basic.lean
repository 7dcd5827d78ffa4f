import SelectGraph.Naming.Inflection

/-!
# Catalogs

The tables that types are read from: their columns, keys and indexes, and which table backs which
type. Names of tables, columns and types are looked up exactly first and then without regard
to case.
-/

namespace SelectGraph

structure Column where
  name : String
  type : String
  nullable : Bool
  deriving DecidableEq

/-- An index with its columns in order. -/
structure TableIndex where
  name : String
  unique : Bool
  columns : List String
  deriving DecidableEq

structure ForeignKey where
  column : String
  table : String
  referenced : String
  constraint : String
  position : Int
  deriving DecidableEq, Inhabited

structure Table where
  name : String
  columns : List Column
  primaryKey : List String
  foreignKeys : List ForeignKey
  indexes : List TableIndex
  deriving DecidableEq, Inhabited

/-- The tables, and the table of each type that does not follow the naming rule. -/
structure Catalog where
  tables : List Table
  typeTables : List (String × String)
  deriving DecidableEq

/-- The first value with a name, or else the first whose name differs in case only. -/
def findNamed? {α : Type} (name : α → String) (values : List α) (wanted : String) : Option α :=
  match values.find? fun value => name value == wanted with
  | some found => some found
  | none => values.find? fun value => Text.equalFold (name value) wanted

namespace Table

def column? (table : Table) (name : String) : Option Column :=
  findNamed? Column.name table.columns name

def columnNames (table : Table) : List String :=
  table.columns.map Column.name

/-- Whether the primary key holds a column of exactly this name. -/
def isKeyColumn (table : Table) (col : String) : Bool :=
  table.primaryKey.contains col

end Table

namespace Catalog

inductive TypeError where
  | unknownTable (type table : String)
  | noTable (type : String)
  deriving DecidableEq

def TypeError.message : TypeError → String
  | .unknownTable type table => "type " ++ type ++ " is mapped to unknown table " ++ table
  | .noTable type => "no table found for type " ++ type

def table? (catalog : Catalog) (name : String) : Option Table :=
  findNamed? Table.name catalog.tables name

def mapped? (catalog : Catalog) (type : String) : Option String :=
  (findNamed? Prod.fst catalog.typeTables type).map Prod.snd

/-- The table of a type: the one it is mapped to, the one with its name in small letters, or the
one with its name in snake case. -/
def tableForType (catalog : Catalog) (type : String) : Except TypeError Table :=
  match catalog.mapped? type with
  | some name =>
    match catalog.table? name with
    | some table => .ok table
    | none => .error (.unknownTable type name)
  | none =>
    match catalog.table? (Text.toLower type) with
    | some table => .ok table
    | none =>
      match catalog.table? (Naming.snakeCase type) with
      | some table => .ok table
      | none => .error (.noTable type)

def mapType (catalog : Catalog) (type table : String) : Catalog :=
  { catalog with
    typeTables := catalog.typeTables.filter (fun entry => entry.1 != type) ++ [(type, table)] }

inductive CatalogError where
  | malformed
  | unnamedTable
  | repeatedTable (table : String)
  | keyColumn (table col : String)
  | foreignColumn (table col : String)
  | foreignTable (table referenced : String)
  deriving DecidableEq

def CatalogError.message : CatalogError → String
  | .malformed => "failed to parse catalog: malformed document"
  | .unnamedTable => "catalog table without a name"
  | .repeatedTable table => "catalog table " ++ table ++ " declared twice"
  | .keyColumn table col =>
    "table " ++ table ++ ": primary key column " ++ col ++ " is not a column"
  | .foreignColumn table col =>
    "table " ++ table ++ ": foreign key column " ++ col ++ " is not a column"
  | .foreignTable table referenced =>
    "table " ++ table ++ ": foreign key references unknown table " ++ referenced

def checkKeys (table : Table) : Except CatalogError Unit :=
  match table.primaryKey.find? fun col => (table.column? col).isNone with
  | some col => .error (.keyColumn table.name col)
  | none =>
    match table.foreignKeys.find? fun key => (table.column? key.column).isNone with
    | some key => .error (.foreignColumn table.name key.column)
    | none => .ok ()

/-- Check tables one after the other; the names before them are given. -/
def checkTables (seen : List String) : List Table → Except CatalogError Unit
  | [] => .ok ()
  | table :: tables =>
    if table.name = "" then .error .unnamedTable
    else if table.name ∈ seen then .error (.repeatedTable table.name)
    else do
      checkKeys table
      checkTables (table.name :: seen) tables

def checkReferences (tables : List Table) : Except CatalogError Unit :=
  let names := tables.map Table.name
  let dangling := tables.findSome? fun table =>
    (table.foreignKeys.find? fun key => !names.contains key.table).map fun key =>
      (table.name, key.table)
  match dangling with
  | some (table, referenced) => .error (.foreignTable table referenced)
  | none => .ok ()

def check (catalog : Catalog) : Except CatalogError Unit := do
  checkTables [] catalog.tables
  checkReferences catalog.tables

end Catalog

end SelectGraph
