import SelectGraph.Catalog.Basic

/-!
# Foreign keys and junction tables

A table joins two others if it has exactly two foreign keys, to different tables, none of whose
columns may be null, and a key that covers them. It may carry further columns.
-/

namespace SelectGraph

/-! ## Foreign key constraints

A catalog lists foreign keys column by column. Rows of one constraint belong together; a row
without a constraint name is a constraint of its own. -/

/-- A whole foreign key: its columns and, in the same positions, the columns they reference. -/
structure Constraint where
  name : String
  table : String
  columns : List String
  referenced : List String
  deriving DecidableEq

/-- The key that groups a row: its constraint, or one of its own after all constraint names. -/
def ForeignKey.groupKey (key : ForeignKey) (position : Nat) : String :=
  if key.constraint = "" then "~" ++ key.column ++ "_" ++ Text.paddedDigits 3 position
  else key.constraint

/-- Whether one row comes before another or is level with it. -/
def ForeignKey.precedes (a b : String × ForeignKey) : Bool :=
  if a.1 = b.1 then decide (a.2.position ≤ b.2.position) else decide (a.1 < b.1)

/-- Rows with their group keys, sorted by key and then by position. -/
def Table.keyedRows (table : Table) : List (String × ForeignKey) :=
  ((table.foreignKeys.zipIdx).map fun (key, position) => (key.groupKey position, key)).mergeSort
    ForeignKey.precedes

/-- Add a row in front of the group that begins with its key, or make a new group. -/
def addRow (row : String × ForeignKey) (groups : List (String × Constraint)) :
    List (String × Constraint) :=
  let (label, key) := row
  let alone : Constraint := ⟨key.constraint, key.table, [key.column], [key.referenced]⟩
  match groups with
  | (other, group) :: rest =>
    if other = label then
      (label, ⟨key.constraint, key.table, key.column :: group.columns,
        key.referenced :: group.referenced⟩) :: rest
    else (label, alone) :: (other, group) :: rest
  | [] => [(label, alone)]

def Table.constraints (table : Table) : List Constraint :=
  (table.keyedRows.foldr addRow []).map Prod.snd

/-! ## Junction tables -/

/-- One side of a junction: its columns and, in the same positions, the columns they reference. -/
structure JunctionSide where
  columns : List String
  table : String
  referenced : List String
  deriving DecidableEq

/-- A junction table. The left side references the table whose name comes first. -/
structure Junction where
  table : String
  left : JunctionSide
  right : JunctionSide
  attributes : List String
  deriving DecidableEq

namespace Junction

/-- Whether a junction has no columns beyond its keys. -/
def isPure (junction : Junction) : Bool :=
  junction.attributes.isEmpty

def kind (junction : Junction) : String :=
  if junction.isPure then "PureJunction" else "AttributeJunction"

def side (constraint : Constraint) : JunctionSide :=
  ⟨constraint.columns, constraint.table, constraint.referenced⟩

/-- Whether the primary key or a unique index holds all of some columns. -/
def isCovered (table : Table) (cols : List String) : Bool :=
  cols.all table.primaryKey.contains ||
    table.indexes.any fun index => index.unique && cols.all index.columns.contains

def ofTable? (catalog : Catalog) (table : Table) : Option Junction :=
  match table.constraints with
  | [first, second] =>
    let keyColumns := first.columns ++ second.columns
    if first.table == second.table || (catalog.table? first.table).isNone ||
        (catalog.table? second.table).isNone ||
        table.columns.any (fun col => keyColumns.contains col.name && col.nullable) ||
        !isCovered table keyColumns then none
    else
      let attributes := table.columnNames.filter fun name => !keyColumns.contains name
      let (left, right) := if second.table < first.table then (second, first) else (first, second)
      some ⟨table.name, side left, side right, attributes⟩
  | _ => none

end Junction

/-- The junctions of a catalog, one for each table name, sorted by it. -/
def Catalog.junctions (catalog : Catalog) : List Junction :=
  let found := catalog.tables.filterMap (Junction.ofTable? catalog)
  let last := found.zipIdx.filter fun (junction, position) =>
    !(found.drop (position + 1)).any fun later => later.table == junction.table
  (last.map Prod.fst).mergeSort fun a b => decide (a.table ≤ b.table)

end SelectGraph
