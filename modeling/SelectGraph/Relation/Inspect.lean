import SelectGraph.Literal.Tagged
import SelectGraph.Relation.Derive
import SelectGraph.Sql.Render

/-!
# Inspecting catalogs and registries

Questions about a catalog, its tables and a registry of relations, asked and answered in JSON. A
question that cannot be answered gives an error with its kind and its wording.
-/

namespace SelectGraph

/-! ## Catalogs, relations and statements as JSON -/

/-- A column: its name, its type and whether it may be null. -/
def Column.toJson (col : Column) : Json :=
  .list [.text col.name, .text col.type, .bool col.nullable]

def Table.toJson (table : Table) : Json :=
  .object [("name", .text table.name), ("columns", .list (table.columns.map Column.toJson)),
    ("primary_key", .texts table.primaryKey),
    ("foreign_keys", .list (table.foreignKeys.map fun key =>
      .list [.text key.column, .text key.table, .text key.referenced, .text key.constraint,
        .ofInt key.position])),
    ("indexes", .list (table.indexes.map fun index =>
      .list [.text index.name, .bool index.unique, .texts index.columns]))]

def Catalog.toJson (catalog : Catalog) : Json :=
  .object [("tables", .list (catalog.tables.map Table.toJson)),
    ("type_tables", .object (catalog.typeTables.map fun (type, table) => (type, .text table)))]

def Constraint.toJson (constraint : Constraint) : Json :=
  .object [("name", .text constraint.name), ("table", .text constraint.table),
    ("columns", .texts constraint.columns), ("referenced", .texts constraint.referenced)]

def JunctionSide.toJson (side : JunctionSide) : Json :=
  .object [("columns", .texts side.columns), ("table", .text side.table),
    ("referenced", .texts side.referenced)]

def Junction.toJson (junction : Junction) : Json :=
  .object [("table", .text junction.table), ("type", .text junction.kind),
    ("left", junction.left.toJson), ("right", junction.right.toJson),
    ("attributes", .texts junction.attributes)]

def Relation.toJson (rel : Relation) : Json :=
  let through := match rel.through? with
    | none => []
    | some through => [("through", Json.object [("table", .text through.table),
        ("left", .textPairs through.left), ("right", .textPairs through.right)])]
  .object ([("name", Json.text rel.name), ("left", .text rel.left),
    ("right", .text rel.right), ("strategy", .text rel.strategy.word),
    ("on", .textPairs rel.pairs)] ++ through)

def Relation.ofJson (input : Json) : Relation :=
  { name := input.textAt "name", left := input.textAt "left", right := input.textAt "right"
    strategy := .ofWord (input.textAt "strategy"), pairs := input.textPairsAt "on"
    through? := (input.at? "through").map fun through =>
      ⟨through.textAt "table", through.textPairsAt "left", through.textPairsAt "right"⟩ }

def Sql.Rendered.toJson (rendered : Sql.Rendered) : Json :=
  .object [("sql", .text rendered.sql), ("args", .list (Literal.toTaggedItems rendered.arguments))]

/-! ## Questions -/

def Json.error (kind message : String) : Json :=
  .object [("error", .text kind), ("message", .text message)]

def Table.inspect (table : Table) (question : Json) : Json :=
  let name := question.textAt "name"
  match question.textAt "do" with
  | "column" => ((table.column? name).map Column.toJson).getD .null
  | "is_pk" => .bool (table.isKeyColumn name)
  | "columns" => .texts table.columnNames
  | _ => .list (table.constraints.map Constraint.toJson)

def Catalog.inspect (names : Naming) (catalog : Catalog) (question : Json) : Json :=
  let name := question.textAt "name"
  match question.textAt "do" with
  | "dump" => catalog.toJson
  | "table" => ((catalog.table? name).map fun table => Json.text table.name).getD .null
  | "type" =>
    match catalog.tableForType name with
    | .ok table => .text table.name
    | .error error => Json.error "ERROR" error.message
  | "junctions" => .object (catalog.junctions.map fun junction => (junction.table, junction.toJson))
  | "derive" => .list ((catalog.derivedRelations names).map Relation.toJson)
  | "derive_default" => .list ((catalog.derivedRelations .default).map Relation.toJson)
  | _ =>
    match catalog.table? (question.textAt "table") with
    | none => .object [("error", .text "no table")]
    | some table => table.inspect question

/-- A table that a question names together with its alias. -/
def TableRef.ofJson (question : Json) (key : String) : TableRef :=
  let given := question.textsAt key
  ⟨given.getD 0 "", given.getD 1 ""⟩

def Registry.inspect (catalog : Catalog) (registry : Registry) (question : Json) : Registry × Json :=
  let rel := Relation.ofJson (question.objectAt "entry")
  let name := question.textAt "name"
  let left := TableRef.ofJson question "left"
  let right := TableRef.ofJson question "right"
  match question.textAt "do" with
  | "register" =>
    match registry.register rel with
    | .ok next => (next, .ofNat next.size)
    | .error error => (registry, Json.error "ERROR" error.message)
  | "check" =>
    match rel.check catalog with
    | .ok _ => (registry, .bool true)
    | .error error => (registry, Json.error "ERROR" error.message)
  | "lookup" =>
    (registry, ((registry.lookup? name left.table right.table).map Relation.toJson).getD .null)
  | "resolve" =>
    match registry.resolve name left right with
    | .ok pred => (registry, pred.render.toJson)
    | .error missing => (registry, Json.error "RELATIONSHIP_NOT_FOUND" missing.message)
  | _ => (registry, .list (registry.sorted.map Relation.toJson))

/-- Answer questions about a registry one after the other. -/
def Registry.inspectAll (catalog : Catalog) : Registry → List Json → List Json
  | _, [] => []
  | registry, question :: questions =>
    let (next, found) := registry.inspect catalog question
    found :: inspectAll catalog next questions

end SelectGraph
