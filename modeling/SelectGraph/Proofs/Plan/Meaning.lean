import SelectGraph.Plan.Statement
import SelectGraph.Proofs.Keyset.Boundary

/-!
# The meaning of selection trees

What a tree asks of a store, read off the tree itself: the rows of each relation that its arguments
admit and that belong to the row around them, in order and up to the limit, and the JSON value
made of them.  No statement occurs here.
-/

namespace SelectGraph.Plan

open Keyset (OrderField directions rowKey)
open Sql (Cell Domain Failure Row Store compareKeys cut)

variable {domain : Domain}

/-! ## Rows -/

/-- Whether a column of a row has a value. Null is a value here. -/
def has (row : Row domain) (col : String) (value : Literal) : Bool :=
  match value, row col with
  | .null, found => found.isNone
  | _, none => false
  | value, some stored => domain.compare stored (domain.argument value.sqlValue) == .eq

/-- Whether a filter admits a row: the column has the value, or one of the values of a list. -/
def admits (row : Row domain) (col : String) : Literal → Bool
  | .list values => values.any (has row col)
  | value => has row col value

/-- Whether two columns hold equal values. Null equals nothing. -/
def agree : Option domain.Value → Option domain.Value → Bool
  | some a, some b => domain.compare a b == .eq
  | _, _ => false

/-- Whether a relation leads from one row to another: their columns agree, or there is a row of the
junction table that agrees with both. -/
def relates (store : Store) (rel : Relation) (left right : Row store) : Bool :=
  match rel.strategy, rel.through? with
  | .junction, some through => (store.rows through.table).any fun middle =>
    (through.left.all fun pair => agree (middle pair.2) (left pair.1)) &&
      through.right.all fun pair => agree (middle pair.2) (right pair.1)
  | _, _ => rel.pairs.all fun pair => agree (left pair.1) (right pair.2)

structure Criteria where
  table : Table
  relation? : Option Relation
  arguments : Arguments

/-- The relation from the table around to a table, if there is a table around. -/
def relationOf? (src : Sources) (parent? : Option String) (field table : String) :
    Option (Option Relation) :=
  match parent? with
  | none => some none
  | some parent => (src.registry.lookup? field parent table).map some

/-- Look up what a relation refers to, below the table of the relation around it. -/
def Criteria.of? (src : Sources) (parent? : Option String) (head : Tree.Head) :
    Option Criteria := do
  let table ← (src.catalog.tableForType head.target.type).toOption
  let args ← (readArguments head table).toOption
  let relation? ← relationOf? src parent? head.field table.name
  return ⟨table, relation?, args⟩

namespace Criteria

variable (crit : Criteria) (store : Store)

def order : List OrderField :=
  effectiveOrder crit.table crit.arguments.order

/-- Whether all filters admit a row. -/
def filtered (row : Row domain) : Bool :=
  crit.arguments.filters.all fun filter =>
    match crit.table.column? filter.1 with
    | some col => admits row col.name filter.2
    | none => false

/-- Whether a row belongs to the row around it. -/
def joined (parent? : Option (Row store)) (row : Row store) : Bool :=
  match crit.relation?, parent? with
  | some rel, some parent => relates store rel parent row
  | _, _ => true

/-- Whether a row comes after the cursor, if there is one. -/
def follows (row : Row domain) : Bool :=
  match crit.arguments.after? with
  | none => true
  | some cursor => compareKeys (directions crit.order)
      (rowKey crit.order cursor.asRow) (rowKey crit.order row) == .lt

/-- The rows that match the filters and belong to the row around them. -/
def matching (parent? : Option (Row store)) : List (Row store) :=
  (store.rows crit.table.name).filter fun row =>
    crit.filtered row && crit.joined store parent? row

def remaining (parent? : Option (Row store)) : List (Row store) :=
  (crit.matching store parent?).filter crit.follows

/-- The remaining rows in order, or as they come where there can be only one. -/
def arranged (parent? : Option (Row store)) (isList : Bool) : List (Row store) :=
  if isList then
    store.ordering.sort (directions crit.order) (rowKey crit.order)
      (crit.remaining store parent?)
  else crit.remaining store parent?

def page (parent? : Option (Row store)) (isList : Bool) : List (Row store) :=
  cut crit.arguments.limit? (crit.arranged store parent? isList)

end Criteria

/-! ## JSON values -/

def columnJson (row : Row domain) (col : String) : Json :=
  (Cell.ofStored (row col)).toJson

def cursorText (order : List OrderField) (row : Row domain) : String :=
  domain.print (.object (order.map fun field => (field.column, columnJson row field.column)))

def named (names : List String) (value : Json) : List (String × Json) :=
  names.map fun name => (name, value)

/-- What a connection shows besides its nodes: how many rows match, whether more rows follow, and
the cursor of each row of the page. -/
structure Overview where
  total : Nat
  hasNext : Bool
  cursors : List String

def Overview.pageJson (overview : Overview) (page : Tree.PageInfo) : Json :=
  .object (named page.hasNext (.bool overview.hasNext) ++
    named page.endCursor (overview.cursors.getLast?.elim .null .text) ++
      named page.typeNames (.text page.type))

def edgeJson (conn : Tree.Connection) (cursor : String) (node : Json) : Json :=
  .object ((conn.node, node) :: named conn.cursors (.text cursor) ++
    named conn.edgeTypeNames (.text conn.edgeType))

/-- The JSON value of a connection with the given nodes. -/
def Overview.connectionJson (overview : Overview) (conn : Tree.Connection)
    (nodes : List Json) : Json :=
  .object ((conn.edges,
      .list (List.zipWith (edgeJson conn) overview.cursors nodes)) ::
    named conn.totals (.ofNat overview.total) ++
      conn.pages.map (fun page => (page.responseName, overview.pageJson page)) ++
      named conn.typeNames (.text conn.type))

/-- The JSON value of a connection with the given nodes and end cursor. -/
def Overview.connectionJsonEnding (overview : Overview) (cursor? : Option String)
    (conn : Tree.Connection) (nodes : List Json) : Json :=
  .object ((conn.edges,
      .list (List.zipWith (edgeJson conn) overview.cursors nodes)) ::
    named conn.totals (.ofNat overview.total) ++
      conn.pages.map (fun page => (page.responseName,
        { overview with cursors := cursor?.toList }.pageJson page)) ++
      named conn.typeNames (.text conn.type))

theorem Overview.connectionJsonEnding_last (overview : Overview) (conn : Tree.Connection)
    (nodes : List Json) :
    overview.connectionJsonEnding overview.cursors.getLast? conn nodes =
      overview.connectionJson conn nodes := by
  have same (page : Tree.PageInfo) : { overview with
      cursors := overview.cursors.getLast?.toList }.pageJson page = overview.pageJson page := by
    rw [Overview.pageJson, Overview.pageJson]
    cases overview.cursors.getLast? <;> rfl
  rw [Overview.connectionJsonEnding, Overview.connectionJson]
  simp only [same]

namespace Criteria

variable (crit : Criteria) (store : Store)

/-- Whether rows follow the page. Without a limit none do, and for a limit of none all do. -/
def hasNext (parent? : Option (Row store)) : Bool :=
  match crit.arguments.limit? with
  | none => false
  | some 0 => !(crit.remaining store parent?).isEmpty
  | some limit => decide (limit < (crit.remaining store parent?).length)

/-- What a connection shows besides its nodes. -/
def overview (parent? : Option (Row store)) : Overview where
  total := (crit.matching store parent?).length
  hasNext := crit.hasNext store parent?
  cursors := (crit.page store parent? true).map (cursorText crit.order)

/-- The JSON values of a relation: one for a list or a connection, and else one for each row. -/
def values (parent? : Option (Row store)) (head : Tree.Head)
    (object : Row store → Except Failure Json) : Except Failure (List Json) := do
  let objects ← (crit.page store parent? head.target.isList).mapM object
  match head.connection? with
  | some conn => return [(crit.overview store parent?).connectionJson conn objects]
  | none => return if head.target.isList then [.list objects] else objects

end Criteria

def atMostOne : List Json → Except Failure (Option Json)
  | [] => .ok none
  | [value] => .ok (some value)
  | _ => .error .severalRows

/-- Look up what a relation refers to. -/
def criteriaOf (src : Sources) (parent? : Option String) (head : Tree.Head) :
    Except Failure Criteria :=
  match Criteria.of? src parent? head with
  | some crit => .ok crit
  | none => .error (.unknownSource head.field)

/-- What a relation refers to: the table of its type, its arguments and the relation to the table
around. -/
theorem criteriaOf_eq_ok {src : Sources} {parent? : Option String} {head : Tree.Head}
    {crit : Criteria} :
    criteriaOf src parent? head = .ok crit ↔
      src.catalog.tableForType head.target.type = .ok crit.table ∧
        readArguments head crit.table = .ok crit.arguments ∧
        relationOf? src parent? head.field crit.table.name = some crit.relation? := by
  have found : criteriaOf src parent? head = .ok crit ↔
      Criteria.of? src parent? head = some crit := by
    rw [criteriaOf]
    cases Criteria.of? _ _ head <;> simp
  rw [found]
  simp only [Criteria.of?, Option.bind_eq_bind, Option.bind_eq_some_iff,
    Sql.toOption_eq_some]
  constructor
  · rintro ⟨table, known, args, read, relation?, related, same⟩
    cases same
    exact ⟨known, read, related⟩
  · rintro ⟨known, read, related⟩
    exact ⟨_, known, _, read, _, related, rfl⟩

mutual

/-- The JSON value of a node for a row of a type and its table. -/
def nodeJson (store : Store) (src : Sources) (type : String) (table : Table)
    (row : Row store) : Tree.Node → Except Failure Json
  | .attribute field _ =>
    if field = "__typename" then .ok (.text type)
    else
      match table.column? field with
      | some col => .ok (columnJson row col.name)
      | none => .error (.unknownColumn field)
  | .relation head children => do
      let crit ← criteriaOf src (some table.name) head
      let values ← crit.values store (some row) head fun inner => do
        return .object
          (← memberJsons store src head.target.type crit.table inner [] children)
      return (← atMostOne values).getD .null

/-- The members of the JSON object of a row. Of nodes with one response name the first counts. -/
def memberJsons (store : Store) (src : Sources) (type : String) (table : Table)
    (row : Row store) (seen : List String) :
    List Tree.Node → Except Failure (List (String × Json))
  | [] => .ok []
  | node :: rest =>
    if node.responseName ∈ seen then memberJsons store src type table row seen rest
    else do
      let value ← nodeJson store src type table row node
      let others ← memberJsons store src type table row (node.responseName :: seen) rest
      return (node.responseName, value) :: others

end

def objectJson (store : Store) (src : Sources) (type : String) (table : Table)
    (children : List Tree.Node) (row : Row store) : Except Failure Json := do
  return .object (← memberJsons store src type table row [] children)

/-- The JSON values of a relation, below a row of a table or at the top of a request. -/
def relationJsons (store : Store) (src : Sources) (table? : Option String)
    (row? : Option (Row store)) (head : Tree.Head) (children : List Tree.Node) :
    Except Failure (List Json) := do
  let crit ← criteriaOf src table? head
  crit.values store row? head
    (objectJson store src head.target.type crit.table children)

theorem nodeJson_relation (store : Store) (src : Sources) (type : String) (table : Table)
    (row : Row store) (head : Tree.Head) (children : List Tree.Node) :
    nodeJson store src type table row (.relation head children) = (do
      let values ← relationJsons store src (some table.name) (some row) head children
      return (← atMostOne values).getD .null) := by
  rw [nodeJson, relationJsons]
  cases criteriaOf _ _ head <;> rfl

/-- The JSON value of a relation at the top of a request, if it has one. -/
def rootJson (store : Store) (src : Sources) (root : Tree.Root) :
    Except Failure (Option Json) := do
  atMostOne (← relationJsons store src none none root.head root.children)

end SelectGraph.Plan
