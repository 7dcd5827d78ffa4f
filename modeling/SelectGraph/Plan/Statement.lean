import SelectGraph.Plan.Arguments
import SelectGraph.Relation.Basic
import SelectGraph.Sql.Render

/-!
# Statements

Every relation at the top of a request becomes one statement whose single column holds the JSON value
of that relation. A relation is compiled to a common table expression with one column for every
attribute and every inner relation, and an expression that reads it; inner relations become
subqueries joined to the row around them.
-/

namespace SelectGraph.Plan

open Keyset (OrderField)
open Sql (Expr Predicate Query Source)

inductive PlanError where
  | resolution (error : ResolutionError)
  | relation (missing : Registry.NotFound)
  deriving DecidableEq

def PlanError.message : PlanError → String
  | .resolution error => error.message
  | .relation missing => missing.message

/-- The tables and the relations between them. -/
structure Sources where
  catalog : Catalog
  registry : Registry

/-- What is known of a relation before its children are compiled. -/
structure Frame where
  head : Tree.Head
  table : Table
  self : TableRef
  limit? : Option Nat
  order : List OrderField
  predicates : List Predicate
  boundary? : Option Predicate
  deriving Inhabited

namespace Frame

/-- The common table expression of a relation. -/
def rows (frame : Frame) : String := frame.head.aliasName ++ "_rows"

def source (frame : Frame) : Source := .table frame.self.table frame.self.aliasName

/-- A column of the common table expression. -/
def read (frame : Frame) (col : String) : Expr := .column ⟨frame.rows, col⟩

def cursorColumn : String := "__cursor"

/-- The column that holds the number of rows before the limit. -/
def remainingColumn : String := "__remaining"

def rowColumn : String := "__row"

/-- A column read from a table by its name in the request. -/
def column (frame : Frame) (field : String) : Except PlanError Expr :=
  match frame.table.column? field with
  | some col => .ok (.column ⟨frame.self.aliasName, col.name⟩)
  | none => .error (.resolution
      ⟨"field " ++ field ++ " has no column on table " ++ frame.table.name⟩)

/-- The columns that page information and cursors need. -/
def pagingColumns (frame : Frame) : List (Expr × Option String) :=
  match frame.head.connection? with
  | none => []
  | some conn =>
    let aliasName := frame.self.aliasName
    let cursor := if conn.wantsCursor then
      [(Keyset.cursorExpr frame.order aliasName, some cursorColumn)] else []
    let remaining := if conn.wantsHasNext && frame.limit?.any (0 < ·) then
      [(Expr.countWindow, some remainingColumn)] else []
    let row := if conn.wantsEndCursor then
      [(Expr.rowNumber (orderTerms frame.order aliasName), some rowColumn)] else []
    cursor ++ remaining ++ row

/-- Whether more rows follow: never without a limit, whether there is any row for a limit of none,
and otherwise whether there are more rows than the limit. -/
def hasNext (frame : Frame) : Expr :=
  match frame.limit? with
  | none => .never
  | some 0 => .anyRow (.select none [(.one, none)] frame.source
      (frame.predicates ++ frame.boundary?.toList) none none)
  | some limit => .exceeds ⟨frame.rows, remainingColumn⟩ (.uint limit)

def endCursor (frame : Frame) : Expr :=
  .subquery (.select none [(.bare cursorColumn, none)] (.rows frame.rows) []
    (some [⟨none, rowColumn, .descending⟩]) (some 1))

/-- The number of rows without regard to limit and cursor. -/
def total (frame : Frame) : Expr :=
  .subquery (.select none [(.countRows, none)] frame.source frame.predicates none none)

def under (names : List String) (value : Expr) : List (String × Expr) :=
  names.map fun name => (name, value)

/-- The JSON object of a selection of page information. -/
def pageValue (frame : Frame) (page : Tree.PageInfo) : Expr :=
  .object (under page.hasNext frame.hasNext ++ under page.endCursor frame.endCursor ++
    under page.typeNames (.text page.type))

def connectionValue (frame : Frame) (conn : Tree.Connection) (row : Expr) : Expr :=
  let edge : Expr := .object ((conn.node, row) ::
    under conn.cursors (frame.read cursorColumn) ++
      under conn.edgeTypeNames (.text conn.edgeType))
  .object ((conn.edges, .arrayOf edge) ::
    under conn.totals frame.total ++
      conn.pages.map (fun page => (page.responseName, frame.pageValue page)) ++
      under conn.typeNames (.text conn.type))

/-- The query of the common table expression, given the columns of attributes and inner relations. -/
def body (frame : Frame) (cols : List (Expr × Option String)) : Query :=
  let all := cols ++ frame.pagingColumns
  .select none (if all.isEmpty then [(.one, none)] else all) frame.source
    (frame.predicates ++ frame.boundary?.toList)
    (if frame.head.target.isList then some (orderTerms frame.order frame.self.aliasName) else none)
    frame.limit?

/-- The JSON value of a relation whose rows have the given members. -/
def value (frame : Frame) (members : List (String × Expr)) : Expr :=
  match frame.head.connection? with
  | some conn => frame.connectionValue conn (.object members)
  | none => if frame.head.target.isList then .arrayOf (.object members) else .object members

end Frame

/-- A relation that has been compiled. -/
structure Compiled where
  rows : String
  body : Query
  value : Expr

/-- The query that defines the common table expression and projects something of it. -/
def Compiled.query (compiled : Compiled) (col : Expr) (alias? : Option String) : Query :=
  .select (some (compiled.rows, compiled.body)) [(col, alias?)] (.rows compiled.rows) [] none none

/-- What was read for a relation, with the faults of compiling it. -/
def resolved {α : Type} : Except ResolutionError α → Except PlanError α
  | .ok value => .ok value
  | .error error => .error (.resolution error)

def tableOf (src : Sources) (head : Tree.Head) : Except PlanError Table :=
  match src.catalog.tableForType head.target.type with
  | .ok table => .ok table
  | .error error => .error (.resolution ⟨head.field ++ ": " ++ error.message⟩)

/-- The condition that joins a relation to the one around it; at the top there is none. -/
def joinOf (src : Sources) (parent? : Option TableRef) (head : Tree.Head) (self : TableRef) :
    Except PlanError (List Predicate) :=
  match parent? with
  | none => .ok []
  | some parent =>
    match src.registry.resolve head.field parent self with
    | .ok pred => .ok [pred]
    | .error missing => .error (.relation missing)

/-- The condition for the rows after a cursor, if one is given. -/
def boundaryOf (head : Tree.Head) (order : List OrderField) :
    Option Keyset.Cursor → Except PlanError (Option Predicate)
  | none => .ok none
  | some cursor =>
    match Keyset.boundary order cursor head.aliasName with
    | .ok pred => .ok (some pred)
    | .error error => .error (.resolution ⟨"after on " ++ head.field ++ ": " ++ error.message⟩)

/-- Find the table of a relation, read its arguments and join it to the relation around it. -/
def frameOf (src : Sources) (parent? : Option TableRef) (head : Tree.Head) :
    Except PlanError Frame := do
  let table ← tableOf src head
  let self : TableRef := ⟨table.name, head.aliasName⟩
  let args ← resolved (readArguments head table)
  let order := effectiveOrder table args.order
  let filters ← resolved (filterPredicates table self.aliasName args.filters)
  let join ← joinOf src parent? head self
  let boundary? ← boundaryOf head order args.after?
  return { head, table, self, limit? := args.limit?, order, predicates := filters ++ join,
           boundary? }

/-- The members of the JSON object of a row, and the columns that hold their values. -/
structure RowParts where
  members : List (String × Expr)
  columns : List (Expr × Option String)

def columnName (number : Nat) : String := "f" ++ toString number

def RowParts.addColumn (parts : RowParts) (frame : Frame) (number : Nat) (key : String)
    (value : Expr) : RowParts :=
  let name := columnName number
  ⟨(key, frame.read name) :: parts.members, (value, some name) :: parts.columns⟩

mutual

/-- Compile a relation, at the top of a request or below another one. -/
def compileRelation (src : Sources) (parent? : Option TableRef) (head : Tree.Head)
    (children : List Tree.Node) : Except PlanError Compiled := do
  let frame ← frameOf src parent? head
  let row ← compileChildren src frame [] 0 children
  return ⟨frame.rows, frame.body row.columns, frame.value row.members⟩
  termination_by (sizeOf children, 1)

/-- Compile the children of a relation. Of children with one response name the first counts. -/
def compileChildren (src : Sources) (frame : Frame) (seen : List String) (number : Nat) :
    List Tree.Node → Except PlanError RowParts
  | [] => .ok ⟨[], []⟩
  | .attribute field key :: rest =>
    if key ∈ seen then compileChildren src frame seen number rest
    else if field = "__typename" then do
      let parts ← compileChildren src frame (key :: seen) number rest
      return { parts with members := (key, .text frame.head.target.type) :: parts.members }
    else do
      let value ← frame.column field
      let parts ← compileChildren src frame (key :: seen) (number + 1) rest
      return parts.addColumn frame number key value
  | .relation head children :: rest =>
    if head.responseName ∈ seen then compileChildren src frame seen number rest
    else do
      let compiled ← compileRelation src (some frame.self) head children
      let parts ← compileChildren src frame (head.responseName :: seen) (number + 1) rest
      return parts.addColumn frame number head.responseName
        (.subquery (compiled.query compiled.value none))
  termination_by nodes => (sizeOf nodes, 0)

end

/-- A statement for one relation at the top of a request. A single one yields at most one row, all
others exactly one. -/
structure Statement where
  responseName : String
  aliasName : String
  isSingle : Bool
  query : Query

def Statement.rendered (stmt : Statement) : Sql.Rendered :=
  stmt.query.render

def compile (src : Sources) (root : Tree.Root) : Except PlanError Statement := do
  let compiled ← compileRelation src none root.head root.children
  return {
    responseName := root.head.responseName
    aliasName := root.head.aliasName
    isSingle := !root.head.target.isList
    query := compiled.query (.grouped compiled.value) (some root.head.responseName) }

end SelectGraph.Plan
