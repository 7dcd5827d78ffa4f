import SelectGraph.Catalog.Basic
import SelectGraph.Sql.Query

/-!
# Relations

A relation leads from the rows of one table to rows of another by equal columns, either between
the two tables or through a junction table. Relations are registered by name and the ordered
pair of tables.
-/

namespace SelectGraph

open Sql (ColumnRef Predicate)

inductive Strategy where
  | direct
  | reverse
  | junction
  | self
  | other (word : String)
  deriving DecidableEq

def Strategy.word : Strategy → String
  | .direct => "direct"
  | .reverse => "reverse"
  | .junction => "junction"
  | .self => "self"
  | .other word => word

def Strategy.ofWord : String → Strategy
  | "direct" => .direct
  | "reverse" => .reverse
  | "junction" => .junction
  | "self" => .self
  | word => .other word

/-- The junction table of a relation: for each side, pairs of an outer and a junction column. -/
structure Through where
  table : String
  left : List (String × String)
  right : List (String × String)
  deriving DecidableEq

/-- A relation. `pairs` are columns of the left table and the right table that must be equal. -/
structure Relation where
  name : String
  left : String
  right : String
  strategy : Strategy
  pairs : List (String × String)
  through? : Option Through
  deriving DecidableEq

/-- A table under the name it has in a statement. -/
structure TableRef where
  table : String
  aliasName : String
  deriving DecidableEq, Inhabited

namespace Relation

inductive Invalid where
  | unnamed (name left right : String)
  | noPairs (name left right : String) (strategy : Strategy)
  | twoTables (name left right : String)
  | noJunction (name left right : String)
  | unknownStrategy (name word : String)
  | unknownTable (name table : String)
  | unknownColumn (name table col : String)
  | unknownJunction (name table : String)
  deriving DecidableEq

def Invalid.message : Invalid → String
  | .unnamed name left right =>
    "relationship entry needs name, left and right (got " ++ Text.quote name ++ ", " ++
      Text.quote left ++ ", " ++ Text.quote right ++ ")"
  | .noPairs name left right strategy =>
    "relationship " ++ name ++ " (" ++ left ++ " -> " ++ right ++ "): strategy " ++
      strategy.word ++ " needs at least one column pair"
  | .twoTables name left right =>
    "relationship " ++ name ++ ": self strategy joins one table, got " ++ left ++ " and " ++ right
  | .noJunction name left right =>
    "relationship " ++ name ++ " (" ++ left ++ " -> " ++ right ++
      "): junction strategy needs a through table with left and right pairs"
  | .unknownStrategy name word =>
    "relationship " ++ name ++ ": unknown strategy " ++ Text.quote word
  | .unknownTable name table => "relationship " ++ name ++ ": unknown table " ++ table
  | .unknownColumn name table col =>
    "relationship " ++ name ++ ": unknown column " ++ table ++ "." ++ col
  | .unknownJunction name table => "relationship " ++ name ++ ": unknown junction table " ++ table

/-- Check that a relation has what its strategy needs. -/
def validate (rel : Relation) : Except Invalid Unit :=
  let (name, left, right) := (rel.name, rel.left, rel.right)
  if name = "" ∨ left = "" ∨ right = "" then .error (.unnamed name left right)
  else
    match rel.strategy with
    | .direct | .reverse =>
      if rel.pairs.isEmpty then .error (.noPairs name left right rel.strategy) else .ok ()
    | .self =>
      if rel.pairs.isEmpty then .error (.noPairs name left right .self)
      else if left ≠ right then .error (.twoTables name left right)
      else .ok ()
    | .junction =>
      match rel.through? with
      | none => .error (.noJunction name left right)
      | some through =>
        if through.table = "" ∨ through.left.isEmpty ∨ through.right.isEmpty then
          .error (.noJunction name left right)
        else .ok ()
    | .other word => .error (.unknownStrategy name word)

/-- Check the columns of pairs: the first in one table, the second in another. Both tables come
with the name that messages use. -/
def checkPairs (name : String) (first second : Table × String) :
    List (String × String) → Except Invalid Unit
  | [] => .ok ()
  | (a, b) :: pairs =>
    if (first.1.column? a).isNone then .error (.unknownColumn name first.2 a)
    else if (second.1.column? b).isNone then .error (.unknownColumn name second.2 b)
    else checkPairs name first second pairs

/-- Check that every table and column of a relation is in the catalog. -/
def check (rel : Relation) (catalog : Catalog) : Except Invalid Unit :=
  let name := rel.name
  match catalog.table? rel.left with
  | none => .error (.unknownTable name rel.left)
  | some left =>
    match catalog.table? rel.right with
    | none => .error (.unknownTable name rel.right)
    | some right => do
        checkPairs name (left, rel.left) (right, rel.right) rel.pairs
        match rel.through? with
        | none => return ()
        | some through =>
          match catalog.table? through.table with
          | none => throw (.unknownJunction name through.table)
          | some table =>
            checkPairs name (left, left.name) (table, table.name) through.left
            checkPairs name (right, right.name) (table, table.name) through.right

def junctionAlias (right : TableRef) : String :=
  "j_" ++ right.aliasName

/-- The condition under which rows of the two tables are related. -/
def predicate (rel : Relation) (left right : TableRef) : Predicate :=
  match rel.strategy, rel.through? with
  | .junction, some through =>
    let aliasName := junctionAlias right
    let side (outer : TableRef) (pairs : List (String × String)) : List (ColumnRef × ColumnRef) :=
      pairs.map fun (col, junction) => (⟨aliasName, junction⟩, ⟨outer.aliasName, col⟩)
    .existsRow (.select none [(.one, none)] (.table through.table aliasName)
      [.joined (side left through.left ++ side right through.right)] none none)
  | _, _ =>
    .joined (rel.pairs.map fun (a, b) => (⟨left.aliasName, a⟩, ⟨right.aliasName, b⟩))

def sameKey (a b : Relation) : Bool :=
  a.name == b.name && a.left == b.left && a.right == b.right

end Relation

/-- The relations registered, at most one for each key. -/
structure Registry where
  relations : List Relation
  deriving Inhabited

namespace Registry

structure NotFound where
  name : String
  left : String
  right : String
  deriving DecidableEq

def NotFound.message (missing : NotFound) : String :=
  "no relationship called " ++ Text.quote missing.name ++ " found for tables " ++ missing.left ++
    " and " ++ missing.right

def empty : Registry := ⟨[]⟩

/-- Register a relation in place of the one with the same key. -/
def register (registry : Registry) (rel : Relation) : Except Relation.Invalid Registry :=
  rel.validate.map fun _ =>
    ⟨registry.relations.filter (fun known => !known.sameKey rel) ++ [rel]⟩

def lookup? (registry : Registry) (name left right : String) : Option Relation :=
  registry.relations.find? fun rel =>
    rel.name == name && rel.left == left && rel.right == right

def size (registry : Registry) : Nat :=
  registry.relations.length

def precedes (a b : Relation) : Bool :=
  if a.left ≠ b.left then decide (a.left < b.left)
  else if a.name ≠ b.name then decide (a.name < b.name)
  else decide (a.right ≤ b.right)

/-- All relations, sorted by left table, name and right table. -/
def sorted (registry : Registry) : List Relation :=
  registry.relations.mergeSort precedes

/-- The condition of the relation of a name between two tables. -/
def resolve (registry : Registry) (name : String) (left right : TableRef) :
    Except NotFound Predicate :=
  match registry.lookup? name left.table right.table with
  | some rel => .ok (rel.predicate left right)
  | none => .error ⟨name, left.table, right.table⟩

end Registry

end SelectGraph
