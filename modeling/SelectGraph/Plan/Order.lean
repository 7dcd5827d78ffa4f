import SelectGraph.Catalog.Basic
import SelectGraph.Keyset.Cursor

/-!
# Orders of rows

A request may order rows by some columns. The order is made total by the primary key, or by all
columns of a table that has none, so that cursors are never ambiguous.
-/

namespace SelectGraph.Plan

open Keyset (OrderField)
open Sql (Direction OrderTerm)

inductive OrderError where
  | notObject (found : Literal)
  | unknownField (field table : String)
  | direction (field found : String)

def OrderError.message : OrderError → String
  | .notObject found => "expected an input object, got " ++ found.describe
  | .unknownField field table => "unknown field " ++ field ++ " on table " ++ table
  | .direction field found =>
    "field " ++ field ++ ": direction must be ASC or DESC, got " ++ found

def direction? (word : String) : Option Direction :=
  if Text.equalFold word "ASC" then some .ascending
  else if Text.equalFold word "DESC" then some .descending
  else none

def directionOf (field : String) : Literal → Except OrderError Direction
  | .enum word | .text word =>
    match direction? word with
    | some direction => .ok direction
    | none => .error (.direction field word)
  | value => .error (.direction field value.describe)

/-- Read the fields of an order from left to right; fields without a direction are passed over, and
a column counts once. -/
def orderFields (table : Table) (seen : List String) :
    List (String × Literal) → Except OrderError (List OrderField)
  | [] => .ok []
  | (name, value) :: fields =>
    if value.isNull then orderFields table seen fields
    else
      match table.column? name with
      | none => .error (.unknownField name table.name)
      | some col => do
          let direction ← directionOf name value
          if col.name ∈ seen then orderFields table seen fields
          else
            let others ← orderFields table (col.name :: seen) fields
            return ⟨col.name, direction⟩ :: others

def explicitOrder (table : Table) : Literal → Except OrderError (List OrderField)
  | .null => .ok []
  | .object fields => orderFields table [] fields
  | value => .error (.notObject value)

/-- Add columns at the end, ascending, that are not there yet. -/
def addColumns (order : List OrderField) : List String → List OrderField
  | [] => order
  | col :: cols =>
    if order.any fun field => field.column == col then addColumns order cols
    else addColumns (order ++ [⟨col, .ascending⟩]) cols

/-- The order of rows: what the request gives, completed to a total order. -/
def effectiveOrder (table : Table) (explicit : List OrderField) : List OrderField :=
  addColumns explicit (if table.primaryKey.isEmpty then table.columnNames else table.primaryKey)

def orderTerms (order : List OrderField) (aliasName : String) : List OrderTerm :=
  order.map fun field => ⟨some aliasName, field.column, field.direction⟩

end SelectGraph.Plan
