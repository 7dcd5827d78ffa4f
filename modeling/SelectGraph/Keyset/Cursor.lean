import SelectGraph.Literal.Json
import SelectGraph.Sql.Query

/-!
# Cursors

A cursor is the JSON text of an object that holds the order columns of one row. The database
renders it; reading it back gives the condition for the rows that follow that row. The
condition goes through the order columns one by one: a row follows if it is beyond the
cursor in the first column, or level with it there and beyond it in the rest.
-/

namespace SelectGraph.Keyset

open Sql (ColumnRef Direction Expr Predicate)

structure OrderField where
  column : String
  direction : Direction
  deriving DecidableEq, Inhabited

/-- The values of a cursor by column name, in the order of the text. -/
abbrev Cursor := List (String × Literal)

inductive CursorError where
  | json (cause : Literal.JsonError)
  | notObject
  | repeated (field : String)
  | notScalar (field : String)
  deriving DecidableEq

def CursorError.message : CursorError → String
  | .json cause => "invalid cursor: " ++ cause.message
  | .notObject => "invalid cursor: expected a JSON object"
  | .repeated field => "invalid cursor: duplicate field " ++ field
  | .notScalar field => "invalid cursor: field " ++ field ++ " must hold a scalar value"

/-- Check the fields of a cursor from left to right; the names before them are given. -/
def checkFields (seen : List String) : List (String × Literal) → Except CursorError Unit
  | [] => .ok ()
  | (name, value) :: fields =>
    if name ∈ seen then .error (.repeated name)
    else if !value.isNull && !value.isScalar then .error (.notScalar name)
    else checkFields (name :: seen) fields

def Cursor.decode (text : String) : Except CursorError Cursor :=
  match Literal.ofJson text with
  | .error cause => .error (.json cause)
  | .ok (.object fields) => (checkFields [] fields).map fun _ => fields
  | .ok _ => .error .notObject

def cursorExpr (fields : List OrderField) (aliasName : String) : Expr :=
  .asText (.object (fields.map fun field => (field.column, .column ⟨aliasName, field.column⟩)))

inductive BoundaryError where
  | noOrder
  | missing (field : String)
  | extra (fields : List String)
  deriving DecidableEq

def BoundaryError.message : BoundaryError → String
  | .noOrder => "cursor requires at least one order field"
  | .missing field => "cursor is missing order field " ++ field
  | .extra fields => "cursor fields not part of the ordering: " ++ ", ".intercalate fields

def without (name : String) (values : Cursor) : Cursor :=
  values.filter fun entry => entry.1 != name

/-- Take the value of each order field, the last given one if there are several; what is left
over comes second. -/
def takeValues : List OrderField → Cursor → Except BoundaryError (List (OrderField × Literal) × Cursor)
  | [], values => .ok ([], values)
  | field :: fields, values =>
    match values.reverse.lookup field.column with
    | none => .error (.missing field.column)
    | some value => do
        let (others, rest) ← takeValues fields (without field.column values)
        return ((field, value.sqlValue) :: others, rest)

def beyond (col : ColumnRef) (direction : Direction) (value : Literal) : List Predicate :=
  match direction, value with
  | .ascending, .null => [.isNotNull col]
  | .ascending, value => [.greaterThan col value]
  | .descending, .null => []
  | .descending, value => [.lessThan col value, .isNull col]

def level (col : ColumnRef) (value : Literal) : Predicate :=
  match value with
  | .null => .isNull col
  | value => .equals col value

/-- Some part of a condition; a single part stands for itself. -/
def someOf : List Predicate → Predicate
  | [part] => part
  | parts => .any parts

/-- The rows strictly after a cursor. In a descending column nothing follows null, so only the rest
of the order counts there. -/
def after (aliasName : String) : List (OrderField × Literal) → Predicate
  | [] => .any []
  | [(field, value)] =>
    someOf (beyond ⟨aliasName, field.column⟩ field.direction value)
  | (field, value) :: rest =>
    let col : ColumnRef := ⟨aliasName, field.column⟩
    let tie := .all [level col value, after aliasName rest]
    match beyond col field.direction value with
    | [] => tie
    | parts => .any (parts ++ [tie])

/-- Sort texts and drop repetitions. -/
def sortedNames (names : List String) : List String :=
  names.eraseDups.mergeSort fun a b => decide (a ≤ b)

/-- The condition for the rows strictly after a cursor in an ordering. The cursor holds exactly
the order columns, in any sequence. -/
def boundary (fields : List OrderField) (cursor : Cursor) (aliasName : String) :
    Except BoundaryError Predicate :=
  if fields.isEmpty then .error .noOrder
  else do
    let (values, rest) ← takeValues fields cursor
    match sortedNames (rest.map (·.1)) with
    | [] => return after aliasName values
    | extra => throw (.extra extra)

end SelectGraph.Keyset
