import SelectGraph.Plan.Order
import SelectGraph.Tree.Basic

/-!
# Arguments of relations

Three argument names have a meaning of their own: how many rows, in which order, and after which
cursor. All others filter. Of arguments with one name the last one counts, except that a null
cursor does not take back an earlier one.
-/

namespace SelectGraph.Plan

open Keyset (Cursor OrderField)

structure Arguments where
  limit? : Option Nat
  after? : Option Cursor
  order : List OrderField
  filters : List (String × Literal)
  deriving Inhabited

def readLimit (field : String) : Literal → Except ResolutionError (Option Nat)
  | .null => .ok none
  | .int value =>
    if value < 0 then
      .error ⟨"first on " ++ field ++ " must be non-negative, got " ++ toString value⟩
    else .ok (some value.toNat)
  | .uint value => .ok (some value)
  | value => .error ⟨"first on " ++ field ++ " must be an integer, got " ++ value.describe⟩

def Arguments.add (field : String) (table : Table) (found : Arguments)
    (arg : String × Literal) : Except ResolutionError Arguments :=
  match arg with
  | ("first", value) => do return { found with limit? := ← readLimit field value }
  | ("after", .null) => .ok found
  | ("after", .text text) =>
    match Cursor.decode text with
    | .ok cursor => .ok { found with after? := some cursor }
    | .error error => .error ⟨"after on " ++ field ++ ": " ++ error.message⟩
  | ("after", value) => .error ⟨"after on " ++ field ++ " must be a string, got " ++ value.describe⟩
  | ("orderBy", value) =>
    match explicitOrder table value with
    | .ok order => .ok { found with order }
    | .error error => .error ⟨"orderBy on " ++ field ++ ": " ++ error.message⟩
  | filter => .ok { found with filters := found.filters ++ [filter] }

def readArguments (head : Tree.Head) (table : Table) : Except ResolutionError Arguments :=
  head.arguments.foldlM (Arguments.add head.field table) ⟨none, none, [], []⟩

/-! ## Filters

An argument named like a column keeps the rows whose column has the given value, or one of the given
values. Null is a value here: it finds the rows where the column is null. -/

open Sql (ColumnRef Predicate)

/-- The scalars of a list for a statement; anything else that is not null is refused. -/
def listScalars (name : String) : List Literal → Except ResolutionError (List Literal)
  | [] => .ok []
  | item :: items =>
    if item.isNull then listScalars name items
    else if item.isScalar then do
      let others ← listScalars name items
      return item.sqlValue :: others
    else .error ⟨"argument " ++ name ++ ": unsupported list element " ++ item.describe⟩

def filterPredicate (col : ColumnRef) (name : String) (value : Literal) :
    Except ResolutionError Predicate :=
  match value with
  | .null => .ok (.isNull col)
  | .list items => do
      let scalars ← listScalars name items
      if items.any Literal.isNull then
        if scalars.isEmpty then return .isNull col
        else return .any [.oneOf col scalars, .isNull col]
      else return .oneOf col scalars
  | value =>
    if value.isScalar then .ok (.equals col value.sqlValue)
    else .error ⟨"argument " ++ name ++ ": unsupported value " ++ value.describe⟩

def filterPredicates (table : Table) (aliasName : String) :
    List (String × Literal) → Except ResolutionError (List Predicate)
  | [] => .ok []
  | (name, value) :: filters =>
    match table.column? name with
    | none => .error ⟨"argument " ++ name ++ " does not match a column of table " ++ table.name⟩
    | some col => do
        let first ← filterPredicate ⟨aliasName, col.name⟩ name value
        let others ← filterPredicates table aliasName filters
        return first :: others

end SelectGraph.Plan
