import SelectGraph.Literal.Basic

/-!
# Queries

The statements the compiler produces, as data. A query reads one table or one common table
expression, keeps the rows that satisfy its predicates, orders and limits them, and projects
expressions; it may define one common table expression first. Client values occur only in
the places that become placeholders.
-/

namespace SelectGraph.Sql

/-- A sort direction. Null sorts first when ascending and last when descending. -/
inductive Direction where
  | ascending
  | descending
  deriving DecidableEq, Inhabited

/-- A column of a source that is in scope. -/
structure ColumnRef where
  source : String
  column : String
  deriving DecidableEq

/-- What a query reads: a table under an alias, or a common table expression. -/
inductive Source where
  | table (name aliasName : String)
  | rows (name : String)
  deriving DecidableEq

/-- One term of an ordering: a qualified column or a column of the only source. -/
structure OrderTerm where
  source : Option String
  column : String
  direction : Direction
  deriving DecidableEq

mutual

/-- A value a query projects. -/
inductive Expr where
  /-- A qualified column. -/
  | column (ref : ColumnRef)
  /-- A column of the only source. -/
  | bare (name : String)
  /-- A text constant. -/
  | text (value : String)
  /-- The number one, for a query that projects nothing else. -/
  | one
  /-- The number of rows. -/
  | countRows
  /-- The number of rows before the limit is applied, in every row. -/
  | countWindow
  /-- The position of the row in an order, from one. -/
  | rowNumber (order : List OrderTerm)
  /-- A JSON object. -/
  | object (members : List (String × Expr))
  /-- The JSON array of an expression over all rows, empty when there is none. -/
  | arrayOf (item : Expr)
  /-- A value rendered as text. -/
  | asText (value : Expr)
  /-- JSON false. -/
  | never
  /-- A JSON Boolean: whether the query has a row. -/
  | anyRow (query : Query)
  /-- A JSON Boolean: whether the greatest value of a column exceeds a bound. -/
  | exceeds (col : ColumnRef) (bound : Literal)
  /-- The value of a query with one column and at most one row. -/
  | subquery (query : Query)
  /-- An expression between parentheses. -/
  | grouped (value : Expr)

/-- A condition on rows, with three truth values. -/
inductive Predicate where
  | isNull (col : ColumnRef)
  | isNotNull (col : ColumnRef)
  | equals (col : ColumnRef) (value : Literal)
  | lessThan (col : ColumnRef) (value : Literal)
  | greaterThan (col : ColumnRef) (value : Literal)
  /-- The column equals one of the values; with no value it never holds. -/
  | oneOf (col : ColumnRef) (values : List Literal)
  /-- All column pairs are equal. -/
  | joined (pairs : List (ColumnRef × ColumnRef))
  | existsRow (query : Query)
  | all (parts : List Predicate)
  /-- Some part holds; with no part it never does. -/
  | any (parts : List Predicate)

inductive Query where
  | select (decl : Option (String × Query)) (cols : List (Expr × Option String))
      (source : Source) (conds : List Predicate) (order : Option (List OrderTerm))
      (limit : Option Nat)

end

/-- The columns of a query, each with the name it is given. -/
abbrev Columns := List (Expr × Option String)

end SelectGraph.Sql
