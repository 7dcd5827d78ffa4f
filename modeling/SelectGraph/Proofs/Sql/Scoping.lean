import SelectGraph.Catalog.Basic
import SelectGraph.Sql.Render
import SelectGraph.Proofs.Sql.Evaluation

/-!
# Scoping of queries

Which names a query may use.  A source in scope offers the columns of a table or those that a common
table expression projects, and a name means the innermost source of that name.  The query of a
common table expression sees what is around the query that defines it, but not that query's source.
-/

namespace SelectGraph.Sql

/-- What a source lets be read: the columns of a table, or those that a query projects. -/
inductive Visible where
  | table (found : Table)
  | rows (cols : List String)

/-- Whether a source has a column. Columns of tables are found without regard to case. -/
def Visible.Offers : Visible → String → Prop
  | .table found, col => ∃ known ∈ found.columns, Text.equalFold known.name col = true
  | .rows cols, col => col ∈ cols

/-- The names that can be used in a place of a statement, innermost first: those of sources, and
those of common table expressions with the columns they project. -/
structure NameScope where
  sources : List (String × Visible)
  defined : List (String × List String)

namespace NameScope

def empty : NameScope := ⟨[], []⟩

def enter (scope : NameScope) (name : String) (visible : Visible) : NameScope :=
  { scope with sources := (name, visible) :: scope.sources }

def define (scope : NameScope) (name : String) (cols : List String) : NameScope :=
  { scope with defined := (name, cols) :: scope.defined }

/-- Whether a name means a source. -/
def Sees (scope : NameScope) (name : String) (visible : Visible) : Prop :=
  scope.sources.lookup name = some visible

def Reads (scope : NameScope) (ref : ColumnRef) : Prop :=
  ∃ visible, scope.Sees ref.source visible ∧ visible.Offers ref.column

/-- Whether a column can be read without naming its source, which is the innermost one. -/
def ReadsBare (scope : NameScope) (col : String) : Prop :=
  ∃ name visible, scope.sources.head? = some (name, visible) ∧ visible.Offers col

/-- Whether the columns of an order can be read. -/
def ReadsOrder (scope : NameScope) (order : List OrderTerm) : Prop :=
  ∀ term ∈ order,
    match term.source with
    | some source => scope.Reads ⟨source, term.column⟩
    | none => scope.ReadsBare term.column

variable {scope : NameScope} {name other : String} {visible : Visible}

theorem sees_enter (scope : NameScope) (name : String) (visible : Visible) :
    (scope.enter name visible).Sees name visible := by
  simp [Sees, enter]

theorem Sees.enter (sees : scope.Sees name visible) (apart : name ≠ other) (inner : Visible) :
    (scope.enter other inner).Sees name visible := by
  simpa [Sees, NameScope.enter, List.lookup_cons, beq_eq_false_iff_ne.mpr apart] using sees

end NameScope

/-- The name of a projected column: what it is called, or else its own text. -/
def columnLabel (col : Expr × Option String) : String :=
  col.2.getD (sqlText col.1.pieces)

/-- The names of the columns a query projects. -/
def Query.labels : Query → List String
  | .select _ cols _ _ _ _ => cols.map columnLabel

/-- What can be read from the source of a query, if it is known. -/
def Source.visible? (catalog : Catalog) (scope : NameScope) : Source → Option Visible
  | .table name _ => (catalog.table? name).map .table
  | .rows name => (scope.defined.lookup name).map .rows

mutual

/-- Whether an expression uses only names that can be used. -/
def Expr.Scoped (catalog : Catalog) (scope : NameScope) : Expr → Prop
  | .column ref => scope.Reads ref
  | .bare name => scope.ReadsBare name
  | .text _ | .one | .countRows | .countWindow | .never => True
  | .rowNumber order => scope.ReadsOrder order
  | .object members => membersScoped catalog scope members
  | .arrayOf item => Expr.Scoped catalog scope item
  | .asText value => Expr.Scoped catalog scope value
  | .anyRow query => Query.Scoped catalog scope query
  | .exceeds col _ => scope.Reads col
  | .subquery query => Query.Scoped catalog scope query
  | .grouped value => Expr.Scoped catalog scope value

/-- Whether the members of a JSON object use only names that can be used. -/
def membersScoped (catalog : Catalog) (scope : NameScope) : List (String × Expr) → Prop
  | [] => True
  | (_, value) :: members =>
    Expr.Scoped catalog scope value ∧ membersScoped catalog scope members

def Predicate.Scoped (catalog : Catalog) (scope : NameScope) : Predicate → Prop
  | .isNull col | .isNotNull col => scope.Reads col
  | .equals col _ | .lessThan col _ | .greaterThan col _ => scope.Reads col
  | .oneOf col _ => scope.Reads col
  | .joined pairs => ∀ pair ∈ pairs, scope.Reads pair.1 ∧ scope.Reads pair.2
  | .existsRow query => Query.Scoped catalog scope query
  | .all parts => partsScoped catalog scope parts
  | .any parts => partsScoped catalog scope parts

def partsScoped (catalog : Catalog) (scope : NameScope) : List Predicate → Prop
  | [] => True
  | part :: parts => Predicate.Scoped catalog scope part ∧ partsScoped catalog scope parts

def columnsScoped (catalog : Catalog) (scope : NameScope) : List (Expr × Option String) → Prop
  | [] => True
  | (value, _) :: cols => Expr.Scoped catalog scope value ∧ columnsScoped catalog scope cols

/-- Whether a query uses only names that can be used, and a common table expression it defines
projects no two columns of one name. -/
def Query.Scoped (catalog : Catalog) (scope : NameScope) : Query → Prop
  | .select decl cols source conds order _ =>
    let inner := match decl with
      | none => scope
      | some (name, body) => scope.define name body.labels
    (match decl with
      | none => True
      | some (_, body) => Query.Scoped catalog scope body ∧ body.labels.Nodup) ∧
    ∃ visible, source.visible? catalog inner = some visible ∧
      columnsScoped catalog (inner.enter source.name visible) cols ∧
      partsScoped catalog (inner.enter source.name visible) conds ∧
      (inner.enter source.name visible).ReadsOrder (order.getD [])

end

section Lists

variable {catalog : Catalog} {scope : NameScope}

theorem membersScoped_iff {members : List (String × Expr)} :
    membersScoped catalog scope members ↔ ∀ member ∈ members, member.2.Scoped catalog scope := by
  induction members with
  | nil => simp [membersScoped]
  | cons member members ih => simp [membersScoped, ih]

theorem partsScoped_iff {parts : List Predicate} :
    partsScoped catalog scope parts ↔ ∀ part ∈ parts, part.Scoped catalog scope := by
  induction parts with
  | nil => simp [partsScoped]
  | cons part parts ih => simp [partsScoped, ih]

theorem columnsScoped_iff {cols : Columns} :
    columnsScoped catalog scope cols ↔ ∀ col ∈ cols, col.1.Scoped catalog scope := by
  induction cols with
  | nil => simp [columnsScoped]
  | cons col cols ih => simp [columnsScoped, ih]

end Lists

end SelectGraph.Sql
