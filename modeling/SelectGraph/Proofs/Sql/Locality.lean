import SelectGraph.Proofs.Sql.Laws

/-!
# What evaluation depends on

Conditions on columns look at the rows in scope only, so a query that reads a table under such
conditions does not depend on the common table expressions in scope.  A query that reads a column of a
common table expression in the order of another depends on these two columns only.
-/

namespace SelectGraph.Sql

open List

variable {store : Store} {scope outer : Scope store}

/-! ## Conditions -/

theorem column_congr (same : scope.sources = outer.sources) (ref : ColumnRef) :
    scope.column ref = outer.column ref := by
  rw [Scope.column, Scope.column, same]

/-- Whether a condition looks at the rows in scope only, and at no common table expression. -/
structure Predicate.Local (part : Predicate) : Prop where
  eval_eq : ∀ {store : Store} {scope outer : Scope store},
    scope.sources = outer.sources → part.eval store scope = part.eval store outer

theorem evalParts_congr {parts : List Predicate} (each : ∀ part ∈ parts, part.Local)
    (same : scope.sources = outer.sources) :
    evalParts store scope parts = evalParts store outer parts := by
  induction parts with
  | nil => rfl
  | cons part parts ih =>
    rw [forall_mem_cons] at each
    rw [evalParts, evalParts, each.1.eval_eq same, ih each.2]

theorem keptRows_congr {table aliasName : String} {conds : List Predicate}
    (each : ∀ part ∈ conds, part.Local) (same : scope.sources = outer.sources) :
    keptRows store scope table aliasName conds = keptRows store outer table aliasName conds := by
  have rows (row : Row store) : evalParts store (rowScope scope aliasName row) conds =
      evalParts store (rowScope outer aliasName row) conds :=
    evalParts_congr each (congrArg ((aliasName, Record.ofRow row) :: ·) same)
  simp only [keptRows, rows]

namespace Predicate.Local

variable {parts : List Predicate}

theorem joined (pairs : List (ColumnRef × ColumnRef)) : (Predicate.joined pairs).Local := by
  constructor
  intro store scope outer same
  simp only [Predicate.eval, column_congr same]

theorem all (each : ∀ part ∈ parts, part.Local) : (Predicate.all parts).Local := by
  constructor
  intro store scope outer same
  rw [Predicate.eval, Predicate.eval, evalParts_congr each same]

theorem any (each : ∀ part ∈ parts, part.Local) : (Predicate.any parts).Local := by
  constructor
  intro store scope outer same
  rw [Predicate.eval, Predicate.eval, evalParts_congr each same]

theorem existsRow (each : ∀ part ∈ parts, part.Local) (table aliasName : String) :
    (Predicate.existsRow (.select none [(.one, none)] (.table table aliasName) parts none
      none)).Local := by
  constructor
  intro store scope outer same
  rw [Predicate.eval, Predicate.eval, eval_probe, eval_probe, keptRows_congr each same]

end Predicate.Local

/-! ## Common table expressions that agree in some columns -/

/-- What is read from a row depends on its cell only. -/
theorem column_enter_congr {record otherRecord : Record store} {col : String}
    (scope outer : Scope store) (same : otherRecord col = record col) (name : String) :
    (outer.enter name otherRecord).column ⟨name, col⟩ =
      (scope.enter name record).column ⟨name, col⟩ := by
  simp only [Scope.column, Scope.enter, lookup_cons_self, same]

/-- A query for one column in the order of another depends on these two columns only. -/
theorem eval_ordered_congr {α : Type} {items : List α} {record otherRecord : α → Record store}
    {name value col : String} (defined : scope.defined.lookup name = some (items.map record))
    (otherDefined : outer.defined.lookup name = some (items.map otherRecord))
    (values : ∀ item, otherRecord item value = record item value)
    (keys : ∀ item, otherRecord item col = record item col) (direction : Direction)
    (limit : Option Nat) :
    Query.eval store outer (.select none [(.bare value, none)] (.rows name) []
        (some [⟨none, col, direction⟩]) limit) =
      Query.eval store scope (.select none [(.bare value, none)] (.rows name) []
        (some [⟨none, col, direction⟩]) limit) := by
  have bare {column : String} (same : ∀ item, otherRecord item column = record item column)
      (item : α) : (outer.enter name (otherRecord item)).bare column =
        (scope.enter name (record item)).bare column :=
    column_enter_congr scope outer (same item) name
  rw [eval_rows defined, eval_rows otherDefined, resultPlaces_plain rfl, resultPlaces_plain rfl,
    map_map, map_map, rowPlaces_map, rowPlaces_map, arrange_items, arrange_items]
  simp only [itemPlace, Function.comp_apply, Scope.key, mapM_cons, mapM_nil, bare keys, bind_assoc]
  refine bind_congr fun pairs => ?_
  simp only [pure_eq_ok, ok_bind, cut_map, mapM_map, Function.comp_def, evalColumns, Expr.eval,
    itemPlace, bare values]

end SelectGraph.Sql
