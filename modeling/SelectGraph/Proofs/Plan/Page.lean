import SelectGraph.Proofs.Plan.Rows

/-!
# The rows of a common table expression

The common table expression of a relation has one row for each row of the page, in its sequence.
Besides the columns of the members it holds what connections show of each row: its cursor, the
number of rows that remain, and its place in the order.
-/

namespace SelectGraph.Plan

open List

open Keyset (OrderField directions key_orderTerms rowKey)
open Sql (Columns Domain Expr Failure Place Result Row Scope Store arrange bind_eq_ok cut cut_map
  evalColumns evalColumns_append itemPlace mapM_eq_map ok_bind rowNumber rowPlaces rowPlaces_map
  rowScope)

variable {store : Store} {scope : Scope store} {cols : Columns}
  {src : Sources} {slots : Slots}

/-! ## Numbered rows -/

namespace Criteria

variable (crit : Criteria)

/-- The remaining rows with their numbers, arranged as the rows are. -/
def arrangedItems (store : Store) (row? : Option (Row store)) (isList : Bool) :
    List (Row store × Nat) :=
  if isList then
    store.ordering.sort (directions crit.order) (fun item => rowKey crit.order item.1)
      (crit.remaining store row?).zipIdx
  else (crit.remaining store row?).zipIdx

/-- The rows of the page with their numbers. -/
def pageItems (store : Store) (row? : Option (Row store)) (isList : Bool) :
    List (Row store × Nat) :=
  cut crit.arguments.limit? (crit.arrangedItems store row? isList)

theorem arrangedItems_fst (row? : Option (Row store)) (isList : Bool) :
    (crit.arrangedItems store row? isList).map Prod.fst =
      crit.arranged store row? isList := by
  have rows : (crit.remaining _ row?).zipIdx.map _ =
      crit.remaining _ row? := zipIdx_map_fst 0 _
  rw [arrangedItems, arranged]
  split
  · rw [← Sql.Arrangement.sort_map, rows]
  · exact rows

theorem arrangedItems_length (row? : Option (Row store)) (isList : Bool) :
    (crit.arrangedItems store row? isList).length =
      (crit.remaining store row?).length := by
  rw [← length_map _, arrangedItems_fst, arranged]
  split
  · exact (store.ordering.sort_perm _ _ _).length_eq
  · rfl

theorem pageItems_fst (row? : Option (Row store)) (isList : Bool) :
    (crit.pageItems store row? isList).map Prod.fst = crit.page store row? isList := by
  rw [pageItems, ← cut_map, arrangedItems_fst, page]

/-- Where the columns of a row are evaluated. -/
def place (scope : Scope store) (aliasName : String) (row? : Option (Row store)) :
    Row store × Nat → Place store :=
  itemPlace store (crit.remaining store row?) (rowScope scope aliasName)

theorem key_rowScope (aliasName : String) (row : Row store) :
    (rowScope scope aliasName row).key (orderTerms crit.order aliasName) =
      .ok (rowKey crit.order row) :=
  key_orderTerms (Scope.binds_enter _ _ row) _

/-- The rows are arranged in the order of the relation. -/
theorem arrange_eq (aliasName : String) (row? : Option (Row store)) (isList : Bool) :
    arrange store (rowPlaces store ((crit.remaining store row?).map (rowScope scope aliasName)))
        (if isList then some (orderTerms crit.order aliasName) else none) =
      .ok ((crit.arrangedItems store row? isList).map
        (crit.place scope aliasName row?)) := by
  rw [rowPlaces_map]
  cases isList with
  | false => rfl
  | true =>
    have keys : ∀ item ∈ (crit.remaining _ row?).zipIdx,
        (crit.place scope _ row? item).scope.key
          _ = .ok _ :=
      fun item _ => crit.key_rowScope aliasName item.1
    have arranged := Sql.arrange_map keys
    rwa [Keyset.directions_orderTerms] at arranged

/-- The number of a row in the order of the relation. -/
def rank (store : Store) (row? : Option (Row store)) (index : Nat) : Nat :=
  (store.numbering.places (directions crit.order)
    ((crit.remaining store row?).map (rowKey crit.order))).idxOf index + 1

theorem place_number (aliasName : String) (row? : Option (Row store))
    (item : Row store × Nat) :
    (crit.place scope aliasName row? item).number (orderTerms crit.order aliasName) =
      .ok (crit.rank store row? item.2) := by
  have keys : ((crit.remaining _ row?).map (rowScope scope aliasName)).mapM
        (·.key (orderTerms crit.order aliasName)) =
      .ok ((crit.remaining _ row?).map (rowKey crit.order)) := by
    rw [mapM_map]
    exact mapM_eq_map fun row _ => crit.key_rowScope _ row
  simp [place, itemPlace, rowNumber, keys, rank, Keyset.directions_orderTerms]

theorem filter_remaining (row? : Option (Row store)) :
    (store.rows crit.table.name).filter (fun row =>
      (crit.filtered row && crit.joined store row? row) && crit.follows row) =
        crit.remaining store row? := by
  rw [remaining, matching, filter_filter]
  exact filter_congr fun row _ => Bool.and_comm _ _

end Criteria

/-! ## Columns that do not aggregate -/

/-- Whether no column aggregates. -/
def Plain (cols : List (Expr × Option String)) : Prop :=
  ∀ col ∈ cols, col.1.aggregates = false

theorem Plain.append {others : Columns} (plain : Plain cols)
    (plainOthers : Plain others) : Plain (cols ++ others) :=
  forall_mem_append.mpr ⟨plain, plainOthers⟩

theorem Plain.any_eq_false (plain : Plain cols) : cols.any (·.1.aggregates) = false := by
  rw [List.any_eq_false]
  exact fun col mem => Bool.eq_false_iff.mp (plain _ mem)

theorem cursorExpr_plain (fields : List OrderField) (aliasName : String) :
    (Keyset.cursorExpr fields aliasName).aggregates = false := by
  induction fields with
  | nil => rfl
  | cons field fields ih => exact ih

theorem extras_plain (frame : Frame) (cols : Columns) :
    Plain (frame.extras cols) := by
  intro col mem
  rcases Frame.mem_extras mem with rfl | paging
  · rfl
  · obtain ⟨conn, -, ⟨-, rfl⟩ | ⟨-, rfl⟩ | ⟨-, rfl⟩⟩ := Frame.mem_pagingColumns.mp paging
    · exact cursorExpr_plain _ _
    · rfl
    · rfl

theorem compileNode_plain {frame : Frame} {node : Tree.Node} {expr : Expr}
    (compiled : compileNode src frame node = .ok (.computed expr)) :
    expr.aggregates = false := by
  rcases node with ⟨field, key⟩ | ⟨head, children⟩
  · obtain same | ⟨col, -, same⟩ := compileNode_attribute compiled
    · cases same
    · cases same
      rfl
  · obtain ⟨_, _, same⟩ := bind_eq_ok.mp compiled
    cases same
    rfl

theorem compileNodes_plain {frame : Frame} {seen : List String} {nodes : List Tree.Node}
    (number : Nat) (compiled : compileNodes src frame seen nodes = .ok slots) :
    Plain (numbered frame number slots).columns := by
  have each := compileNodes_slotsOf compiled
  clear compiled
  induction each generalizing number with
  | nil => exact forall_mem_nil _
  | again known rest ih => exact ih _
  | @first _ _ _ slot _ new here rest ih =>
    cases slot with
    | text value => exact ih _
    | computed expr =>
      exact forall_mem_cons.mpr ⟨compileNode_plain here, ih _⟩

/-! ## Evaluation -/

variable {frame : Frame} {crit : Criteria} {parent? : Option TableRef}
  {row? : Option (Row store)}

/-- The common table expression has a row for each row of the page. -/
theorem body_eval (realizes : frame.Realizes parent? crit)
    (around : Surrounded scope frame.head.aliasName parent? row?) (plain : Plain cols) :
    (frame.body cols).eval store scope =
      (crit.pageItems store row? frame.head.target.isList).mapM fun item =>
        evalColumns store (crit.place scope frame.head.aliasName row? item)
          (cols ++ frame.extras cols) := by
  have aliasName : frame.self.aliasName = frame.head.aliasName := by rw [realizes.self]
  have table : frame.self.table = crit.table.name := by rw [realizes.self]
  have source : frame.source = .table crit.table.name frame.head.aliasName := by
    rw [Frame.source, table, aliasName]
  have allPlain := (plain.append (extras_plain frame cols)).any_eq_false
  rw [Frame.body_eq, source, aliasName, Sql.eval_table, (realizes.remaining around).keptRows, ok_bind,
    crit.filter_remaining, Sql.resultPlaces_plain allPlain, realizes.order, crit.arrange_eq, ok_bind,
    realizes.limit, cut_map, mapM_map]
  rfl

theorem cursorExpr_eval {place : Place store} {aliasName : String}
    {row : Row store} (binds : place.scope.Binds aliasName row)
    (order : List OrderField) :
    (Keyset.cursorExpr order aliasName).eval store place = .ok (.text (cursorText order row)) := by
  have members : Sql.evalMembers _ place
        (order.map fun field => (field.column, .column ⟨aliasName, field.column⟩)) =
      .ok (order.map fun field => (field.column, columnJson row field.column)) := by
    induction order with
    | nil => rfl
    | cons field order ih =>
      rw [map_cons, Sql.evalMembers, Expr.eval, binds.column, ih]
      rfl
  rw [Keyset.cursorExpr, Expr.eval, Expr.eval, members]
  rfl

/-- What connections show of a row can always be computed. -/
theorem extras_eval (realizes : frame.Realizes parent? crit)
    (cols : Columns) (item : Row store × Nat) :
    ∃ extra, evalColumns store (crit.place scope frame.head.aliasName row? item)
      (frame.extras cols) = .ok extra := by
  refine Sql.evalColumns_ok fun col mem => ?_
  rcases Frame.mem_extras mem with rfl | paging
  · exact ⟨_, rfl⟩
  · obtain ⟨conn, -, ⟨-, rfl⟩ | ⟨-, rfl⟩ | ⟨-, rfl⟩⟩ := Frame.mem_pagingColumns.mp paging
    · exact ⟨_, cursorExpr_eval (by rw [realizes.self]; exact Scope.binds_enter _ _ _) _⟩
    · exact ⟨_, rfl⟩
    · rw [realizes.order, realizes.self, Expr.eval, crit.place_number]
      exact ⟨_, rfl⟩

/-- A row of a common table expression: the row of the table it comes from, the cells of its members
and what connections show of it. -/
structure Entry (domain : Domain) where
  item : Row domain × Nat
  cells : Result domain
  extra : Result domain

namespace Entry

def result {domain : Domain} (entry : Entry domain) : Result domain :=
  entry.cells ++ entry.extra

def object {domain : Domain} (slots : List (String × Slot)) (entry : Entry domain) : Json :=
  .object (assemble slots entry.cells)

/-- Whether the cells are those that columns have at a place. -/
structure Fits (entry : Entry store)
    (place : Row store × Nat → Place store)
    (cols extras : List (Expr × Option String)) : Prop where
  cells : evalColumns store (place entry.item) cols = .ok entry.cells
  extra : evalColumns store (place entry.item) extras = .ok entry.extra

end Entry

/-- Computing the columns of rows fails exactly when computing their objects does, and in the same
way; otherwise the objects are those that the cells make up. -/
theorem mapM_entries (frame : Frame) {place : Row store × Nat → Place store}
    {object : Row store → Except Failure Json} {extras : Columns}
    (objects : ∀ item, object item.1 = (evalSlots store (place item) slots).map .object)
    (extraCells : ∀ item, ∃ extra, evalColumns store (place item) extras = .ok extra)
    (items : List (Row store × Nat)) :
    (∃ failure,
      items.mapM (fun item => evalColumns store (place item)
        ((numbered frame 0 slots).columns ++ extras)) = .error failure ∧
      (items.map Prod.fst).mapM object = .error failure) ∨
    ∃ entries : List (Entry store),
      items.mapM (fun item => evalColumns store (place item)
        ((numbered frame 0 slots).columns ++ extras)) = .ok (entries.map Entry.result) ∧
      (items.map Prod.fst).mapM object = .ok (entries.map (Entry.object slots)) ∧
      entries.map Entry.item = items ∧
      ∀ entry ∈ entries, entry.Fits place (numbered frame 0 slots).columns extras := by
  induction items with
  | nil => exact .inr ⟨[], rfl, rfl, rfl, forall_mem_nil _⟩
  | cons item items ih =>
    obtain ⟨extra, evaluatedExtra⟩ := extraCells item
    rw [mapM_cons, map_cons, mapM_cons, objects, evalSlots_eq _ 0,
      evalColumns_append, evaluatedExtra]
    cases evaluated : evalColumns _ _ (numbered _ 0 _).columns with
    | error failure => exact .inl ⟨failure, rfl, rfl⟩
    | ok cells =>
      obtain ⟨failure, failed, failedObjects⟩ | ⟨entries, results, values, same, fits⟩ := ih
      · refine .inl ⟨failure, ?_, ?_⟩
        · rw [failed]
          rfl
        · rw [failedObjects]
          rfl
      · refine .inr ⟨⟨item, cells, extra⟩ :: entries, ?_, ?_, ?_, ?_⟩
        · rw [results]
          rfl
        · rw [values]
          rfl
        · rw [map_cons, same]
        · exact forall_mem_cons.mpr ⟨⟨evaluated, evaluatedExtra⟩, fits⟩

end SelectGraph.Plan
