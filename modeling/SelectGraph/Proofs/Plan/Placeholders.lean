import SelectGraph.Proofs.Plan.Simulation
import SelectGraph.Proofs.Sql.Placeholders

/-!
# Placeholders and arguments of statements

Which values a selection tree asks to compare with which columns, in the order of its statement,
read off the tree itself.  The placeholders of the statement stand in exactly these comparisons, and
its arguments are their values.
-/

namespace SelectGraph.Plan

open List

open Keyset (Cursor OrderField)
open Sql (ColumnRef Columns Comparison Direction Expr Predicate Query columnComparisons
  columnComparisons_eq compared listComparisons memberComparisons
  memberComparisons_append memberComparisons_eq partComparisons partComparisons_append)
open SelectGraph.Tree (Head Node Root)

variable {head : Head} {src : Sources} {parent? : Option TableRef}
  {slots : Slots}

/-! ## What a tree compares -/

/-- The comparisons of a column with the value of a filter.  Null is found without a value. -/
def valueComparisons (col : ColumnRef) : Literal → List Comparison
  | .null => []
  | .list items =>
    listComparisons col 0 ((items.filter fun item => !item.isNull).map Literal.sqlValue)
  | value => [compared col " = " value.sqlValue]

/-- The comparison of a column with a value of a cursor, of which there is none with null. -/
def cursorComparison (col : ColumnRef) (words : String) : Literal → List Comparison
  | .null => []
  | value => [compared col words value]

/-- The words of a comparison that rows after a cursor satisfy. -/
def beyondWords : Direction → String
  | .ascending => " > "
  | .descending => " < "

/-- The comparisons with a cursor: each column is compared for rows beyond the cursor, and all but
the last one also for rows that are level with it. -/
def cursorComparisons (aliasName : String) (cursor : Cursor) : List OrderField → List Comparison
  | [] => []
  | field :: fields =>
    let against (words : String) : List Comparison :=
      cursorComparison ⟨aliasName, field.column⟩ words (cursor.value field.column).sqlValue
    against (beyondWords field.direction) ++
      (if fields.isEmpty then []
        else against " = " ++ cursorComparisons aliasName cursor fields)

namespace Criteria

variable (crit : Criteria) (aliasName : String)

def filterComparisons : List Comparison :=
  crit.arguments.filters.flatMap fun filter =>
    match crit.table.column? filter.1 with
    | some col => valueComparisons ⟨aliasName, col.name⟩ filter.2
    | none => []

def boundaryComparisons : List Comparison :=
  match crit.arguments.after? with
  | some cursor => cursorComparisons aliasName cursor crit.order
  | none => []

def rowComparisons : List Comparison :=
  crit.filterComparisons aliasName ++ crit.boundaryComparisons aliasName

def nextComparisons : List Comparison :=
  match crit.arguments.limit? with
  | none => []
  | some 0 => crit.rowComparisons aliasName
  | some limit => [compared ⟨aliasName ++ "_rows", "__remaining"⟩ ") > " (.uint limit)]

/-- The comparisons for what a connection shows besides its rows. -/
def connectionComparisons (conn : Tree.Connection) : List Comparison :=
  conn.totals.flatMap (fun _ => crit.filterComparisons aliasName) ++
    conn.pages.flatMap fun page =>
      page.hasNext.flatMap fun _ => crit.nextComparisons aliasName

/-- The comparisons for what is shown of a relation besides its rows. -/
def shownComparisons (head : Head) : List Comparison :=
  match head.connection? with
  | some conn => crit.connectionComparisons head.aliasName conn
  | none => []

end Criteria

/-- The comparisons of a relation below a table or at the top: those of what is below it, of its
rows and of what is shown besides them. -/
def relationComparisons (src : Sources) (table? : Option String) (head : Head)
    (below : String → List Comparison) : List Comparison :=
  match criteriaOf src table? head with
  | .ok crit => below crit.table.name ++ crit.rowComparisons head.aliasName ++
      crit.shownComparisons head
  | .error _ => []

mutual

def nodeComparisons (src : Sources) (table : String) : Node → List Comparison
  | .attribute _ _ => []
  | .relation head children => relationComparisons src (some table) head fun inner =>
    nodesComparisons src inner [] children

/-- The comparisons of nodes below a table.  Of nodes with one response name the first counts. -/
def nodesComparisons (src : Sources) (table : String) (seen : List String) :
    List Node → List Comparison
  | [] => []
  | node :: rest =>
    if node.responseName ∈ seen then nodesComparisons src table seen rest
    else nodeComparisons src table node ++
      nodesComparisons src table (node.responseName :: seen) rest

end

def rootComparisons (src : Sources) (root : Root) : List Comparison :=
  relationComparisons src none root.head fun table =>
    nodesComparisons src table [] root.children

/-! ## Conditions -/

theorem filterPredicate_comparisons {col : ColumnRef} {name : String} {value : Literal}
    {pred : Predicate} (built : filterPredicate col name value = .ok pred) :
    pred.comparisons = valueComparisons col value := by
  obtain ⟨rfl, rfl⟩ | ⟨scalar, rfl⟩ | ⟨items, scalars, rfl, read, each⟩ :=
    filterPredicate_eq_ok built
  · rfl
  · cases value with
    | null | list _ | object _ => cases scalar
    | _ => rfl
  · rw [valueComparisons, ← read]
    obtain ⟨-, rfl⟩ | ⟨-, none, rfl⟩ | ⟨-, -, rfl⟩ := each
    · rfl
    · rw [none]
      rfl
    · simp [Predicate.comparisons, partComparisons]

theorem filterPredicates_comparisons {table : Table} {aliasName : String}
    {filters : List (String × Literal)} {preds : List Predicate}
    (built : filterPredicates table aliasName filters = .ok preds) :
    partComparisons preds = filters.flatMap fun filter =>
      match table.column? filter.1 with
      | some col => valueComparisons ⟨aliasName, col.name⟩ filter.2
      | none => [] := by
  have each := filterPredicates_eq_ok built
  clear built
  induction each with
  | nil => rfl
  | cons first _ ih =>
    obtain ⟨col, found, builtFirst⟩ := first
    rw [partComparisons, filterPredicate_comparisons builtFirst, ih, flatMap_cons, found]

theorem beyond_comparisons (col : ColumnRef) (direction : Direction) (value : Literal) :
    partComparisons (Keyset.beyond col direction value) =
      cursorComparison col (beyondWords direction) value := by
  cases direction <;> cases value <;> rfl

theorem level_comparisons (col : ColumnRef) (value : Literal) :
    (Keyset.level col value).comparisons = cursorComparison col " = " value := by
  cases value <;> rfl

theorem someOf_comparisons (parts : List Predicate) :
    (Keyset.someOf parts).comparisons = partComparisons parts := by
  rw [Keyset.someOf.eq_def]
  split
  · simp [partComparisons]
  · rw [Predicate.comparisons]

/-- The comparisons for the first of several columns come before those for the others. -/
theorem after_cons_comparisons (aliasName : String) (field : OrderField) (value : Literal)
    (next : OrderField × Literal) (rest : List (OrderField × Literal)) :
    (Keyset.after aliasName ((field, value) :: next :: rest)).comparisons =
      cursorComparison ⟨aliasName, field.column⟩ (beyondWords field.direction) value ++
        (cursorComparison ⟨aliasName, field.column⟩ " = " value ++
          (Keyset.after aliasName (next :: rest)).comparisons) := by
  rw [← beyond_comparisons, ← level_comparisons, Keyset.after_cons]
  split
  · -- In a descending column nothing is beyond null, and only the tie is left.
    rename_i none
    rw [none]
    simp [Predicate.comparisons, partComparisons]
  · simp [Predicate.comparisons, partComparisons, partComparisons_append]

theorem after_comparisons (aliasName : String) (cursor : Cursor) (fields : List OrderField) :
    (Keyset.after aliasName (cursor.entries fields)).comparisons =
      cursorComparisons aliasName cursor fields := by
  induction fields with
  | nil => rfl
  | cons field fields ih =>
    cases fields with
    | nil =>
      rw [cursorComparisons]
      exact (someOf_comparisons _).trans ((beyond_comparisons _ _ _).trans (by simp))
    | cons next fields =>
      rw [cursorComparisons, ← ih]
      exact after_cons_comparisons _ _ _ _ _

theorem boundaryOf_comparisons {crit : Criteria} {boundary? : Option Predicate}
    (distinct : Distinct crit.order)
    (built : boundaryOf head crit.order crit.arguments.after? = .ok boundary?) :
    partComparisons boundary?.toList = crit.boundaryComparisons head.aliasName := by
  rw [boundaryOf_eq_ok distinct built, Criteria.boundaryComparisons]
  cases crit.arguments.after? with
  | none => rfl
  | some cursor => simp [partComparisons, after_comparisons]

theorem relation_predicate_comparisons (rel : Relation) (left right : TableRef) :
    (rel.predicate left right).comparisons = [] := by
  rw [Relation.predicate.eq_def]
  split <;> rfl

theorem joinOf_comparisons {self : TableRef} {join : List Predicate}
    (built : joinOf src parent? head self = .ok join) : partComparisons join = [] := by
  obtain ⟨relation?, -, rfl⟩ := joinOf_eq_ok built
  rw [joinConditions.eq_def]
  split
  · simp [partComparisons, relation_predicate_comparisons]
  · rfl

/-! ## Frames -/

/-- Whether the conditions and the limit of a frame compare with the values its criteria ask for. -/
structure Frame.Compares (frame : Frame) (crit : Criteria) : Prop where
  limit : frame.limit? = crit.arguments.limit?
  filters : partComparisons frame.predicates = crit.filterComparisons frame.head.aliasName
  boundary : partComparisons frame.boundary?.toList =
    crit.boundaryComparisons frame.head.aliasName

theorem frameOf_compares {frame : Frame} (made : frameOf src parent? head = .ok frame) :
    ∃ crit, criteriaOf src (parent?.map TableRef.table) head = .ok crit ∧
      frame.head = head ∧ frame.table = crit.table ∧ frame.Compares crit := by
  obtain ⟨table, args, filters, join, boundary?, found, read, filtered, joined, bounded,
    rfl⟩ := frameOf_eq_ok.mp made
  obtain ⟨relation?, related, -⟩ := joinOf_eq_ok joined
  let crit : Criteria := ⟨table, relation?, args⟩
  have distinct : Distinct _ :=
    effectiveOrder_distinct table (readArguments_distinct read)
  refine ⟨crit, criteriaOf_eq_ok.mpr ⟨tableOf_eq_ok.mp found, read, related⟩, rfl, rfl, rfl, ?_,
    boundaryOf_comparisons distinct bounded⟩
  rw [partComparisons_append, joinOf_comparisons joined, append_nil]
  exact filterPredicates_comparisons filtered

namespace Frame

variable {frame : Frame} {crit : Criteria}

section

variable (compares : frame.Compares crit)

include compares

theorem Compares.rows :
    partComparisons (frame.predicates ++ frame.boundary?.toList) =
      crit.rowComparisons frame.head.aliasName := by
  rw [Criteria.rowComparisons, partComparisons_append, compares.filters, compares.boundary]

theorem Compares.hasNext :
    frame.hasNext.comparisons = crit.nextComparisons frame.head.aliasName := by
  rw [Frame.hasNext.eq_def, Criteria.nextComparisons.eq_def, compares.limit]
  match crit.arguments.limit? with
  | none => rfl
  | some 0 =>
    simp only [Expr.comparisons, Query.comparisons, compares.rows]
    rfl
  | some (limit + 1) => rfl

theorem Compares.total :
    frame.total.comparisons = crit.filterComparisons frame.head.aliasName := by
  rw [Frame.total, Expr.comparisons, Query.comparisons, compares.filters]
  rfl

end

theorem under_comparisons (names : List String) (value : Expr) :
    memberComparisons (under names value) = names.flatMap fun _ => value.comparisons := by
  rw [memberComparisons_eq, under, flatMap_map]

section

variable (compares : frame.Compares crit)

include compares

theorem Compares.pageValue (page : Tree.PageInfo) :
    (frame.pageValue page).comparisons =
      page.hasNext.flatMap fun _ => crit.nextComparisons frame.head.aliasName := by
  have cursor : frame.endCursor.comparisons = [] := rfl
  have type : (Expr.text page.type).comparisons = [] := rfl
  rw [Frame.pageValue, Expr.comparisons, memberComparisons_append, memberComparisons_append,
    under_comparisons, under_comparisons, under_comparisons, compares.hasNext, cursor, type]
  simp

theorem Compares.connectionValue (conn : Tree.Connection) {row : Expr}
    (quiet : row.comparisons = []) :
    (frame.connectionValue conn row).comparisons =
      crit.connectionComparisons frame.head.aliasName conn := by
  have text (value : String) : (Expr.text value).comparisons = [] := rfl
  have read (col : String) : (frame.read col).comparisons = [] := rfl
  have edge : (Expr.object ((conn.node, row) ::
      under conn.cursors (frame.read cursorColumn) ++
        under conn.edgeTypeNames (.text conn.edgeType))).comparisons = [] := by
    rw [Expr.comparisons, memberComparisons_append, memberComparisons, quiet, under_comparisons,
      under_comparisons, read, text]
    simp
  have pages : memberComparisons (conn.pages.map fun page =>
      (page.responseName, frame.pageValue page)) = conn.pages.flatMap fun page =>
        page.hasNext.flatMap fun _ => crit.nextComparisons frame.head.aliasName := by
    rw [memberComparisons_eq, flatMap_map]
    simp only [compares.pageValue]
  rw [Frame.connectionValue, Expr.comparisons, memberComparisons_append, memberComparisons_append,
    memberComparisons, Expr.comparisons, edge, under_comparisons, compares.total, pages,
    under_comparisons, text, Criteria.connectionComparisons]
  simp

theorem Compares.value {members : List (String × Expr)} (quiet : memberComparisons members = []) :
    (frame.value members).comparisons = crit.shownComparisons frame.head := by
  have row : (Expr.object members).comparisons = [] := by rw [Expr.comparisons, quiet]
  rw [Frame.value, Criteria.shownComparisons]
  cases frame.head.connection? with
  | some conn => exact compares.connectionValue _ row
  | none =>
    dsimp only
    split
    · rw [Expr.comparisons, row]
    · exact row

end

theorem extras_comparisons (frame : Frame) (cols : Columns) :
    columnComparisons (frame.extras cols) = [] := by
  rw [columnComparisons_eq, flatMap_eq_nil_iff]
  intro col mem
  rcases mem_extras mem with rfl | paging
  · rfl
  · obtain ⟨conn, -, ⟨-, rfl⟩ | ⟨-, rfl⟩ | ⟨-, rfl⟩⟩ := mem_pagingColumns.mp paging
    · rw [Keyset.cursorExpr, Expr.comparisons, Expr.comparisons, memberComparisons_eq]
      simp [Expr.comparisons]
    · rfl
    · rfl

theorem Compares.body (compares : frame.Compares crit) (cols : Columns) :
    (frame.body cols).comparisons =
      columnComparisons cols ++ crit.rowComparisons frame.head.aliasName := by
  rw [body_eq, Query.comparisons, compares.rows, columnComparisons_eq, flatMap_append,
    ← columnComparisons_eq, ← columnComparisons_eq, extras_comparisons]
  simp

end Frame

/-! ## Trees -/

def Slot.comparisons : Slot → List Comparison
  | .text _ => []
  | .computed expr => expr.comparisons

theorem numbered_columns_comparisons (frame : Frame) (number : Nat)
    (slots : Slots) :
    columnComparisons (numbered frame number slots).columns =
      slots.flatMap fun entry => entry.2.comparisons := by
  fun_induction numbered _ number slots with
  | case1 => rfl
  | case2 _ _ _ _ _ ih => exact ih
  | case3 _ _ _ _ ih => exact congrArg _ ih

theorem numbered_members_comparisons (frame : Frame) (number : Nat)
    (slots : Slots) :
    memberComparisons (numbered frame number slots).members = [] := by
  fun_induction numbered _ number slots with
  | case1 => rfl
  | case2 _ _ _ _ _ ih | case3 _ _ _ _ ih => exact ih

/-- The query of a relation has its comparisons, if the slots of a row have those of what is below
it. -/
theorem relation_query_comparisons {frame : Frame} (below : String → List Comparison)
    (made : frameOf src parent? head = .ok frame)
    (each : slots.flatMap (fun entry => entry.2.comparisons) = below frame.table.name)
    {col : Expr} (shows : col.comparisons = (frame.compiled slots).value.comparisons)
    (alias? : Option String) :
    ((frame.compiled slots).query col alias?).comparisons =
      relationComparisons src (parent?.map TableRef.table) head below := by
  obtain ⟨crit, resolved, rfl, table, compares⟩ := frameOf_compares made
  have value := shows.trans (compares.value (numbered_members_comparisons _ 0 _))
  rw [relationComparisons, resolved, Compiled.query, Frame.compiled, Query.comparisons, compares.body,
    numbered_columns_comparisons, each, table, columnComparisons, value]
  simp [columnComparisons, partComparisons]

/-- Slots with the comparisons of nodes have them in order. -/
theorem SlotsOf.comparisons {table : String} {seen : List String} {nodes : List Node}
    (each : SlotsOf (fun node slot => slot.comparisons = nodeComparisons src table node) seen
      nodes slots) :
    slots.flatMap (fun entry => entry.2.comparisons) = nodesComparisons src table seen nodes := by
  induction each with
  | nil => rfl
  | again known rest ih => rw [nodesComparisons, if_pos known, ih]
  | first new here rest ih => rw [nodesComparisons, if_neg new, flatMap_cons, here, ih]

/-- What nodes come from has the comparisons of the nodes. -/
theorem slots_comparisons {frame : Frame} {nodes : List Node}
    (made : frameOf src parent? head = .ok frame)
    (compiled : compileNodes src frame [] nodes = .ok slots) :
    slots.flatMap (fun entry => entry.2.comparisons) =
      nodesComparisons src frame.table.name [] nodes := by
  refine SlotsOf.comparisons ((compileNodes_slotsOf compiled).imp fun node _ _ =>
    compileNode_induct (motive := fun frame node slot =>
      slot.comparisons = nodeComparisons _ frame.table.name node) ?_ ?_ made node)
  · intro _ _ frame field key slot _ compiled
    obtain rfl | ⟨col, -, rfl⟩ := compileNode_attribute compiled
    · rfl
    · rfl
  · intro _ _ frame head children inner slots made framed _ below
    have query := relation_query_comparisons
      (fun table => nodesComparisons _ table [] _) framed below.comparisons rfl none
    rw [frameOf_self made] at query
    exact query

theorem compile_comparisons {root : Root} {stmt : Statement}
    (compiled : compile src root = .ok stmt) :
    stmt.query.comparisons = rootComparisons src root := by
  obtain ⟨frame, slots, made, nodes, query⟩ := compile_eq_ok compiled
  rw [query]
  refine relation_query_comparisons _ made (slots_comparisons made nodes) ?_ _
  rw [Expr.comparisons]

/-- When the statement for a tree is taken apart, it has as many placeholders as arguments.  They
stand in the comparisons of the tree one after the other, and each argument is the value that its
comparison asks for. -/
theorem placeholders_stand_for_arguments {sources : Sources} {root : Root} {statement : Statement}
    (compiled : compile sources root = .ok statement) :
    ∃ tokens, Sql.lex statement.rendered.sql.toList = some tokens ∧
      tokens.count .placeholder = statement.rendered.arguments.length ∧
      Sql.spots [] tokens =
        (rootComparisons sources root).map (fun comparison => some comparison.spot) ∧
      statement.rendered.arguments = (rootComparisons sources root).map Comparison.value := by
  obtain ⟨tokens, lexed, stand, values⟩ := statement.query.lex_render
  rw [compile_comparisons compiled] at stand values
  refine ⟨tokens, lexed, ?_, stand, values⟩
  rw [← Sql.spots_length [] tokens, stand, Statement.rendered, values, List.length_map,
    List.length_map]

/-! ## An example -/

def oddTable : Table :=
  ⟨"od?d\x60s", [⟨"id", "", false⟩, ⟨"wh\x60y?'", "", false⟩], ["id"], [], []⟩

def oddSources : Sources := ⟨⟨[oddTable], [("Odd", "od?d\x60s")]⟩, ⟨[]⟩⟩

/-- A page of two rows after a cursor, with the number of matching rows and whether more follow. -/
def oddTree : Root where
  head := {
    field := "odds", responseName := "o'd?ds", aliasName := "odds-1", target := ⟨"Odd", true⟩
    arguments := [("wh\x60y?'", .list [.text "a?", .null, .text "b"]), ("id", .int 5),
      ("first", .int 2), ("after", .text "\x7b\"id\":7\x7d")]
    connection? := some {
      edges := "edges", node := "node", cursors := [], totals := ["total"]
      pages := [⟨"page", ["more"], [], "", []⟩]
      type := "", typeNames := [], edgeType := "", edgeTypeNames := [] } }
  children := [.attribute "id" "i?d"]

theorem oddTree_compile : ∃ stmt, compile oddSources oddTree = .ok stmt := by
  let order : List OrderField := [⟨"id", .ascending⟩]
  let cursor : Cursor := [("id", .int 7)]
  have covers : cursor.Covers order := .refl _
  obtain ⟨pred, bound⟩ := boundaryOf_of_covers (by decide) (by decide) covers _
  obtain ⟨frame, made, id⟩ : ∃ frame, frameOf oddSources none oddTree.head = .ok frame ∧
      frame.column "id" = .ok _ :=
    ⟨_, frameOf_eq_ok.mpr ⟨_, _, _, _, _, rfl, rfl, rfl, rfl, bound, rfl⟩, rfl⟩
  obtain ⟨slots, nodes⟩ : ∃ slots, compileNodes _ frame [] oddTree.children =
      .ok slots := by
    simp [oddTree, compileNodes, compileNode, id, Except.map]
  exact compile_of_slots made nodes

def oddFilters : List Comparison := [
  ⟨⟨"odds-1", "wh\x60y?'", " IN ("⟩, .text "a?"⟩,
  ⟨⟨"odds-1", "wh\x60y?'", " IN (?,"⟩, .text "b"⟩,
  ⟨⟨"odds-1", "id", " = "⟩, .int 5⟩]

theorem oddTree_comparisons : rootComparisons oddSources oddTree =
    oddFilters ++ ⟨⟨"odds-1", "id", " > "⟩, .int 7⟩ :: oddFilters ++
      [⟨⟨"odds-1_rows", "__remaining", ") > "⟩, .uint 2⟩] := by
  obtain ⟨crit, resolved, filters, boundary, next⟩ : ∃ crit,
      criteriaOf oddSources none oddTree.head = .ok crit ∧
      crit.filterComparisons "odds-1" = oddFilters ∧
      crit.boundaryComparisons "odds-1" = [⟨⟨"odds-1", "id", " > "⟩, .int 7⟩] ∧
      crit.nextComparisons "odds-1" =
        [⟨⟨"odds-1_rows", "__remaining", ") > "⟩, .uint 2⟩] :=
    ⟨⟨oddTable, none, _⟩, criteriaOf_eq_ok.mpr ⟨rfl, rfl, rfl⟩, rfl, rfl, rfl⟩
  have shown : crit.shownComparisons oddTree.head =
      crit.filterComparisons "odds-1" ++ crit.nextComparisons "odds-1" := by
    simp [Criteria.shownComparisons, Criteria.connectionComparisons, oddTree]
  have rows : crit.rowComparisons oddTree.head.aliasName =
      crit.filterComparisons "odds-1" ++ crit.boundaryComparisons "odds-1" := rfl
  have below : nodesComparisons oddSources crit.table.name [] oddTree.children = [] := rfl
  rw [rootComparisons, relationComparisons, resolved]
  simp only [rows, shown, filters, boundary, next]
  rfl

theorem placeholders_stand_for_arguments_odds :
    ∃ statement, compile oddSources oddTree = .ok statement ∧
      statement.rendered.arguments = [.text "a?", .text "b", .int 5, .int 7,
        .text "a?", .text "b", .int 5, .uint 2] ∧
      ∃ tokens, Sql.lex statement.rendered.sql.toList = some tokens ∧
        tokens.count .placeholder = statement.rendered.arguments.length ∧
        Sql.spots [] tokens = [
          some ⟨"odds-1", "wh\x60y?'", " IN ("⟩,
          some ⟨"odds-1", "wh\x60y?'", " IN (?,"⟩,
          some ⟨"odds-1", "id", " = "⟩,
          some ⟨"odds-1", "id", " > "⟩,
          some ⟨"odds-1", "wh\x60y?'", " IN ("⟩,
          some ⟨"odds-1", "wh\x60y?'", " IN (?,"⟩,
          some ⟨"odds-1", "id", " = "⟩,
          some ⟨"odds-1_rows", "__remaining", ") > "⟩] := by
  obtain ⟨statement, compiled⟩ := oddTree_compile
  obtain ⟨tokens, lexed, count, stand, values⟩ := placeholders_stand_for_arguments compiled
  rw [oddTree_comparisons] at stand values
  exact ⟨statement, compiled, values, tokens, lexed, count, stand⟩

end SelectGraph.Plan
