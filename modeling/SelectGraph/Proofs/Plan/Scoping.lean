import SelectGraph.Proofs.Plan.Names
import SelectGraph.Proofs.Sql.Scoping

/-!
# Statements are well scoped

Every name in a statement means something where it stands.  The conditions of a relation read its
own table, the table of the relation around it and the junction between them; its value reads the
columns that its common table expression projects, and those for paging are projected whenever they
are read.
-/

namespace SelectGraph.Plan

open List

open GraphQL (Selection)
open Keyset (OrderField)
open Sql (ColumnRef Columns Expr NameScope Predicate Query Visible columnsScoped columnsScoped_iff
  membersScoped membersScoped_iff partsScoped partsScoped_iff)
open SelectGraph.Tree (Head Node Root)

variable {name : String} {slots : Slots} {catalog : Catalog}
  {scope : NameScope} {aliasName : String} {table : Table} {col : Column}
  {order : List OrderField} {frame : Frame} {nodes : List Node}

/-! ## Columns of tables -/

theorem offers_of_isSome {col : String} (known : (table.column? col).isSome = true) :
    (Visible.table table).Offers col := by
  obtain ⟨found, lookedUp⟩ := Option.isSome_iff_exists.mp known
  obtain ⟨mem, same⟩ := findNamed?_eq_some lookedUp
  exact ⟨found, mem, same⟩

theorem offers_of_mem (mem : col ∈ table.columns) : (Visible.table table).Offers col.name :=
  ⟨col, mem, Text.equalFold_refl _⟩

/-! ## Orders -/

theorem offers_of_columnName (listed : name ∈ table.columnNames) :
    (Visible.table table).Offers name := by
  obtain ⟨col, mem, rfl⟩ := mem_map.mp listed
  exact offers_of_mem mem

/-- The order of a table names columns of it, if its key does. -/
theorem effectiveOrder_offered {explicit : List OrderField}
    (keys : ∀ col ∈ table.primaryKey, (table.column? col).isSome = true)
    (given : ∀ field ∈ explicit, (Visible.table table).Offers field.column) :
    ∀ field ∈ effectiveOrder table explicit, (Visible.table table).Offers field.column := by
  intro field mem
  rcases of_mem_addColumns mem with explicitly | added
  · exact given _ explicitly
  · split at added
    · exact offers_of_columnName added
    · exact offers_of_isSome (keys _ added)

theorem readsOrder_orderTerms (sees : scope.Sees aliasName (.table table))
    (offered : ∀ field ∈ order, (Visible.table table).Offers field.column) :
    scope.ReadsOrder (orderTerms order aliasName) := by
  intro term mem
  obtain ⟨field, memField, rfl⟩ := mem_map.mp mem
  exact ⟨_, sees, offered _ memField⟩

/-! ## Conditions -/

theorem OnColumns.scoped {part : Predicate} (built : OnColumns scope.Reads part) :
    part.Scoped catalog scope := by
  induction built with
  | all _ ih | any _ ih => exact partsScoped_iff.mpr ih
  | _ => assumption

/-! ## Relations between tables -/

/-- Pairs of columns can be compared if the tables they are columns of can be read. -/
theorem pairs_read {first second : String} {firstTable secondTable : Table}
    {pairs : List (String × String)} (known : Relation.PairsKnown firstTable secondTable pairs)
    (seesFirst : scope.Sees first (.table firstTable))
    (seesSecond : scope.Sees second (.table secondTable)) :
    ∀ pair ∈ pairs, scope.Reads ⟨first, pair.1⟩ ∧ scope.Reads ⟨second, pair.2⟩ := fun pair mem =>
  ⟨⟨_, seesFirst, offers_of_isSome (known pair mem).1⟩,
    ⟨_, seesSecond, offers_of_isSome (known pair mem).2⟩⟩

theorem relation_scoped {rel : Relation} {left right : TableRef} {leftTable rightTable : Table}
    (known : rel.Known catalog leftTable rightTable)
    (seesLeft : scope.Sees left.aliasName (.table leftTable))
    (seesRight : scope.Sees right.aliasName (.table rightTable))
    (apart : left.aliasName ≠ Relation.junctionAlias right) :
    (rel.predicate left right).Scoped catalog scope := by
  have direct : (Predicate.joined (rel.pairs.map fun pair =>
      (⟨left.aliasName, pair.1⟩, ⟨right.aliasName, pair.2⟩))).Scoped catalog scope := by
    intro _ mem
    obtain ⟨pair, memPair, rfl⟩ := mem_map.mp mem
    exact pairs_read known.pairs seesLeft seesRight pair memPair
  rw [Relation.predicate.eq_def]
  split
  · rename_i through _ given
    obtain ⟨middle, found, onLeft, onRight⟩ := known.junction _ given
    have seesMiddle := NameScope.sees_enter scope (Relation.junctionAlias right) (.table middle)
    have leftInside := seesLeft.enter apart (.table middle)
    have rightInside := seesRight.enter (ne_junctionAlias _) (.table middle)
    refine ⟨trivial, .table middle, by simp [Sql.Source.visible?, found], ⟨trivial, trivial⟩,
      ⟨?_, trivial⟩, by simp [NameScope.ReadsOrder]⟩
    intro _ mem
    rcases mem_append.mp mem with memLeft | memRight
    · obtain ⟨pair, memPair, rfl⟩ := mem_map.mp memLeft
      exact (pairs_read onLeft leftInside seesMiddle pair memPair).symm
    · obtain ⟨pair, memPair, rfl⟩ := mem_map.mp memRight
      exact (pairs_read onRight rightInside seesMiddle pair memPair).symm
  · exact direct

/-- What is around a relation: nothing at the top, and otherwise a table under a name that the
relation does not introduce again. -/
def Around (catalog : Catalog) (scope : NameScope) (aliasName : String) : Option TableRef → Prop
  | none => True
  | some parent => parent.aliasName ∉ ownNames aliasName ∧
      ∃ table, catalog.table? parent.table = some table ∧
        scope.Sees parent.aliasName (.table table)

theorem Around.enter {parent? : Option TableRef} (around : Around catalog scope aliasName parent?)
    (own : name ∈ ownNames aliasName) (visible : Visible) :
    Around catalog (scope.enter name visible) aliasName parent? := by
  cases parent? with
  | none => trivial
  | some parent =>
    obtain ⟨apart, table, found, sees⟩ := around
    exact ⟨apart, table, found, sees.enter (fun same => apart (same ▸ own)) _⟩

theorem Around.define {parent? : Option TableRef} (around : Around catalog scope aliasName parent?)
    (name : String) (columns : List String) :
    Around catalog (scope.define name columns) aliasName parent? := by
  cases parent? with
  | none => trivial
  | some parent => exact around

/-- Tables and relations that have been checked. -/
structure Sources.Checked (sources : Sources) : Prop where
  consistent : sources.catalog.Consistent
  relations : ∀ rel ∈ sources.registry.relations, rel.check sources.catalog = .ok ()

variable {sources : Sources} {parent? : Option TableRef} {head : Head}

theorem joinOf_scoped (checked : sources.Checked) {self : TableRef} {join : List Predicate}
    (built : joinOf sources parent? head self = .ok join)
    (known : sources.catalog.table? self.table = some table)
    (around : Around sources.catalog scope self.aliasName parent?)
    (sees : scope.Sees self.aliasName (.table table)) :
    partsScoped sources.catalog scope join := by
  cases parent? with
  | none =>
    cases built
    trivial
  | some parent =>
    obtain ⟨apart, parentTable, parentKnown, seesParent⟩ := around
    rw [joinOf, Registry.resolve] at built
    cases found : sources.registry.lookup? _ _ _ with
    | none =>
      rw [found] at built
      cases built
    | some rel =>
      rw [found] at built
      cases built
      obtain ⟨registered, left, right⟩ := Registry.lookup?_eq_some found
      obtain ⟨leftTable, rightTable, relationKnown⟩ :=
        Relation.check_eq_ok_iff.mp (checked.relations _ registered)
      have foundLeft := relationKnown.foundLeft
      have foundRight := relationKnown.foundRight
      rw [left, parentKnown, Option.some_inj] at foundLeft
      rw [right, known, Option.some_inj] at foundRight
      subst foundLeft foundRight
      refine ⟨relation_scoped relationKnown seesParent sees ?_, trivial⟩
      exact fun same => apart (by simp [same, ownNames, Relation.junctionAlias])

/-! ## Frames -/

/-- What the parts of a frame need to be used: its table is found again by its name, its order names
columns of the table, and its conditions can be read wherever its table can, below what is around
it. -/
structure Frame.Fits (catalog : Catalog) (parent? : Option TableRef) (frame : Frame) : Prop where
  self : frame.self = ⟨frame.table.name, frame.head.aliasName⟩
  known : catalog.table? frame.table.name = some frame.table
  order : ∀ field ∈ frame.order, (Visible.table frame.table).Offers field.column
  conditions : ∀ {scope : NameScope}, Around catalog scope frame.head.aliasName parent? →
    scope.Sees frame.head.aliasName (.table frame.table) →
      partsScoped catalog scope (frame.predicates ++ frame.boundary?.toList)

theorem frameOf_fits (checked : sources.Checked) (made : frameOf sources parent? head = .ok frame) :
    frame.Fits sources.catalog parent? := by
  obtain ⟨table, arguments, _, _, _, found, read, -, -, -, rfl⟩ := frameOf_eq_ok.mp made
  have mem := Catalog.tableForType_mem (tableOf_eq_ok.mp found)
  have known := checked.consistent.table?_name mem
  have given : ∀ field ∈ arguments.order, (Visible.table table).Offers field.column := by
    rcases readArguments_order read with none | ⟨value, explicit⟩
    · simp [none]
    · exact fun field mem => offers_of_columnName (explicitOrder_columnNames explicit _ mem)
  have offered := effectiveOrder_offered (checked.consistent.keys _ mem) given
  refine ⟨rfl, known, offered, fun {scope} around sees => ?_⟩
  obtain ⟨join, joined, each⟩ := frameOf_conditions scope.Reads made
    (fun col mem => ⟨_, sees, offers_of_mem mem⟩) fun field mem => ⟨_, sees, offered _ mem⟩
  have joins := partsScoped_iff.mp (joinOf_scoped checked joined known around sees)
  exact partsScoped_iff.mpr fun part mem => (each part mem).elim OnColumns.scoped (joins part)

namespace Frame

variable {columns : Columns} (fits : frame.Fits catalog parent?)

include fits

theorem Fits.predicates (around : Around catalog scope frame.head.aliasName parent?)
    (sees : scope.Sees frame.head.aliasName (.table frame.table)) :
    partsScoped catalog scope frame.predicates := by
  have both := partsScoped_iff.mp (fits.conditions around sees)
  rw [forall_mem_append] at both
  exact partsScoped_iff.mpr both.1

theorem Fits.visible (scope : NameScope) :
    frame.source.visible? catalog scope = some (.table frame.table) := by
  rw [source, fits.self]
  simp [Sql.Source.visible?, fits.known]

theorem Fits.source_name : frame.source.name = frame.head.aliasName := by
  rw [source, fits.self]
  rfl

/-- A query over the table of a relation is well scoped if its columns, conditions and order are. -/
theorem Fits.select {conditions : List Predicate} {order? : Option (List Sql.OrderTerm)}
    {limit? : Option Nat} (columnsFit : columnsScoped catalog
      (scope.enter frame.head.aliasName (.table frame.table)) columns)
    (conditionsFit : partsScoped catalog
      (scope.enter frame.head.aliasName (.table frame.table)) conditions)
    (orderFits : (scope.enter frame.head.aliasName (.table frame.table)).ReadsOrder
      (order?.getD [])) :
    (Query.select none columns frame.source conditions order? limit?).Scoped catalog scope :=
  ⟨trivial, _, fits.visible _, fits.source_name ▸ columnsFit,
    fits.source_name ▸ conditionsFit, fits.source_name ▸ orderFits⟩

theorem extras_scoped (sees : scope.Sees frame.head.aliasName (.table frame.table))
    (columns : Columns) :
    columnsScoped catalog scope (frame.extras columns) := by
  rw [columnsScoped_iff]
  intro col mem
  rcases mem_extras mem with rfl | paging
  · trivial
  · have aliasName : frame.self.aliasName = frame.head.aliasName := by rw [fits.self]
    obtain ⟨conn, -, ⟨-, rfl⟩ | ⟨-, rfl⟩ | ⟨-, rfl⟩⟩ := mem_pagingColumns.mp paging
    · change membersScoped _ _ _
      rw [membersScoped_iff]
      intro member memMember
      obtain ⟨field, memField, rfl⟩ := mem_map.mp memMember
      exact ⟨_, aliasName ▸ sees, fits.order _ memField⟩
    · trivial
    · exact readsOrder_orderTerms (aliasName ▸ sees) fits.order

/-- The query of the common table expression is well scoped if the columns of its members are. -/
theorem body_scoped (around : Around catalog scope frame.head.aliasName parent?)
    (members : columnsScoped catalog
      (scope.enter frame.head.aliasName (.table frame.table)) columns) :
    (frame.body columns).Scoped catalog scope := by
  have sees := NameScope.sees_enter scope frame.head.aliasName (.table frame.table)
  have inside := around.enter mem_cons_self (.table frame.table)
  rw [body_eq]
  refine fits.select ?_ (fits.conditions inside sees) ?_
  · rw [columnsScoped_iff, forall_mem_append]
    exact ⟨columnsScoped_iff.mp members, columnsScoped_iff.mp (extras_scoped fits sees _)⟩
  · split
    · have aliasName : frame.self.aliasName = frame.head.aliasName := by rw [fits.self]
      rw [aliasName]
      exact readsOrder_orderTerms sees fits.order
    · simp [NameScope.ReadsOrder]

/-- A scope in which the common table expression of a relation is read: below what is around the
relation, with the columns for paging that it needs. -/
structure InView (catalog : Catalog) (scope : NameScope) (parent? : Option TableRef) (frame : Frame)
    (columns : List String) : Prop where
  around : Around catalog scope frame.head.aliasName parent?
  sees : scope.Sees frame.rows (.rows columns)
  defined : scope.defined.lookup frame.rows = some columns
  paging : ∀ {expr : Expr} {name : String}, (expr, some name) ∈ frame.pagingColumns → name ∈ columns

omit fits in
theorem under_scoped {names : List String} {value : Expr}
    (needed : names ≠ [] → value.Scoped catalog scope) :
    ∀ member ∈ under names value, member.2.Scoped catalog scope := by
  intro member mem
  obtain ⟨name, memName, rfl⟩ := mem_map.mp mem
  exact needed (ne_nil_of_mem memName)

section Value

variable {columns : List String} {conn : Tree.Connection}
  (view : frame.InView catalog scope parent? columns)

include view

theorem total_scoped : frame.total.Scoped catalog scope :=
  fits.select ⟨trivial, trivial⟩
    (fits.predicates (view.around.enter mem_cons_self _) (NameScope.sees_enter _ _ _))
    (by simp [NameScope.ReadsOrder])

section Connection

variable (given : frame.head.connection? = some conn)

include given

/-- Whether more rows follow is read from the number of remaining rows only if there is a limit to
compare it with. -/
theorem hasNext_scoped (wanted : conn.wantsHasNext = true) :
    frame.hasNext.Scoped catalog scope := by
  rw [hasNext.eq_def]
  split
  · trivial
  · exact fits.select ⟨trivial, trivial⟩
      (fits.conditions (view.around.enter mem_cons_self _) (NameScope.sees_enter _ _ _))
      (by simp [NameScope.ReadsOrder])
  · rename_i positive bounded
    have some : frame.limit?.any (0 < ·) = true := by
      rw [bounded, Option.any_some, decide_eq_true_eq]
      exact Nat.pos_of_ne_zero positive
    exact ⟨_, view.sees, view.paging (mem_pagingColumns.mpr
      ⟨conn, given, .inr (.inl ⟨⟨wanted, some⟩, rfl⟩)⟩)⟩

omit fits in
theorem endCursor_scoped (wanted : conn.wantsEndCursor = true) :
    frame.endCursor.Scoped catalog scope := by
  have cursors : conn.wantsCursor = true := by
    rw [Tree.Connection.wantsCursor, wanted, Bool.or_true]
  have cursor : cursorColumn ∈ columns :=
    view.paging (mem_pagingColumns.mpr ⟨conn, given, .inl ⟨cursors, rfl⟩⟩)
  have row : rowColumn ∈ columns :=
    view.paging (mem_pagingColumns.mpr ⟨conn, given, .inr (.inr ⟨wanted, rfl⟩)⟩)
  refine ⟨trivial, .rows _, by simp [Sql.Source.visible?, view.defined],
    ⟨⟨_, _, rfl, cursor⟩, trivial⟩, trivial, ?_⟩
  simp only [NameScope.ReadsOrder, Option.getD_some, forall_mem_singleton]
  exact ⟨_, _, rfl, row⟩

theorem pageValue_scoped {page : Tree.PageInfo} (mem : page ∈ conn.pages) :
    (frame.pageValue page).Scoped catalog scope := by
  have wanted {shows : Tree.PageInfo → List String} (named : shows page ≠ []) :
      conn.pages.any (fun page => !(shows page).isEmpty) = true :=
    any_eq_true.mpr ⟨page, mem, by simpa using named⟩
  change membersScoped _ _ _
  rw [membersScoped_iff, forall_mem_append, forall_mem_append]
  exact ⟨⟨under_scoped fun named => hasNext_scoped fits view given (wanted named),
    under_scoped fun named => endCursor_scoped view given (wanted named)⟩,
    under_scoped fun _ => trivial⟩

theorem connectionValue_scoped {row : Expr} (rowFits : row.Scoped catalog scope) :
    (frame.connectionValue conn row).Scoped catalog scope := by
  have cursor (shown : conn.cursors ≠ []) :
      (frame.read cursorColumn).Scoped catalog scope := by
    refine ⟨_, view.sees, view.paging (mem_pagingColumns.mpr
      ⟨conn, given, .inl ⟨?_, rfl⟩⟩)⟩
    simp [Tree.Connection.wantsCursor, shown]
  have edge : (Expr.object ((conn.node, row) ::
      under conn.cursors (frame.read cursorColumn) ++
        under conn.edgeTypeNames (.text conn.edgeType))).Scoped catalog scope := by
    change membersScoped _ _ _
    rw [membersScoped_iff, forall_mem_append, forall_mem_cons]
    exact ⟨⟨rowFits, under_scoped cursor⟩, under_scoped fun _ => trivial⟩
  change membersScoped _ _ _
  rw [membersScoped_iff, forall_mem_append, forall_mem_append, forall_mem_cons]
  refine ⟨⟨⟨edge, under_scoped fun _ => total_scoped fits view⟩, ?_⟩, under_scoped fun _ => trivial⟩
  intro member mem
  obtain ⟨page, memPage, rfl⟩ := mem_map.mp mem
  exact pageValue_scoped fits view given memPage

end Connection

theorem value_scoped {members : List (String × Expr)}
    (membersFit : membersScoped catalog scope members) :
    (frame.value members).Scoped catalog scope := by
  rw [value]
  split
  · rename_i given
    exact connectionValue_scoped fits view given membersFit
  · split
    · exact membersFit
    · exact membersFit

end Value

end Frame

/-! ## Columns of common table expressions -/

/-- Whether what a member comes from uses only names that can be used. -/
def Slot.Scoped (catalog : Catalog) (scope : NameScope) : Slot → Prop
  | .text _ => True
  | .computed expr => expr.Scoped catalog scope

theorem numbered_columns_scoped (each : ∀ entry ∈ slots, entry.2.Scoped catalog scope)
    (number : Nat) : columnsScoped catalog scope (numbered frame number slots).columns := by
  fun_induction numbered _ number slots with
  | case1 => trivial
  | case2 _ _ _ _ _ ih => exact ih (forall_mem_cons.mp each).2
  | case3 _ _ _ _ ih => exact (forall_mem_cons.mp each).imp_right ih

/-- Members read columns that are there. -/
theorem numbered_members_scoped {columns : List String}
    (sees : scope.Sees frame.rows (.rows columns)) (slots : Slots) (number : Nat)
    (projected : ∀ name, some name ∈ (numbered frame number slots).columns.map Prod.snd →
      name ∈ columns) : membersScoped catalog scope (numbered frame number slots).members := by
  fun_induction numbered _ number slots with
  | case1 => trivial
  | case2 _ _ _ _ _ ih => exact ⟨trivial, ih projected⟩
  | case3 _ _ _ _ ih =>
    refine ⟨⟨_, sees, projected _ mem_cons_self⟩, ih ?_⟩
    exact fun name mem => projected name (mem_cons_of_mem _ mem)

theorem labels_body (frame : Frame) (columns : Columns) :
    (frame.body columns).labels = (columns ++ frame.extras columns).map Sql.columnLabel := by
  rw [Frame.body_eq]
  rfl

theorem mem_labels_body {columns : Columns}
    (mem : some name ∈ (columns ++ frame.extras columns).map Prod.snd) :
    name ∈ (frame.body columns).labels := by
  obtain ⟨⟨expr, _⟩, memColumn, rfl⟩ := mem_map.mp mem
  rw [labels_body]
  exact mem_map.mpr ⟨_, memColumn, rfl⟩

/-- A column of a common table expression has a name, or it is the constant of one that has no other
column. -/
theorem column_named {col : Expr × Option String}
    (mem : col ∈ (numbered frame 0 slots).columns ++
      frame.extras (numbered frame 0 slots).columns) :
    col = (.one, none) ∨ ∃ name, col.2 = some name ∧ name ≠ "1" := by
  rcases mem_append.mp mem with member | extra
  · obtain ⟨count, names⟩ := numbered_names _ 0 _
    have named := mem_map_of_mem (f := Prod.snd) member
    rw [names] at named
    obtain ⟨number, -, same⟩ := mem_map.mp named
    exact .inr ⟨columnName _, same.symm, columnName_ne (by decide) _⟩
  · rcases Frame.mem_extras extra with constant | paging
    · exact .inl constant
    · have named := frame.pagingColumns_names.subset (mem_map_of_mem paging)
      simp only [mem_cons, not_mem_nil, or_false] at named
      rcases named with same | same | same
      all_goals exact .inr ⟨_, same, by decide⟩

/-- No two columns of a common table expression have one label. -/
theorem labels_nodup (frame : Frame) (slots : Slots) :
    (frame.body (numbered frame 0 slots).columns).labels.Nodup := by
  have distinct := pairwise_map.mp (names_nodup frame slots)
  rw [labels_body]
  refine pairwise_map.mpr (distinct.imp_of_mem ?_)
  intro col other mem memOther apart same
  have constant : Sql.columnLabel (.one, none) = "1" := rfl
  rcases column_named mem with rfl | ⟨name, named, ne⟩
  · rcases column_named memOther with rfl | ⟨other, namedOther, neOther⟩
    · exact apart rfl
    · rw [constant, Sql.columnLabel, namedOther] at same
      exact neOther same.symm
  · rcases column_named memOther with rfl | ⟨other, namedOther, -⟩
    · rw [Sql.columnLabel, named] at same
      exact ne same
    · rw [Sql.columnLabel, named, Sql.columnLabel, namedOther] at same
      exact apart (by rw [named, namedOther, show name = other from same])

/-! ## All relations -/

/-- The query of a relation is well scoped if what its members come from is. -/
theorem relation_query_scoped (fits : frame.Fits catalog parent?)
    (around : Around catalog scope frame.head.aliasName parent?)
    (each : ∀ entry ∈ slots, entry.2.Scoped catalog
      (scope.enter frame.head.aliasName (.table frame.table))) {col : Expr}
    (shows : ∀ {scope : NameScope},
      (frame.compiled slots).value.Scoped catalog scope → col.Scoped catalog scope)
    (alias? : Option String) :
    ((frame.compiled slots).query col alias?).Scoped catalog scope := by
  let columns := (numbered frame 0 slots).columns
  let labels := (frame.body columns).labels
  let inner := (scope.define frame.rows labels).enter frame.rows (.rows labels)
  have rowsOwn : frame.rows ∈ ownNames _ :=
    mem_cons_of_mem _ mem_cons_self
  have sees : inner.Sees _ _ := NameScope.sees_enter _ _ _
  have view : frame.InView _ inner _ _ := {
    around := (around.define _ _).enter rowsOwn _
    sees
    defined := by simp [inner, NameScope.define, NameScope.enter]
    paging := fun mem => mem_labels_body (mem_map_of_mem (f := Prod.snd)
      (mem_append_right _ (frame.pagingColumns_subset_extras _ mem))) }
  have members : membersScoped catalog inner (numbered frame 0 slots).members := by
    refine numbered_members_scoped sees _ 0 fun name mem => mem_labels_body ?_
    rw [map_append]
    exact mem_append_left _ mem
  refine ⟨⟨Frame.body_scoped fits around (numbered_columns_scoped each 0),
    labels_nodup _ _⟩, .rows _, ?_, ⟨shows (Frame.value_scoped fits view members),
    trivial⟩, trivial, by simp [NameScope.ReadsOrder]⟩
  simp [Sql.Source.visible?, NameScope.define, Frame.compiled, labels, columns]

theorem attribute_scoped {slot : Slot} {field key : String} (fits : frame.Fits catalog parent?)
    (compiled : compileNode sources frame (.attribute field key) = .ok slot)
    (sees : scope.Sees frame.head.aliasName (.table frame.table)) : slot.Scoped catalog scope := by
  obtain rfl | ⟨col, known, rfl⟩ := compileNode_attribute compiled
  · trivial
  · rw [fits.self]
    exact ⟨_, sees, offers_of_mem (findNamed?_eq_some known).1⟩

/-- Whether a slot can be used wherever the table of its frame can, if no relation below its node
introduces a name that stands for the row around it. -/
def Frame.Admits (catalog : Catalog) (frame : Frame) (node : Node) (slot : Slot) : Prop :=
  nodeEvery (fun outer head => outer ∉ ownNames head.aliasName) frame.head.aliasName node →
    ∀ scope : NameScope, scope.Sees frame.head.aliasName (.table frame.table) →
      slot.Scoped catalog scope

theorem SlotsOf.scoped (each : SlotsOf (frame.Admits catalog) [] nodes slots)
    (apart : nodesEvery (fun outer head => outer ∉ ownNames head.aliasName)
      frame.head.aliasName nodes) (scope : NameScope) :
    ∀ entry ∈ slots, entry.2.Scoped catalog
      (scope.enter frame.head.aliasName (.table frame.table)) :=
  each.forall_mem fun _ mem _ admits =>
    admits (nodesEvery_of_mem apart mem) _ (NameScope.sees_enter _ _ _)

/-- What nodes come from can be used wherever the table of the relation around them can. -/
theorem slots_scoped (checked : sources.Checked) (made : frameOf sources parent? head = .ok frame)
    (compiled : compileNodes sources frame [] nodes = .ok slots) :
    SlotsOf (frame.Admits sources.catalog) [] nodes slots := by
  refine (compileNodes_slotsOf compiled).imp fun node _ _ => compileNode_induct ?_ ?_ made node
  · intro _ _ frame _ _ _ made compiled _ scope sees
    exact attribute_scoped (frameOf_fits checked made) compiled sees
  · intro _ _ frame head children inner slots made framed _ below apart scope sees
    obtain ⟨criteria, -, rfl, -⟩ := frameOf_realizes framed
    have fits := frameOf_fits checked made
    have around : Around sources.catalog scope inner.head.aliasName (some frame.self) := by
      rw [fits.self]
      exact ⟨apart.1, frame.table, fits.known, sees⟩
    exact relation_query_scoped (frameOf_fits checked framed) around (below.scoped apart.2 _) id
      none

/-- The query of a statement is well scoped if its tree introduces no name twice. -/
theorem compile_scoped (checked : sources.Checked) {root : Root} {stmt : Statement}
    (apart : NamesApart root) (compiled : compile sources root = .ok stmt) :
    stmt.query.Scoped sources.catalog .empty := by
  obtain ⟨frame, slots, made, nodes, query⟩ := compile_eq_ok compiled
  obtain ⟨criteria, -, headed, -⟩ := frameOf_realizes made
  rw [NamesApart, ← headed] at apart
  rw [query]
  refine relation_query_scoped (frameOf_fits checked made) trivial ?_ ?_ _
  · exact (slots_scoped checked made nodes).scoped apart .empty
  · exact fun value => value

/-- In a statement for a tree of a request, over a catalog and relations that have been accepted,
every name can be used where it stands, and no common table expression projects two columns of one
name. -/
theorem statement_scoped {text : String} {catalog : Catalog} {names : Naming} {derive : Bool}
    {declared : List Relation} {registry : Registry} {context : Tree.Context}
    {selections : List Selection} {roots : List Root} {root : Root} {statement : Statement}
    (accepted : Catalog.parse text = .ok catalog)
    (registered : Registry.build catalog names derive declared = .ok registry)
    (built : Tree.build context selections = .ok roots) (mem : root ∈ roots)
    (compiled : compile ⟨catalog, registry⟩ root = .ok statement) :
    statement.query.Scoped catalog .empty :=
  compile_scoped ⟨Catalog.parse_consistent accepted, Registry.build_checked registered⟩
    (build_namesApart built mem) compiled

/-! ## An example -/

/-- Authors and their tags, which a junction table connects. -/
def tagText : String :=
  "tables:
- {name: author, columns: [{name: id}, {name: Born}], primary_key: [ID]}
- {name: tag, columns: [{name: id}, {name: word}], primary_key: [id]}
- {name: author_tag, columns: [{name: author}, {name: tag}], primary_key: [author, tag]}
type_tables: {Author: author, Tag: tag}
"

/-- The catalog of authors and tags, whose key is written in another case than the column. -/
def tagCatalog : Catalog where
  tables := [
    ⟨"author", [⟨"id", "", false⟩, ⟨"Born", "", false⟩], ["ID"], [], []⟩,
    ⟨"tag", [⟨"id", "", false⟩, ⟨"word", "", false⟩], ["id"], [], []⟩,
    ⟨"author_tag", [⟨"author", "", false⟩, ⟨"tag", "", false⟩], ["author", "tag"], [], []⟩]
  typeTables := [("Author", "author"), ("Tag", "tag")]

def tagRelation : Relation :=
  ⟨"tags", "author", "tag", .junction, [],
    some ⟨"author_tag", [("id", "author")], [("id", "tag")]⟩⟩

def tagSources : Sources := ⟨tagCatalog, ⟨[tagRelation]⟩⟩

def tagSchema : Schema where
  queryType := "Query"
  types := [
    ⟨"Query", .object [⟨"authors", [], .list (.named "Author"), none⟩]⟩,
    ⟨"Author", .object [⟨"born", [], .named "Int", none⟩,
      ⟨"tags", [], .named "TagConnection", none⟩]⟩,
    ⟨"TagConnection", .object [⟨"edges", [], .list (.named "TagEdge"), none⟩,
      ⟨"totalCount", [], .named "Int", none⟩, ⟨"pageInfo", [], .named "PageInfo", none⟩]⟩,
    ⟨"TagEdge", .object [⟨"node", [], .named "Tag", none⟩, ⟨"cursor", [], .named "String", none⟩]⟩,
    ⟨"Tag", .object [⟨"word", [], .named "String", none⟩]⟩]
  defaults := []

/-- All authors with two of their tags, after a cursor. -/
def tagSelections : List Selection :=
  [plainField "authors" [plainField "born" [],
    .field none ⟨"tags", 0⟩
      [⟨⟨"first", 0⟩, .int "2" 0⟩, ⟨⟨"word", 0⟩, .string "lean" 0⟩,
        ⟨⟨"orderBy", 0⟩, .object [(⟨"word", 0⟩, .enum "DESC" 0)] 0⟩,
        ⟨⟨"after", 0⟩, .string "\x7b\"word\":\"logic\",\"id\":7\x7d" 0⟩] []
      [plainField "edges" [plainField "cursor" [], plainField "node" [plainField "word" []]],
        plainField "totalCount" [],
        plainField "pageInfo" [plainField "hasNextPage" [], plainField "endCursor" []]] 0 0]]

def tagHead : Head where
  field := "tags"
  responseName := "tags"
  aliasName := "tags-2"
  target := ⟨"Tag", true⟩
  arguments := [("first", .int 2), ("word", .text "lean"),
    ("orderBy", .object [("word", .enum "DESC")]),
    ("after", .text "\x7b\"word\":\"logic\",\"id\":7\x7d")]
  connection? := some {
    edges := "edges", node := "node", cursors := ["cursor"], totals := ["totalCount"]
    pages := [⟨"pageInfo", ["hasNextPage"], ["endCursor"], "", []⟩]
    type := "", typeNames := [], edgeType := "", edgeTypeNames := [] }

def authorsWithTags : Root where
  head := ⟨"authors", "authors", "authors-1", ⟨"Author", true⟩, [], none⟩
  children := [.attribute "born" "born", .relation tagHead [.attribute "word" "word"]]

theorem tagHead_compile : ∃ compiled, compileRelation tagSources (some ⟨"author", "authors-1"⟩)
    tagHead [.attribute "word" "word"] = .ok compiled := by
  let order : List OrderField := [⟨"word", .descending⟩, ⟨"id", .ascending⟩]
  let cursor : Keyset.Cursor := [("word", .text "logic"), ("id", .int 7)]
  have covers : cursor.Covers order := .refl _
  obtain ⟨predicate, bound⟩ := boundaryOf_of_covers (by decide) (by decide) covers _
  obtain ⟨frame, made, word⟩ : ∃ frame,
      frameOf tagSources (some ⟨"author", "authors-1"⟩) tagHead = .ok frame ∧
      frame.column "word" = .ok _ :=
    ⟨_, frameOf_eq_ok.mpr ⟨_, _, _, _, _, rfl, rfl, rfl, rfl, bound, rfl⟩, rfl⟩
  obtain ⟨slots, nodes⟩ : ∃ slots,
      compileNodes _ frame [] [.attribute "word" "word"] = .ok slots := by
    simp [compileNodes, compileNode, word, Except.map]
  exact ⟨_, compileRelation_eq_ok.mpr ⟨frame, slots, made, nodes, rfl⟩⟩

theorem authorsWithTags_compile :
    ∃ stmt, compile tagSources authorsWithTags = .ok stmt := by
  obtain ⟨tags, builtTags⟩ := tagHead_compile
  obtain ⟨frame, made, self, born⟩ : ∃ frame,
      frameOf tagSources none authorsWithTags.head = .ok frame ∧
      frame.self = ⟨"author", "authors-1"⟩ ∧
      frame.column "born" = .ok _ := ⟨_, rfl, rfl, rfl⟩
  obtain ⟨slots, nodes⟩ : ∃ slots, compileNodes tagSources frame [] authorsWithTags.children =
      .ok slots := by
    have key : tagHead.responseName = "tags" := rfl
    simp [authorsWithTags, compileNodes, compileNode, Node.responseName, key, born, self,
      builtTags, Except.map]
  exact compile_of_slots made nodes

theorem tagText_parse : Catalog.parse tagText = .ok tagCatalog := by
  -- Evaluating the list of characters would encode and decode the text first.
  rw [Catalog.parse, Catalog.readDocument, Yaml.parse, Yaml.tokens]
  set_option maxRecDepth 4000 in
    rw [show tagText.toList = _ from String.toList_ofList]
  decide +kernel

theorem statement_scoped_tags :
    Catalog.parse tagText = .ok tagCatalog ∧
      Registry.build tagCatalog .default false [tagRelation] = .ok ⟨[tagRelation]⟩ ∧
      Tree.build ⟨tagSchema, ⟨[]⟩, []⟩ tagSelections = .ok [authorsWithTags] ∧
      ∃ statement, compile ⟨tagCatalog, ⟨[tagRelation]⟩⟩ authorsWithTags = .ok statement ∧
        statement.query.Scoped tagCatalog .empty := by
  have registered : Registry.build tagCatalog .default false [tagRelation] =
      .ok ⟨[tagRelation]⟩ := rfl
  have built : Tree.build ⟨tagSchema, ⟨[]⟩, []⟩ tagSelections = .ok [authorsWithTags] := rfl
  obtain ⟨statement, compiled⟩ := authorsWithTags_compile
  exact ⟨tagText_parse, registered, built, statement, compiled,
    statement_scoped tagText_parse registered built List.mem_cons_self compiled⟩

end SelectGraph.Plan
