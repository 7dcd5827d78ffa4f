import SelectGraph.Proofs.Plan.Filters
import SelectGraph.Proofs.Plan.Order

/-!
# The conditions of a relation

A condition in a statement is true of a row exactly when the row is meant: for the filters, for
the relation to the row around it, and for the cursor.
-/

namespace SelectGraph.Plan

open List

open Sql (Cell ColumnRef Domain Predicate Row Scope Selects Store Truth bind_eq_ok
  forall_mem_of_forall₂ mapM_eq_map)
open Sql.Predicate (Decides decides_all_nil)

variable {parent? : Option TableRef} {src : Sources} {head : Tree.Head} {domain : Domain}
  {store : Store} {scope : Scope store} {aliasName : String} {row : Row store}
  {pairs : List (ColumnRef × ColumnRef)} {fact : Prop} {left right : TableRef}
  {parent : Row store} {row? : Option (Row domain)} {order : List Keyset.OrderField}
  {boundary? : Option Predicate} {frame : Frame}

/-! ## Relations -/

theorem equal?_eq_true {a b : Option domain.Value} :
    (Cell.ofStored a).equal? (.ofStored b) = some true ↔ agree a b = true := by
  cases a <;> cases b <;> simp [Cell.ofStored, Cell.equal?, Cell.compare, agree]

/-- How two columns compare. -/
def pairTruth (scope : Scope domain) (pair : ColumnRef × ColumnRef) : Except Sql.Failure Truth := do
  return (← scope.column pair.1).equal? (← scope.column pair.2)

theorem decides_joined_iff :
    Decides store scope (.joined pairs) fact ↔
      ∃ truths, pairs.mapM (pairTruth scope) = .ok truths ∧
        ((∀ truth ∈ truths, truth = some true) ↔ fact) := by
  constructor
  · rintro ⟨_, evaluated, decided⟩
    obtain ⟨truths, compared, same⟩ := bind_eq_ok.mp evaluated
    cases same
    exact ⟨truths, compared, Truth.all_eq_true.symm.trans decided⟩
  · rintro ⟨truths, compared, decided⟩
    refine ⟨.all _, ?_, Truth.all_eq_true.trans decided⟩
    exact bind_eq_ok.mpr ⟨truths, compared, rfl⟩

theorem joined_decides {left right : String} {leftRow rightRow : Row store}
    (bindsLeft : scope.Binds left leftRow) (bindsRight : scope.Binds right rightRow)
    {α : Type} (items : List α) (leftColumn rightColumn : α → String) :
    Decides store scope
      (.joined (items.map fun item => (⟨left, leftColumn item⟩, ⟨right, rightColumn item⟩)))
      (items.all (fun item => agree (leftRow (leftColumn item)) (rightRow (rightColumn item))) =
        true) := by
  refine decides_joined_iff.mpr ⟨items.map fun item =>
    (Cell.ofStored (leftRow (leftColumn item))).equal? (.ofStored (rightRow (rightColumn item))),
      ?_, ?_⟩
  · rw [mapM_map]
    refine mapM_eq_map fun item _ => ?_
    simp [pairTruth, bindsLeft.column, bindsRight.column]
  · rw [forall_mem_map, all_eq_true]
    exact forall₂_congr fun item _ => equal?_eq_true

theorem joined_append_decides {others : List (ColumnRef × ColumnRef)} {other : Prop}
    (decides : Decides store scope (.joined pairs) fact)
    (decidesOthers : Decides store scope (.joined others) other) :
    Decides store scope (.joined (pairs ++ others)) (fact ∧ other) := by
  obtain ⟨first, compared, decided⟩ := decides_joined_iff.mp decides
  obtain ⟨second, comparedOthers, decidedOthers⟩ := decides_joined_iff.mp decidesOthers
  refine decides_joined_iff.mpr ⟨first ++ second, ?_, ?_⟩
  · rw [mapM_append, compared, comparedOthers]
    rfl
  · rw [forall_mem_append, decided, decidedOthers]

theorem ne_junctionAlias (right : TableRef) : right.aliasName ≠ Relation.junctionAlias right := by
  intro same
  have lengths := congrArg String.length same
  rw [Relation.junctionAlias, String.length_append] at lengths
  have : "j_".length = 2 := rfl
  omega

theorem junction_selects (through : Through) (bindsParent : scope.Binds left.aliasName parent)
    (binds : scope.Binds right.aliasName row)
    (apart : left.aliasName ≠ Relation.junctionAlias right) :
    Selects store scope (Relation.junctionAlias right)
      [.joined ((through.left.map fun pair =>
          (⟨Relation.junctionAlias right, pair.2⟩, ⟨left.aliasName, pair.1⟩)) ++
        through.right.map fun pair =>
          (⟨Relation.junctionAlias right, pair.2⟩, ⟨right.aliasName, pair.1⟩))]
      fun middle => (through.left.all fun pair => agree (middle pair.2) (parent pair.1)) &&
        through.right.all fun pair => agree (middle pair.2) (row pair.1) := by
  intro middle
  have bindsMiddle := Scope.binds_enter scope (Relation.junctionAlias right) middle
  have onLeft :=
    joined_decides bindsMiddle (bindsParent.enter apart _) through.left Prod.snd Prod.fst
  have onRight := joined_decides bindsMiddle (binds.enter (ne_junctionAlias _) _)
    through.right Prod.snd Prod.fst
  exact (joined_append_decides onLeft onRight).all_single.iff Bool.and_eq_true_iff.symm

/-- The condition of a relation is true of the rows it leads to. -/
theorem relation_decides (rel : Relation) (bindsParent : scope.Binds left.aliasName parent)
    (binds : scope.Binds right.aliasName row)
    (apart : left.aliasName ≠ Relation.junctionAlias right) :
    Decides store scope (rel.predicate left right)
      (relates store rel parent row = true) := by
  obtain ⟨_, _, _, strategy, pairs, through?⟩ := rel
  have direct := joined_decides bindsParent binds pairs Prod.fst Prod.snd
  cases strategy with
  | junction =>
    cases through? with
    | none => exact direct
    | some through => exact (junction_selects _ bindsParent binds apart).decides_existsRow
  | _ => exact direct

/-! ## Frames -/

/-- The names a relation introduces in a statement: its table, its common table expression and its
junction table. -/
def ownNames (aliasName : String) : List String :=
  [aliasName, aliasName ++ "_rows", "j_" ++ aliasName]

/-- What is around a relation in a scope: nothing at the top, and otherwise a row under a name that
the relation does not introduce again. -/
inductive Surrounded (scope : Scope domain) (aliasName : String) :
    Option TableRef → Option (Row domain) → Prop
  | top : Surrounded scope aliasName none none
  | below {parent : TableRef} {row : Row domain} (binds : scope.Binds parent.aliasName row)
      (apart : parent.aliasName ∉ ownNames aliasName) :
      Surrounded scope aliasName (some parent) (some row)

theorem Surrounded.enter {scope : Scope domain} (around : Surrounded scope aliasName parent? row?)
    {name : String} (own : name ∈ ownNames aliasName) (record : Sql.Record domain) :
    Surrounded (scope.enter name record) aliasName parent? row? := by
  cases around with
  | top => exact .top
  | below binds apart => exact .below (binds.enter (fun same => apart (same ▸ own)) _) apart

theorem Surrounded.define {scope : Scope domain}
    (around : Surrounded scope aliasName parent? row?) (name : String)
    (records : List (Sql.Record domain)) :
    Surrounded (scope.define name records) aliasName parent? row? := by
  cases around with
  | top => exact .top
  | below binds apart => exact .below binds apart

/-- A frame stands for criteria if it reads the same table in the same order up to the same limit,
and its conditions single out the rows that match and those that remain. -/
structure Frame.Realizes (frame : Frame) (parent? : Option TableRef) (crit : Criteria) :
    Prop where
  table : frame.table = crit.table
  self : frame.self = ⟨crit.table.name, frame.head.aliasName⟩
  limit : frame.limit? = crit.arguments.limit?
  order : frame.order = crit.order
  matching : ∀ {store : Store} {scope : Scope store} {row? : Option (Row store)},
    Surrounded scope frame.head.aliasName parent? row? →
      Selects store scope frame.head.aliasName frame.predicates fun row =>
        crit.filtered row && crit.joined store row? row
  remaining : ∀ {store : Store} {scope : Scope store} {row? : Option (Row store)},
    Surrounded scope frame.head.aliasName parent? row? →
      Selects store scope frame.head.aliasName (frame.predicates ++ frame.boundary?.toList)
        fun row => (crit.filtered row && crit.joined store row? row) && crit.follows row

theorem resolved_eq_ok {α : Type} {outcome : Except ResolutionError α} {value : α} :
    resolved outcome = .ok value ↔ outcome = .ok value := by
  cases outcome <;> simp [resolved]

theorem tableOf_eq_ok {table : Table} :
    tableOf src head = .ok table ↔
      src.catalog.tableForType head.target.type = .ok table := by
  rw [tableOf]
  cases src.catalog.tableForType _ <;> simp

/-- The conditions that join two tables by a relation, if both a table and a relation are given. -/
def joinConditions (parent? : Option TableRef) (relation? : Option Relation) (self : TableRef) :
    List Predicate :=
  match parent?, relation? with
  | some parent, some rel => [rel.predicate parent self]
  | _, _ => []

theorem joinOf_eq_ok {self : TableRef} {join : List Predicate}
    (built : joinOf src parent? head self = .ok join) :
    ∃ relation?, relationOf? src (parent?.map TableRef.table) head.field self.table =
        some relation? ∧ join = joinConditions parent? relation? self := by
  cases parent? with
  | none =>
    cases built
    exact ⟨none, rfl, rfl⟩
  | some parent =>
    rw [joinOf, Registry.resolve] at built
    cases known : src.registry.lookup? _ _ _ with
    | none =>
      rw [known] at built
      cases built
    | some rel =>
      rw [known] at built
      cases built
      exact ⟨some _, by simp [relationOf?, known], rfl⟩

/-- The join is true of the rows that belong to the row around them. -/
theorem joinConditions_decide (crit : Criteria) (self : TableRef)
    {row? : Option (Row store)} (around : Surrounded scope self.aliasName parent? row?)
    (binds : scope.Binds self.aliasName row) :
    Decides store scope (.all (joinConditions parent? crit.relation? self))
      (crit.joined store row? row = true) := by
  rw [Criteria.joined.eq_def]
  cases around with
  | top => cases crit.relation? <;> exact decides_all_nil.iff (by simp)
  | below bindsParent apart =>
    cases crit.relation? with
    | none => exact decides_all_nil.iff (by simp)
    | some rel =>
      refine (relation_decides _ bindsParent binds ?_).all_single
      exact fun same => apart (by simp [same, ownNames, Relation.junctionAlias])

/-- The condition for the rows after a cursor compares with the values of the cursor. -/
theorem boundaryOf_eq_ok {cursor? : Option Keyset.Cursor} (distinct : Distinct order)
    (built : boundaryOf head order cursor? = .ok boundary?) :
    boundary? = cursor?.map fun cursor => Keyset.after head.aliasName (cursor.entries order) := by
  cases cursor? with
  | none =>
    cases built
    rfl
  | some cursor =>
    rw [boundaryOf] at built
    split at built
    · rename_i bounded
      cases built
      rw [Keyset.boundary_eq distinct bounded]
      rfl
    · cases built

theorem boundaryOf_of_covers {cursor : Keyset.Cursor} (given : order ≠ [])
    (distinct : (order.map Keyset.OrderField.column).Nodup) (covers : cursor.Covers order)
    (head : Tree.Head) :
    ∃ pred, boundaryOf head order (some cursor) = .ok (some pred) := by
  obtain ⟨pred, bounded⟩ := Keyset.boundary_of_covers given distinct covers _
  exact ⟨pred, by rw [boundaryOf, bounded]⟩

/-- The condition for the rows after the cursor, if one is given, is true of the rows that follow. -/
theorem boundaryOf_decides {crit : Criteria} (distinct : Distinct crit.order)
    (built : boundaryOf head crit.order crit.arguments.after? = .ok boundary?)
    (binds : scope.Binds head.aliasName row) :
    Decides store scope (.all boundary?.toList) (crit.follows row = true) := by
  rw [Criteria.follows]
  cases given : crit.arguments.after? with
  | none =>
    rw [given] at built
    cases built
    exact decides_all_nil.iff (by simp)
  | some cursor =>
    rw [given, boundaryOf] at built
    split at built
    · rename_i bounded
      cases built
      refine (Keyset.boundary_decides distinct bounded binds).all_single.iff ?_
      simp [Keyset.Cursor.Before]
    · cases built

/-- A relation has a frame if its table is known, its arguments and filters can be read, it is
related to the table around it and its cursor fits its order. -/
theorem frameOf_eq_ok :
    frameOf src parent? head = .ok frame ↔
      ∃ table args filters join boundary?,
        tableOf src head = .ok table ∧
        readArguments head table = .ok args ∧
        filterPredicates table head.aliasName args.filters = .ok filters ∧
        joinOf src parent? head ⟨table.name, head.aliasName⟩ = .ok join ∧
        boundaryOf head (effectiveOrder table args.order) args.after? = .ok boundary? ∧
        frame = {
          head, table, self := ⟨table.name, head.aliasName⟩, limit? := args.limit?
          order := effectiveOrder table args.order, predicates := filters ++ join
          boundary? } := by
  simp only [frameOf, bind_eq_ok, resolved_eq_ok]
  constructor
  · rintro ⟨table, found, args, read, filters, filtered, join, joined, boundary?, bounded,
      same⟩
    cases same
    exact ⟨table, args, filters, join, boundary?, found, read, filtered, joined, bounded, rfl⟩
  · rintro ⟨table, args, filters, join, boundary?, found, read, filtered, joined, bounded, rfl⟩
    exact ⟨table, found, args, read, filters, filtered, join, joined, boundary?, bounded, rfl⟩

/-- A relation that can be compiled has criteria, and its frame stands for them. -/
theorem frameOf_realizes (made : frameOf src parent? head = .ok frame) :
    ∃ crit, criteriaOf src (parent?.map TableRef.table) head = .ok crit ∧
      frame.head = head ∧ frame.Realizes parent? crit := by
  obtain ⟨table, args, filters, join, boundary?, found, read, filtered, joined, bounded,
    rfl⟩ := frameOf_eq_ok.mp made
  obtain ⟨relation?, related, join_eq⟩ := joinOf_eq_ok joined
  let crit : Criteria := ⟨table, relation?, args⟩
  have resolved : criteriaOf _ _ head = .ok crit :=
    criteriaOf_eq_ok.mpr ⟨tableOf_eq_ok.mp found, read, related⟩
  have distinct : Distinct crit.order :=
    effectiveOrder_distinct _ (readArguments_distinct read)
  have matching {store : Store} {scope : Scope _} {row? : Option _}
      (around : Surrounded scope head.aliasName parent? row?) :
      Selects _ scope head.aliasName (filters ++ join) fun row =>
        crit.filtered row && crit.joined store row? row := by
    intro row
    have binds := Scope.binds_enter scope head.aliasName row
    have inside := around.enter (mem_cons_self) (.ofRow row)
    have joins : Decides _ (Sql.rowScope scope head.aliasName row) (.all join)
        (crit.joined _ row? row = true) := by
      rw [join_eq]
      exact joinConditions_decide crit ⟨table.name, head.aliasName⟩ inside binds
    exact ((filterPredicates_decide binds filtered).all_append joins).iff Bool.and_eq_true_iff.symm
  refine ⟨crit, resolved, rfl, rfl, rfl, rfl, rfl, matching, ?_⟩
  intro store scope row? around row
  have binds := Scope.binds_enter scope head.aliasName row
  exact ((matching around row).all_append (boundaryOf_decides distinct bounded binds)).iff
    Bool.and_eq_true_iff.symm

/-! ## What conditions are made of -/

/-- Conditions made of tests and comparisons of single columns. -/
inductive OnColumns (reads : ColumnRef → Prop) : Predicate → Prop
  | isNull {col} (known : reads col) : OnColumns reads (.isNull col)
  | isNotNull {col} (known : reads col) : OnColumns reads (.isNotNull col)
  | equals {col} (known : reads col) (value) : OnColumns reads (.equals col value)
  | lessThan {col} (known : reads col) (value) : OnColumns reads (.lessThan col value)
  | greaterThan {col} (known : reads col) (value) :
      OnColumns reads (.greaterThan col value)
  | oneOf {col} (known : reads col) (values) : OnColumns reads (.oneOf col values)
  | all {parts} (each : ∀ part ∈ parts, OnColumns reads part) : OnColumns reads (.all parts)
  | any {parts} (each : ∀ part ∈ parts, OnColumns reads part) : OnColumns reads (.any parts)

section OnColumns

variable {reads : ColumnRef → Prop} {table : Table}

theorem filterPredicates_onColumns {filters : List (String × Literal)} {preds : List Predicate}
    (built : filterPredicates table aliasName filters = .ok preds)
    (cols : ∀ col ∈ table.columns, reads ⟨aliasName, col.name⟩) :
    ∀ part ∈ preds, OnColumns reads part := by
  refine forall_mem_of_forall₂ (filterPredicates_eq_ok built).flip ?_
  rintro pred filter - ⟨col, found, single⟩
  have known := cols _ (findNamed?_eq_some found).1
  obtain ⟨-, rfl⟩ | ⟨-, rfl⟩ | ⟨_, _, -, -, ⟨-, rfl⟩ | ⟨-, -, rfl⟩ | ⟨-, -, rfl⟩⟩ :=
    filterPredicate_eq_ok single
  · exact .isNull known
  · exact .equals known _
  · exact .oneOf known _
  · exact .isNull known
  · exact .any (by simp [OnColumns.oneOf known, OnColumns.isNull known])

theorem after_onColumns {entries : List (Keyset.OrderField × Literal)}
    (known : ∀ entry ∈ entries, reads ⟨aliasName, entry.1.column⟩) :
    OnColumns reads (Keyset.after aliasName entries) := by
  induction entries with
  | nil => exact .any (forall_mem_nil _)
  | cons entry rest ih =>
    obtain ⟨field, value⟩ := entry
    rw [forall_mem_cons] at known
    have beyond : ∀ part ∈ Keyset.beyond ⟨aliasName, field.column⟩ field.direction value,
        OnColumns reads part := by
      rw [Keyset.beyond.eq_def]
      split
      all_goals simp [OnColumns.isNull known.1, OnColumns.isNotNull known.1,
        OnColumns.lessThan known.1, OnColumns.greaterThan known.1]
    have level : OnColumns reads (Keyset.level ⟨aliasName, field.column⟩ value) := by
      rw [Keyset.level.eq_def]
      split
      · exact .isNull known.1
      · exact .equals known.1 _
    cases rest with
    | nil =>
      rw [Keyset.after, Keyset.someOf.eq_def]
      split
      · rename_i only
        exact beyond _ (only ▸ mem_cons_self)
      · exact .any beyond
    | cons next rest =>
      have tie : OnColumns reads (.all [Keyset.level ⟨aliasName, field.column⟩ value,
          Keyset.after aliasName (next :: rest)]) := .all (by simp [level, ih known.2])
      rw [Keyset.after_cons]
      split
      · exact tie
      · exact .any (forall_mem_append.mpr ⟨beyond, forall_mem_singleton.mpr tie⟩)

/-- The conditions of a frame are those on columns of its table and its order, and the join. -/
theorem frameOf_conditions (reads : ColumnRef → Prop)
    (made : frameOf src parent? head = .ok frame)
    (cols : ∀ col ∈ frame.table.columns, reads ⟨head.aliasName, col.name⟩)
    (ordered : ∀ field ∈ frame.order, reads ⟨head.aliasName, field.column⟩) :
    ∃ join, joinOf src parent? head ⟨frame.table.name, head.aliasName⟩ = .ok join ∧
      ∀ part ∈ frame.predicates ++ frame.boundary?.toList, OnColumns reads part ∨ part ∈ join := by
  obtain ⟨table, args, filters, join, boundary?, -, read, filtered, joined, bounded, rfl⟩ :=
    frameOf_eq_ok.mp made
  have distinct := effectiveOrder_distinct table (readArguments_distinct read)
  refine ⟨join, joined, ?_⟩
  rw [forall_mem_append, forall_mem_append]
  refine ⟨⟨fun part mem => .inl (filterPredicates_onColumns filtered cols part mem),
    fun part => .inr⟩, ?_⟩
  rw [boundaryOf_eq_ok distinct bounded]
  cases args.after? with
  | none => exact forall_mem_nil _
  | some cursor =>
    refine forall_mem_singleton.mpr (.inl (after_onColumns ?_))
    exact forall_mem_map.mpr ordered

end OnColumns

end SelectGraph.Plan
