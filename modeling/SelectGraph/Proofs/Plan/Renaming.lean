import SelectGraph.Proofs.Plan.Value
import SelectGraph.Proofs.Sql.Locality
import SelectGraph.Proofs.Sql.Renaming

/-!
# Relations under other names

A relation under other response names has the frame of the first one, and the same rows in its common
table expression.  What paging needs is equal in both, and the members of the rows correspond up to
their keys, so the values built from them do.
-/

namespace SelectGraph.Plan

open List

open Sql (ColumnRef Columns ColumnsRewritten Corresponds Expr ExprRenamed Facing Failure
  MembersRenamed Parallel Place Predicate Query Record Result Rewritten Scope Store arrange cut
  definedGroup evalColumns evalColumns_append evalColumns_names keptRows ok_bind rowPlaces rowScope)
open SelectGraph.Tree (Connection Head Node PageInfo)

/-! ## Conditions do not read common table expressions -/

theorem OnColumns.local {reads : ColumnRef → Prop} {part : Predicate}
    (built : OnColumns reads part) : part.Local := by
  induction built with
  | all _ ih => exact .all ih
  | any _ ih => exact .any ih
  | _ => exact ⟨fun same => by rw [Predicate.eval, Predicate.eval, Sql.column_congr same]⟩

theorem relation_local (rel : Relation) (left right : TableRef) :
    (rel.predicate left right).Local := by
  rw [Relation.predicate]
  split
  · exact .existsRow (forall_mem_singleton.mpr (.joined _)) _ _
  · exact .joined _

/-- The conditions of a frame look at rows only. -/
structure Frame.Local (frame : Frame) : Prop where
  predicates : ∀ part ∈ frame.predicates, part.Local
  boundary : ∀ part ∈ frame.boundary?.toList, part.Local

theorem frameOf_local {src : Sources} {parent? : Option TableRef} {head : Head} {frame : Frame}
    (made : frameOf src parent? head = .ok frame) : frame.Local := by
  obtain ⟨join, joined, each⟩ :=
    frameOf_conditions (fun _ => True) made (fun _ _ => trivial) fun _ _ => trivial
  have joins : ∀ part ∈ join, part.Local := by
    obtain ⟨relation?, -, rfl⟩ := joinOf_eq_ok joined
    rw [joinConditions.eq_def]
    split
    · exact forall_mem_singleton.mpr (relation_local _ _ _)
    · exact forall_mem_nil _
  have every := forall_mem_append.mp fun part mem =>
    (each part mem).elim OnColumns.local (joins part)
  exact ⟨every.1, every.2⟩

/-! ## Frames -/

/-- A frame under the names of another relation. -/
def Frame.renamed (other : Head) (frame : Frame) : Frame := { frame with head := other }

/-- The frame of a renamed relation is that of the relation, under its own names. -/
theorem frameOf_renames {head other : Head} (renames : head.Renames other) (src : Sources)
    (parent? : Option TableRef) :
    frameOf src parent? other = Frame.renamed other <$> frameOf src parent? head := by
  obtain ⟨connections⟩ := renames
  simp only [frameOf, map_bind]
  rfl

section Frames

variable {frame : Frame} {other : Head} (renames : frame.head.Renames other)

include renames

theorem compileNode_renamed (src : Sources) (node : Node) :
    compileNode src (frame.renamed other) node = compileNode src frame node := by
  obtain ⟨connections⟩ := renames
  cases node <;> rfl

theorem numbered_renamed (number : Nat) (slots : Slots) :
    numbered (frame.renamed other) number slots = numbered frame number slots := by
  obtain ⟨connections⟩ := renames
  fun_induction numbered frame number slots with
  | case1 => rfl
  | case2 _ _ _ _ _ ih => rw [numbered, ih]
  | case3 _ _ _ _ ih =>
    rw [numbered, ih]
    rfl

theorem body_renamed (cols : Columns) : (frame.renamed other).body cols = frame.body cols := by
  have paging : (frame.renamed other).pagingColumns = frame.pagingColumns := by
    obtain ⟨connections⟩ := renames
    simp only [Frame.pagingColumns, Frame.renamed]
    generalize frame.head.connection? = connection? at connections ⊢
    cases connections with
    | none => rfl
    | some connection =>
      simp only [connection.wantsCursor, connection.wantsHasNext, connection.wantsEndCursor]
      rfl
  obtain ⟨connections⟩ := renames
  rw [Frame.body, paging]
  rfl

end Frames

/-- What is added to columns depends on their number only. -/
theorem extras_rewritten {keys : List (String × String)} {cols otherCols : Columns}
    (rewritten : ColumnsRewritten keys cols otherCols) (frame : Frame) :
    frame.extras otherCols = frame.extras cols := by
  cases rewritten <;> rfl

/-! ## Slots -/

/-- One place. -/
abbrev samePlace : Facing := fun _ place other => place = other

/-- Slots of renamed nodes: equal texts, or values that are renamed. -/
inductive SlotRenamed (change : Change) : Slot → Slot → Prop
  | text (value : String) (unchanged : change = .none) :
      SlotRenamed change (.text value) (.text value)
  | computed {value other : Expr} (renamed : ExprRenamed samePlace change value other) :
      SlotRenamed change (.computed value) (.computed other)

/-- Slots of renamed rows. -/
inductive SlotsRenamed : List MemberChange → List (String × Slot) → List (String × Slot) → Prop
  | nil : SlotsRenamed [] [] []
  | cons {member : MemberChange} {members : List MemberChange} {slot other : Slot}
      {slots others : List (String × Slot)} (first : SlotRenamed member.toChange slot other)
      (rest : SlotsRenamed members slots others) :
      SlotsRenamed (member :: members) ((member.key, slot) :: slots)
        ((member.renamed, other) :: others)

namespace SlotsRenamed

variable {members : List MemberChange} {slots others : Slots}
  (renamed : SlotsRenamed members slots others) (frame : Frame) (number : Nat)

include renamed

/-- The members of rows are written with the names of their slots. -/
theorem members_written :
    Rewritten (Change.object (members.map .read)).keys
      (Expr.object (numbered frame number slots).members).pieces
      (Expr.object (numbered frame number others).members).pieces := by
  have each : MembersRenamed (fun _ _ _ => False) (members.map .read)
      (numbered frame number slots).members (numbered frame number others).members := by
    induction renamed generalizing number with
    | nil => exact .nil
    | cons first _ ih =>
      cases first with
      | text value unchanged => exact .cons _ ⟨.refl _, False.elim⟩ (ih _)
      | computed renamed => exact .cons _ ⟨.refl _, False.elim⟩ (ih _)
  exact each.object.pieces

/-- The columns of rows are written with the keys of inner relations. -/
theorem columns_written :
    ColumnsRewritten (members.flatMap (·.keys)) (numbered frame number slots).columns
      (numbered frame number others).columns := by
  induction renamed generalizing number with
  | nil => exact .nil
  | cons first _ ih =>
    cases first with
    | text value unchanged =>
      rw [flatMap_cons, unchanged]
      exact ih _
    | computed renamed => exact .cons renamed.pieces (ih _)

/-- The members put together from the columns correspond. -/
theorem eval {store : Store} (place : Place store) :
    Parallel (fun cells otherCells => MembersRekeyed (members.map .read) (assemble slots cells)
        (assemble others otherCells))
      (evalColumns store place (numbered frame number slots).columns)
      (evalColumns store place (numbered frame number others).columns) := by
  induction renamed generalizing number with
  | nil => exact .ok .nil
  | @cons member _ _ _ _ _ first _ ih =>
    cases first with
    | text value unchanged =>
      have same : member.values (.text value) (.text value) := by
        rw [unchanged]
        rfl
      exact (ih _).imp fun _ _ rest => .cons same rest
    | computed renamed =>
      refine (renamed.values rfl).bind fun _ _ value => (ih _).bind fun _ _ rest => ?_
      exact .ok (.cons value rest)

/-- The common table expression is written with the keys of its columns. -/
theorem body_written : Rewritten (members.flatMap (·.keys))
    (frame.body (numbered frame number slots).columns).pieces
    (frame.body (numbered frame number others).columns).pieces := by
  have cols := renamed.columns_written frame number
  rw [Frame.body_eq, Frame.body_eq, extras_rewritten cols, Sql.pieces_select, Sql.pieces_select]
  have front := (cols.followed (frame.extras (numbered frame number slots).columns)).pieces
  exact ((((front.same _).followed _).followed _).followed _).followed _

end SlotsRenamed

/-! ## Rows -/

/-- How rows and those of a renamed relation are shown, and how the values differ. -/
structure RowPair extends Change where
  row : Expr
  otherRow : Expr

/-- The rows of a frame with two lists of slots. -/
def Frame.pair (frame : Frame) (members : List MemberChange) (slots others : Slots) : RowPair where
  toChange := .object (members.map .read)
  row := .object (numbered frame 0 slots).members
  otherRow := .object (numbered frame 0 others).members

/-- A row of a common table expression together with the one of the renamed relation.  They are shown
by corresponding values, and what paging needs is equal in both. -/
structure Twin (store : Store) (frame : Frame) (pair : RowPair) where
  result : Result store
  otherResult : Result store
  shown : ∀ {place otherPlace : Place store} {outer otherOuter : Scope store},
    place.scope = outer.enter frame.rows (.ofResult result) →
    otherPlace.scope = otherOuter.enter frame.rows (.ofResult otherResult) →
      Parallel (fun cell otherCell => pair.values cell.toJson otherCell.toJson)
        (pair.row.eval store place) (pair.otherRow.eval store otherPlace)
  paging : ∀ {col : String}, col.toList.head? ≠ some 'f' →
    Record.ofResult otherResult col = Record.ofResult result col

/-- Results that are those of twin rows. -/
def AreTwins {store : Store} (frame : Frame) (pair : RowPair)
    (results otherResults : List (Result store)) : Prop :=
  ∃ twins : List (Twin store frame pair),
    results = twins.map Twin.result ∧ otherResults = twins.map Twin.otherResult

section Rows

variable {store : Store} {scope : Scope store} {frame : Frame} {place : Place store}
  {members : List MemberChange} {slots others : Slots}

/-- The places where the columns of a common table expression are computed. -/
def Frame.places (store : Store) (scope : Scope store) (frame : Frame) :
    Except Failure (List (Place store)) := do
  let rows ← keptRows store scope frame.self.table frame.self.aliasName
    (frame.predicates ++ frame.boundary?.toList)
  let places ← arrange store (rowPlaces store (rows.map (rowScope scope frame.self.aliasName)))
    (if frame.head.target.isList then some (orderTerms frame.order frame.self.aliasName) else none)
  return cut frame.limit? places

theorem body_places {cols : Columns} (plain : Plain cols) :
    (frame.body cols).eval store scope = (frame.places store scope >>= fun places =>
      places.mapM fun place => evalColumns store place (cols ++ frame.extras cols)) := by
  have allPlain := (plain.append (extras_plain frame cols)).any_eq_false
  rw [Frame.body_eq, Frame.source, Sql.eval_table, Frame.places, bind_assoc]
  refine bind_congr fun rows => ?_
  rw [Sql.resultPlaces_plain allPlain, bind_assoc]
  rfl

/-- The columns of members have names of their own. -/
theorem lookup_cells {cells : Result store}
    (evaluated : evalColumns store place (numbered frame 0 slots).columns = .ok cells)
    {col : String} (reserved : col.toList.head? ≠ some 'f') :
    cells.lookup (some col) = none := by
  obtain ⟨count, names⟩ := numbered_names frame 0 _
  rw [lookup_eq_none_iff]
  intro entry mem
  have named : entry.1 ∈ cells.map _ := mem_map_of_mem mem
  rw [evalColumns_names evaluated, names] at named
  obtain ⟨number, -, name_eq⟩ := mem_map.mp named
  have apart := columnName_ne reserved number
  simpa [← name_eq] using apart.symm

theorem columns_twin (renamed : SlotsRenamed members slots others) (place : Place store) :
    Parallel (fun result otherResult => ∃ twin : Twin store frame (frame.pair members slots others),
        result = twin.result ∧ otherResult = twin.otherResult)
      (evalColumns store place ((numbered frame 0 slots).columns ++
        frame.extras (numbered frame 0 slots).columns))
      (evalColumns store place ((numbered frame 0 others).columns ++
        frame.extras (numbered frame 0 others).columns)) := by
  rw [evalColumns_append, evalColumns_append]
  have extras := extras_rewritten (renamed.columns_written frame 0) frame
  rcases (renamed.eval frame 0 place).outcomes with
    ⟨failure, failed, otherFailed⟩ | ⟨cells, otherCells, evaluated, otherEvaluated, rekeyed⟩
  · rw [failed, otherFailed]
    exact .error trivial
  rw [evaluated, otherEvaluated, ok_bind, ok_bind, extras]
  cases evaluatedExtra : evalColumns store place (frame.extras (numbered frame 0 slots).columns) with
  | error failure => exact .error trivial
  | ok extra =>
    have otherExtra := extras.symm ▸ evaluatedExtra
    refine .ok ⟨⟨cells ++ extra, otherCells ++ extra, ?_, ?_⟩, rfl, rfl⟩
    · intro reading otherReading outer otherOuter inside otherInside
      dsimp only [Frame.pair]
      rw [object_eval_cells evaluated evaluatedExtra inside,
        object_eval_cells otherEvaluated otherExtra otherInside]
      exact .ok (.object rekeyed)
    · intro col reserved
      simp only [Record.ofResult, lookup_append, lookup_cells evaluated reserved,
        lookup_cells otherEvaluated reserved]

/-- The common table expressions of a relation and of a renamed one have twin rows. -/
theorem body_twins (renamed : SlotsRenamed members slots others)
    (plain : Plain (numbered frame 0 slots).columns)
    (otherPlain : Plain (numbered frame 0 others).columns) :
    Parallel (AreTwins frame (frame.pair members slots others))
      ((frame.body (numbered frame 0 slots).columns).eval store scope)
      ((frame.body (numbered frame 0 others).columns).eval store scope) := by
  rw [body_places plain, body_places otherPlain]
  refine (Corresponds.refl _).bind ?_
  rintro places _ rfl
  refine (Corresponds.mapM fun place _ => columns_twin renamed place).imp ?_
  intro results otherResults each
  induction each with
  | nil => exact ⟨[], rfl, rfl⟩
  | cons first _ ih =>
    obtain ⟨twin, rfl, rfl⟩ := first
    obtain ⟨twins, rfl, rfl⟩ := ih
    exact ⟨twin :: twins, rfl, rfl⟩

end Rows

/-! ## Values -/

/-- Places in scopes of twin rows. -/
def rowFacing (frame : Frame) (pair : RowPair) : Facing :=
  fun store place otherPlace => ∃ (twin : Twin store frame pair) (outer otherOuter : Scope store),
    place.scope = outer.enter frame.rows (.ofResult twin.result) ∧
      otherPlace.scope = otherOuter.enter frame.rows (.ofResult twin.otherResult)

/-- Places where all twin rows are aggregated. -/
def groupFacing (frame : Frame) (pair : RowPair) : Facing :=
  fun store place otherPlace => ∃ (scope : Scope store) (twins : List (Twin store frame pair)),
    place = definedGroup scope frame.rows (twins.map Twin.result) ∧
      otherPlace = definedGroup scope frame.rows (twins.map Twin.otherResult)

section Values

variable {frame : Frame} {pair : RowPair}

theorem text_renamed {facing : Facing} (text : String) :
    ExprRenamed facing .none (.text text) (.text text) :=
  .same fun _ => rfl

theorem definedGroup_map {store : Store} {α : Type} (scope : Scope store) (name : String)
    (result : α → Result store) (items : List α) :
    (definedGroup scope name (items.map result)).group = .ok (items.map fun item =>
      Sql.definedScope scope name (items.map result) (result item)) := by
  rw [definedGroup, map_map]
  rfl

theorem defined_map {store : Store} {α : Type} (scope : Scope store) (name : String)
    (result : α → Result store) (items : List α) :
    (definedGroup scope name (items.map result)).scope.defined.lookup name =
      some (items.map fun item => Record.ofResult (result item)) := by
  simp [definedGroup, Sql.groupPlace, Sql.defining, Scope.define, Scope.enter]

theorem arrayOf_renamed {itemChange : Change} {item other : Expr}
    (renamed : ExprRenamed (rowFacing frame pair) itemChange item other) :
    ExprRenamed (groupFacing frame pair) itemChange.list (.arrayOf item)
      (.arrayOf other) where
  pieces := .between [_] [_] renamed.pieces
  values := by
    rintro store _ _ ⟨scope, twins, rfl, rfl⟩
    rw [Expr.eval, Expr.eval, definedGroup_map, definedGroup_map, ok_bind, ok_bind, mapM_map, mapM_map]
    refine (Corresponds.mapM fun twin _ => ?_).bind fun _ _ each => .ok (.list each)
    exact (renamed.values ⟨twin, _, _, rfl, rfl⟩).bind fun _ _ value => .ok value

theorem cursor_renamed (frame : Frame) :
    ExprRenamed (rowFacing frame pair) .none
    (frame.read Frame.cursorColumn) (frame.read Frame.cursorColumn) := by
  refine .same ?_
  rintro store place otherPlace ⟨twin, outer, otherOuter, inside, otherInside⟩
  rw [Frame.read, Expr.eval, Expr.eval, inside, otherInside]
  exact Sql.column_enter_congr _ _ (twin.paging (by decide)) _

theorem endCursor_renamed : ExprRenamed (groupFacing frame pair) .none
    frame.endCursor frame.endCursor := by
  refine .same ?_
  rintro store _ _ ⟨scope, twins, rfl, rfl⟩
  have rows := Sql.eval_ordered_congr (defined_map scope frame.rows Twin.result twins)
    (defined_map scope frame.rows Twin.otherResult twins)
    (fun twin => twin.paging (by decide : Frame.cursorColumn.toList.head? ≠ some 'f'))
    (fun twin => twin.paging (by decide : Frame.rowColumn.toList.head? ≠ some 'f'))
    .descending (some 1)
  rw [Frame.endCursor, Expr.eval, Expr.eval, rows]

variable (rowsOnly : frame.Local)

include rowsOnly

theorem total_renamed : ExprRenamed (groupFacing frame pair) .none frame.total
    frame.total := by
  refine .same ?_
  rintro store _ _ ⟨scope, twins, rfl, rfl⟩
  rw [Frame.total, Expr.eval, Expr.eval, Frame.source, Sql.eval_count, Sql.eval_count,
    Sql.keptRows_congr rowsOnly.predicates]
  rfl

theorem hasNext_renamed : ExprRenamed (groupFacing frame pair) .none
    frame.hasNext frame.hasNext := by
  refine .same ?_
  rintro store _ _ ⟨scope, twins, rfl, rfl⟩
  rw [Frame.hasNext.eq_def]
  split
  · rfl
  · have all := forall_mem_append.mpr ⟨rowsOnly.predicates, rowsOnly.boundary⟩
    rw [Expr.eval, Expr.eval, Frame.source, Sql.eval_probe, Sql.eval_probe,
      Sql.keptRows_congr all]
    rfl
  · have cells (twin : Twin store frame pair) :=
      Sql.column_enter_congr (Sql.defining scope frame.rows (twins.map Twin.result))
        (Sql.defining scope frame.rows (twins.map Twin.otherResult))
        (twin.paging (by decide : Frame.remainingColumn.toList.head? ≠ some 'f')) frame.rows
    rw [Expr.eval, Expr.eval, definedGroup_map, definedGroup_map, ok_bind, ok_bind, mapM_map,
      mapM_map]
    simp only [Function.comp_def, Sql.definedScope, cells]

theorem pageValue_renamed {page other : PageInfo} (pages : page.Renames other) :
    ExprRenamed (groupFacing frame pair) (page.change other).toChange
      (frame.pageValue page) (frame.pageValue other) := by
  rw [Frame.pageValue, Frame.pageValue, pages.type]
  exact (((MembersRenamed.plain (hasNext_renamed rowsOnly) pages.hasNext).append
    (.plain endCursor_renamed pages.endCursor)).append
      (.plain (text_renamed _) pages.typeNames)).object

theorem pages_renamed {pages others : List PageInfo}
    (each : List.Forall₂ PageInfo.Renames pages others) :
    MembersRenamed (groupFacing frame pair)
      (zipWith PageInfo.change pages others)
      (pages.map fun page => (page.responseName, frame.pageValue page))
      (others.map fun page => (page.responseName, frame.pageValue page)) := by
  induction each with
  | nil => exact .nil
  | cons first _ ih => exact .cons _ (pageValue_renamed rowsOnly first) ih

variable (written : Rewritten pair.keys pair.row.pieces pair.otherRow.pieces)

include written

omit rowsOnly in
theorem row_renamed : ExprRenamed (rowFacing frame pair) pair.toChange pair.row pair.otherRow := by
  refine ⟨written, ?_⟩
  rintro store place otherPlace ⟨twin, outer, otherOuter, inside, otherInside⟩
  exact twin.shown inside otherInside

theorem connectionValue_renamed {conn other : Connection} (connections : conn.Renames other) :
    ExprRenamed (groupFacing frame pair) (conn.change other pair.toChange)
      (frame.connectionValue conn pair.row) (frame.connectionValue other pair.otherRow) := by
  rw [Frame.connectionValue, Frame.connectionValue, connections.edgeType, connections.type]
  have edge := ((MembersRenamed.cons { pair.toChange with key := conn.node, renamed := other.node }
    (row_renamed written) (.plain (cursor_renamed frame) connections.cursors)).append
      (.plain (text_renamed other.edgeType) connections.edgeTypeNames)).object
  exact (((MembersRenamed.cons _ (arrayOf_renamed edge)
    (.plain (total_renamed rowsOnly) connections.totals)).append
      (pages_renamed rowsOnly connections.pages)).append
        (.plain (text_renamed _) connections.typeNames)).object

end Values

/-! ## Relations -/

/-- Values that correspond on all rows together if they aggregate, and row by row if not. -/
inductive ValueRenamed (frame : Frame) (pair : RowPair) (change : Change) (value other : Expr) : Prop
  | grouped (aggregates : value.aggregates = true) (otherAggregates : other.aggregates = true)
      (renamed : ExprRenamed (groupFacing frame pair) change value other)
  | single (plain : value.aggregates = false) (otherPlain : other.aggregates = false)
      (renamed : ExprRenamed (rowFacing frame pair) change value other)

theorem ValueRenamed.pieces {frame : Frame} {pair : RowPair} {change : Change} {value other : Expr}
    (renamed : ValueRenamed frame pair change value other) :
    Rewritten change.keys value.pieces other.pieces := by
  cases renamed with
  | grouped _ _ renamed => exact renamed.pieces
  | single _ _ renamed => exact renamed.pieces

/-- Results of one column each, under names of their own, whose values correspond. -/
abbrev ResultsRenamed {domain : Sql.Domain} (change : Change) (alias? otherAlias? : Option String) :
    List (Result domain) → List (Result domain) → Prop :=
  List.Forall₂ fun result other => ∃ cell otherCell, result = [(alias?, cell)] ∧
    other = [(otherAlias?, otherCell)] ∧ change.values cell.toJson otherCell.toJson

/-- Compiled relations of which the common table expression and the value are renamed. -/
structure CompiledRenamed (inner : List MemberChange) (change : Change) (compiled other : Compiled) :
    Prop where
  rows : other.rows = compiled.rows
  body : Rewritten (inner.flatMap (·.keys)) compiled.body.pieces other.body.pieces
  value : Rewritten change.keys compiled.value.pieces other.value.pieces
  results : ∀ {store : Store} (scope : Scope store) {col otherCol : Expr},
    Shows store col compiled.value → Shows store otherCol other.value →
      ∀ alias? otherAlias?, Parallel (ResultsRenamed change alias? otherAlias?)
        ((compiled.query col alias?).eval store scope)
        ((other.query otherCol otherAlias?).eval store scope)

theorem ValueRenamed.results {store : Store} {scope : Scope store} {frame : Frame} {pair : RowPair}
    {change : Change} {value other col otherCol : Expr}
    (renamed : ValueRenamed frame pair change value other) {body otherBody : Query}
    (bodies : Parallel (AreTwins frame pair) (body.eval store scope) (otherBody.eval store scope))
    (shows : Shows store col value) (otherShows : Shows store otherCol other)
    (alias? otherAlias? : Option String) :
    Parallel (ResultsRenamed change alias? otherAlias?)
      (((⟨frame.rows, body, value⟩ : Compiled).query col alias?).eval store scope)
      (((⟨frame.rows, otherBody, other⟩ : Compiled).query otherCol otherAlias?).eval store scope) := by
  rw [Compiled.query, Compiled.query]
  rcases bodies.outcomes with
    ⟨failure, failed, otherFailed⟩ | ⟨_, _, evaluated, otherEvaluated, twins, rfl, rfl⟩
  · rw [Sql.eval_defined_error _ _ _ failed, Sql.eval_defined_error _ _ _ otherFailed]
    exact .error trivial
  cases renamed with
  | grouped aggregates otherAggregates renamed =>
    rw [Sql.eval_defined_group _ _ evaluated (shows.aggregates.trans aggregates),
      Sql.eval_defined_group _ _ otherEvaluated (otherShows.aggregates.trans otherAggregates),
      shows.eval, otherShows.eval]
    exact (renamed.values ⟨scope, twins, rfl, rfl⟩).map fun cell otherCell value =>
      .cons ⟨cell, otherCell, rfl, rfl, value⟩ .nil
  | single plain otherPlain renamed =>
    rw [Sql.eval_defined _ _ _ evaluated, Sql.eval_defined _ _ _ otherEvaluated,
      Sql.resultPlaces_plain (by simp [shows.aggregates, plain]),
      Sql.resultPlaces_plain (by simp [otherShows.aggregates, otherPlain])]
    simp only [arrange, ok_bind, map_map, Sql.rowPlaces_map, mapM_map]
    refine Corresponds.mapM fun item _ => ?_
    simp only [Function.comp_apply, evalColumns, shows.eval, otherShows.eval]
    exact (renamed.values ⟨item.1, _, _, rfl, rfl⟩).bind fun cell otherCell value =>
      .ok ⟨cell, otherCell, rfl, rfl, value⟩

/-- A frame and a renamed one with the slots of their rows give renamed relations. -/
theorem compiled_renamed {frame : Frame} {other : Head} {members : List MemberChange}
    {slots others : Slots} (renames : frame.head.Renames other) (rowsOnly : frame.Local)
    (renamed : SlotsRenamed members slots others) (plain : Plain (numbered frame 0 slots).columns)
    (otherPlain : Plain (numbered frame 0 others).columns) :
    CompiledRenamed members (frame.head.change other members) (frame.compiled slots)
      ((frame.renamed other).compiled others) := by
  have written := renamed.members_written frame 0
  have value : ValueRenamed frame (frame.pair members slots others)
      (frame.head.change other members) (frame.value (numbered frame 0 slots).members)
      ((frame.renamed other).value (numbered frame 0 others).members) := by
    obtain ⟨connections⟩ := renames
    simp only [Frame.value, Head.change, Frame.renamed]
    generalize frame.head.connection? = connection? at connections ⊢
    cases connections with
    | none =>
      by_cases isList : frame.head.target.isList = true <;> simp only [isList, if_true]
      · exact .grouped rfl rfl (arrayOf_renamed (row_renamed written))
      · exact .single (members_plain _ _ _) (members_plain _ _ _) (row_renamed written)
    | some connections =>
      exact .grouped rfl rfl (connectionValue_renamed rowsOnly written connections)
  have rows : (frame.renamed other).rows = frame.rows := by
    obtain ⟨connections⟩ := renames
    rfl
  rw [Frame.compiled, Frame.compiled, numbered_renamed renames, body_renamed renames, rows]
  refine ⟨rfl, renamed.body_written frame 0, value.pieces, ?_⟩
  intro store scope col otherCol shows otherShows alias? otherAlias?
  exact value.results (body_twins renamed plain otherPlain) shows otherShows alias? otherAlias?

end SelectGraph.Plan
