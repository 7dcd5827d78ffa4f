import SelectGraph.Proofs.Plan.Alike
import SelectGraph.Proofs.Plan.Paging
import SelectGraph.Proofs.Tree.Inlining

/-!
# Statements of trees that differ in enums

An enum in an argument of a relation stands for the text of its name: it is passed to a statement as
that text, and it names the same direction.  Trees with texts in place of enums therefore compile to
the same statements.  Only a cursor has to be a text.
-/

namespace SelectGraph.Literal

open List

theorem plainItems_eq_map (items : List Literal) : plainItems items = items.map plain := by
  induction items with
  | nil => rfl
  | cons item items ih => rw [plainItems, map_cons, ih]

theorem plainFields_append (first second : List (String × Literal)) :
    plainFields (first ++ second) = plainFields first ++ plainFields second := by
  induction first with
  | nil => rfl
  | cons field first ih =>
    rw [cons_append, plainFields, plainFields, ih, cons_append]

theorem isNull_plain (value : Literal) : value.plain.isNull = value.isNull := by
  cases value <;> rfl

theorem isScalar_plain (value : Literal) : value.plain.isScalar = value.isScalar := by
  cases value <;> rfl

theorem sqlValue_plain {value : Literal} (scalar : value.isScalar = true) :
    value.plain.sqlValue = value.sqlValue := by
  cases value with
  | null | list _ | object _ => cases scalar
  | _ => rfl

end SelectGraph.Literal

namespace SelectGraph.Plan

open Keyset (OrderField)
open Literal (isNull_plain isScalar_plain plainFields plainItems sqlValue_plain)
open Sql (ColumnRef Direction Predicate bind_eq_ok)
open SelectGraph.Tree (Head Node Root plainArgument)

variable {value : Literal} {table : Table} {field : String} {found next : Arguments} {head : Head}

/-! ## Filters -/

theorem listScalars_plain {name : String} {items scalars : List Literal} :
    listScalars name (plainItems items) = .ok scalars ↔ listScalars name items = .ok scalars := by
  induction items generalizing scalars with
  | nil => rfl
  | cons item items ih =>
    rw [plainItems, listScalars, listScalars, isNull_plain, isScalar_plain]
    split
    · exact ih
    · split
      · next scalar => simp only [bind_eq_ok, ih, sqlValue_plain scalar]
      · simp

theorem filterPredicate_plain {col : ColumnRef} {name : String} {pred : Predicate} :
    filterPredicate col name value.plain = .ok pred ↔
      filterPredicate col name value = .ok pred := by
  cases value with
  | list items =>
    have nulls : (plainItems items).any Literal.isNull = items.any Literal.isNull := by
      simp only [Literal.plainItems_eq_map, List.any_map, Function.comp_def, isNull_plain]
    rw [Literal.plain, filterPredicate, filterPredicate, nulls]
    simp only [bind_eq_ok, listScalars_plain]
  | object fields => simp [Literal.plain, filterPredicate, Literal.isScalar]
  | _ => rfl

theorem filterPredicates_plain {aliasName : String} {filters : List (String × Literal)}
    {preds : List Predicate} :
    filterPredicates table aliasName (plainFields filters) = .ok preds ↔
      filterPredicates table aliasName filters = .ok preds := by
  induction filters generalizing preds with
  | nil => rfl
  | cons filter filters ih =>
    rw [plainFields, filterPredicates, filterPredicates]
    split
    · exact .rfl
    · simp only [bind_eq_ok, filterPredicate_plain, ih]

/-! ## Limits and orders -/

theorem readLimit_plain {limit? : Option Nat} :
    readLimit field value.plain = .ok limit? ↔ readLimit field value = .ok limit? := by
  cases value with
  | enum _ | list _ | object _ => exact ⟨nofun, nofun⟩
  | _ => rfl

theorem directionOf_plain {direction : Direction} :
    directionOf field value.plain = .ok direction ↔ directionOf field value = .ok direction := by
  cases value with
  | list _ | object _ => exact ⟨nofun, nofun⟩
  | _ => rfl

theorem orderFields_plain {seen : List String} {fields : List (String × Literal)}
    {order : List OrderField} :
    orderFields table seen (plainFields fields) = .ok order ↔
      orderFields table seen fields = .ok order := by
  induction fields generalizing seen order with
  | nil => rfl
  | cons field fields ih =>
    rw [plainFields, orderFields, orderFields, isNull_plain]
    split
    · exact ih
    · split
      · exact .rfl
      · simp only [bind_eq_ok, directionOf_plain]
        refine exists_congr fun direction => and_congr_right fun _ => ?_
        split
        · exact ih
        · simp only [bind_eq_ok, ih]

theorem explicitOrder_plain {order : List OrderField} :
    explicitOrder table value.plain = .ok order ↔ explicitOrder table value = .ok order := by
  cases value with
  | object fields => exact orderFields_plain
  | enum _ | list _ => exact ⟨nofun, nofun⟩
  | _ => rfl

/-! ## Arguments -/

/-- Arguments with texts in place of enums in filters. -/
def Arguments.plain (args : Arguments) : Arguments :=
  { args with filters := plainFields args.filters }

theorem add_first :
    Arguments.add field table found ("first", value) = .ok next ↔
      ∃ limit?, readLimit field value = .ok limit? ∧ { found with limit? } = next := by
  rw [Arguments.add]
  cases readLimit field value <;> simp

theorem add_orderBy :
    Arguments.add field table found ("orderBy", value) = .ok next ↔
      ∃ order, explicitOrder table value = .ok order ∧ { found with order } = next := by
  rw [Arguments.add]
  cases explicitOrder _ _ <;> simp

/-- Texts in place of enums change what is read from an argument in filters only. -/
theorem add_plain {arg : String × Literal} :
    Arguments.add field table found.plain (plainArgument arg) = .ok next ↔
      ∃ read, Arguments.add field table found arg = .ok read ∧ read.plain = next := by
  obtain ⟨name, value⟩ := arg
  by_cases isFirst : name = "first"
  · subst isFirst
    change Arguments.add _ _ _ ("first", value.plain) = .ok next ↔ _
    simp only [add_first, readLimit_plain]
    constructor
    · rintro ⟨limit?, read, rfl⟩
      exact ⟨_, ⟨limit?, read, rfl⟩, rfl⟩
    · rintro ⟨_, ⟨limit?, read, rfl⟩, rfl⟩
      exact ⟨limit?, read, rfl⟩
  · by_cases isAfter : name = "after"
    · subst isAfter
      change Arguments.add _ _ _ ("after", value) = .ok next ↔ _
      cases value with
      | null => simp [Arguments.add]
      | text text =>
        rw [Arguments.add, Arguments.add]
        cases Keyset.Cursor.decode text <;> simp [Arguments.plain]
      | _ => simp [Arguments.add]
    · by_cases isOrder : name = "orderBy"
      · subst isOrder
        change Arguments.add _ _ _ ("orderBy", value.plain) = .ok next ↔ _
        simp only [add_orderBy, explicitOrder_plain]
        constructor
        · rintro ⟨order, read, rfl⟩
          exact ⟨_, ⟨order, read, rfl⟩, rfl⟩
        · rintro ⟨_, ⟨order, read, rfl⟩, rfl⟩
          exact ⟨order, read, rfl⟩
      · have free : name ∉ reservedNames := by simp [reservedNames, isFirst, isAfter, isOrder]
        rw [plainArgument, if_neg isAfter, add_filter free, add_filter free]
        simp [Arguments.plain, Literal.plainFields_append, plainFields]

theorem foldlM_add_plain {args : List (String × Literal)} :
    (args.map plainArgument).foldlM (Arguments.add field table) found.plain = .ok next ↔
      ∃ read, args.foldlM (Arguments.add field table) found = .ok read ∧ read.plain = next := by
  induction args generalizing found with
  | nil => simp
  | cons arg args ih =>
    simp only [List.map_cons, List.foldlM_cons, bind_eq_ok, add_plain]
    constructor
    · rintro ⟨_, ⟨step, added, rfl⟩, rest⟩
      obtain ⟨read, others, same⟩ := ih.mp rest
      exact ⟨read, ⟨step, added, others⟩, same⟩
    · rintro ⟨read, ⟨step, added, others⟩, same⟩
      exact ⟨_, ⟨step, added, rfl⟩, ih.mpr ⟨read, others, same⟩⟩

theorem readArguments_plain :
    readArguments head.plain table = .ok next ↔
      ∃ read, readArguments head table = .ok read ∧ read.plain = next := by
  change (head.arguments.map _).foldlM (Arguments.add _ _)
    (.plain ⟨none, none, [], []⟩) = .ok next ↔ _
  exact foldlM_add_plain

/-! ## Relations -/

variable {src : Sources}

/-- A frame with texts in place of enums in the arguments it was read from. -/
def Frame.plain (frame : Frame) : Frame := { frame with head := frame.head.plain }

theorem frameOf_plain {parent? : Option TableRef} {frame : Frame} :
    frameOf src parent? head.plain = .ok frame ↔
      ∃ made, frameOf src parent? head = .ok made ∧ made.plain = frame := by
  simp only [frameOf_eq_ok, readArguments_plain]
  constructor
  · rintro ⟨table, _, filters, join, boundary?, found, ⟨read, given, rfl⟩, filtered, joined, bounded,
      rfl⟩
    exact ⟨_, ⟨table, read, filters, join, boundary?, found, given, filterPredicates_plain.mp filtered,
      joined, bounded, rfl⟩, rfl⟩
  · rintro ⟨_, ⟨table, read, filters, join, boundary?, found, given, filtered, joined, bounded, rfl⟩,
      rfl⟩
    exact ⟨table, _, filters, join, boundary?, found, ⟨read, given, rfl⟩,
      filterPredicates_plain.mpr filtered, joined, bounded, rfl⟩

theorem numbered_plain (frame : Frame) (number : Nat) (slots : Slots) :
    numbered frame.plain number slots = numbered frame number slots := by
  fun_induction numbered frame number slots with
  | case1 => rfl
  | case2 _ _ _ _ _ ih => rw [numbered, ih]
  | case3 _ _ _ _ ih =>
    rw [numbered, ih]
    rfl

/-- A relation is compiled without another look at the arguments its frame was read from. -/
theorem compiled_plain (frame : Frame) (slots : Slots) :
    frame.plain.compiled slots = frame.compiled slots := by
  rw [Frame.compiled, numbered_plain]
  rfl

/-- A relation with texts in place of enums compiles as the relation does if that holds of its
children. -/
theorem compileRelation_plain {parent? : Option TableRef} {children : List Node}
    {compiled : Compiled}
    (below : ∀ {frame slots}, compileNodes src frame [] (Node.plainAll children) = .ok slots ↔
      compileNodes src frame [] children = .ok slots) :
    compileRelation src parent? head.plain (Node.plainAll children) = .ok compiled ↔
      compileRelation src parent? head children = .ok compiled := by
  have nodes (frame : Frame) : compileNodes src frame.plain [] children =
      compileNodes src frame [] children := by
    apply compileNodes_congr <;> rfl
  simp only [compileRelation_eq_ok, frameOf_plain, below]
  constructor
  · rintro ⟨_, slots, ⟨frame, made, rfl⟩, compiledNodes, same⟩
    exact ⟨frame, slots, made, nodes _ ▸ compiledNodes, same.trans (compiled_plain _ _)⟩
  · rintro ⟨frame, slots, made, compiledNodes, same⟩
    exact ⟨_, slots, ⟨frame, made, rfl⟩, (nodes _).trans compiledNodes,
      same.trans (compiled_plain _ _).symm⟩

theorem responseName_plain (node : Node) : node.plain.responseName = node.responseName := by
  cases node <;> rfl

mutual

theorem compileNode_node_plain {frame : Frame} {node : Node} {slot : Slot} :
    compileNode src frame node.plain = .ok slot ↔ compileNode src frame node = .ok slot := by
  match node with
  | .attribute _ _ => exact .rfl
  | .relation head _ =>
    rw [Node.plain, compileNode, compileNode]
    simp only [bind_eq_ok, compileRelation_plain compileNodes_plainAll]

theorem compileNodes_plainAll {frame : Frame} {seen : List String} {nodes : List Node}
    {slots : Slots} :
    compileNodes src frame seen (Node.plainAll nodes) = .ok slots ↔
      compileNodes src frame seen nodes = .ok slots := by
  match nodes with
  | [] => exact .rfl
  | node :: nodes =>
    rw [Node.plainAll, compileNodes, compileNodes, responseName_plain]
    split
    · exact compileNodes_plainAll
    · simp only [bind_eq_ok, compileNode_node_plain, compileNodes_plainAll]

end

/-- A tree with texts in place of enums, except in cursors, compiles to the statement of the tree. -/
theorem compile_plain {root : Root} {stmt : Statement} :
    compile src root.plain = .ok stmt ↔ compile src root = .ok stmt := by
  rw [compile, compile, bind_eq_ok, bind_eq_ok]
  exact exists_congr fun _ => and_congr_left fun _ => compileRelation_plain compileNodes_plainAll

end SelectGraph.Plan
