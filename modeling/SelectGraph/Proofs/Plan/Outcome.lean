import SelectGraph.Engine.Failure
import SelectGraph.Proofs.Plan.Simulation

/-!
# Outcomes of compiling

A query has a text only if it and all queries within it project a column.  Every statement the
compiler makes is such a query, for the common table expression of a relation without columns
projects a constant.  So writing the statement never fails, and a tree that has no statement has one
of the two faults of the compiler.
-/

namespace SelectGraph.Sql

/-! ## Queries that have a text -/

mutual

/-- Whether all queries within an expression project a column. -/
def Expr.complete : Expr → Bool
  | .column _ | .bare _ | .text _ | .one | .countRows | .countWindow | .rowNumber _ | .never
  | .exceeds _ _ => true
  | .object members => membersComplete members
  | .arrayOf item => Expr.complete item
  | .asText value => Expr.complete value
  | .anyRow query => Query.complete query
  | .subquery query => Query.complete query
  | .grouped value => Expr.complete value

/-- Whether all queries within the members of a JSON object project a column. -/
def membersComplete : List (String × Expr) → Bool
  | [] => true
  | (_, value) :: members => Expr.complete value && membersComplete members

def Predicate.complete : Predicate → Bool
  | .isNull _ | .isNotNull _ | .equals _ _ | .lessThan _ _ | .greaterThan _ _ | .oneOf _ _
  | .joined _ => true
  | .existsRow query => Query.complete query
  | .all parts => partsComplete parts
  | .any parts => partsComplete parts

def partsComplete : List Predicate → Bool
  | [] => true
  | part :: parts => Predicate.complete part && partsComplete parts

/-- Whether all queries within projected columns project a column. -/
def columnsComplete : List (Expr × Option String) → Bool
  | [] => true
  | (value, _) :: cols => Expr.complete value && columnsComplete cols

def Query.complete : Query → Bool
  | .select decl columns _ conds _ _ =>
    (match decl with
      | some (_, body) => Query.complete body
      | none => true) &&
    !columns.isEmpty && columnsComplete columns && partsComplete conds

end

@[simp] theorem membersComplete_iff {members : List (String × Expr)} :
    membersComplete members = true ↔ ∀ member ∈ members, member.2.complete = true := by
  induction members with
  | nil => simp [membersComplete]
  | cons member members ih => simp [membersComplete, ih]

@[simp] theorem partsComplete_iff {parts : List Predicate} :
    partsComplete parts = true ↔ ∀ part ∈ parts, part.complete = true := by
  induction parts with
  | nil => simp [partsComplete]
  | cons part parts ih => simp [partsComplete, ih]

@[simp] theorem columnsComplete_iff {cols : Columns} :
    columnsComplete cols = true ↔ ∀ col ∈ cols, col.1.complete = true := by
  induction cols with
  | nil => simp [columnsComplete]
  | cons col cols ih => simp [columnsComplete, ih]

inductive RenderError where
  | noColumns
  deriving DecidableEq

def Query.render? (query : Query) : Except RenderError Rendered :=
  if query.complete then .ok query.render else .error .noColumns

end SelectGraph.Sql

namespace SelectGraph.Plan

open Sql (ColumnRef Columns Expr FailsOnly Predicate Query RenderError)
open SelectGraph.Tree (Head Node Root)

variable {parent? : Option TableRef} {head : Head} {slots : Slots}
  {src : Sources} {frame : Frame}

/-! ## Conditions -/

theorem OnColumns.complete {reads : ColumnRef → Prop} {part : Predicate}
    (built : OnColumns reads part) : part.complete = true := by
  induction built with
  | all _ ih | any _ ih => exact Sql.partsComplete_iff.mpr ih
  | _ => rfl

theorem joinOf_complete {self : TableRef} {join : List Predicate}
    (built : joinOf src parent? head self = .ok join) :
    ∀ predicate ∈ join, predicate.complete = true := by
  obtain ⟨relation?, -, rfl⟩ := joinOf_eq_ok built
  rw [joinConditions.eq_def]
  split
  · rw [Relation.predicate.eq_def]
    split <;> simp [Predicate.complete, Query.complete, Expr.complete]
  · simp

/-! ## Relations -/

/-- Whether the conditions of a frame have a text. -/
def Frame.Complete (frame : Frame) : Prop :=
  ∀ pred ∈ frame.predicates ++ frame.boundary?.toList, pred.complete = true

theorem frameOf_complete (made : frameOf src parent? head = .ok frame) : frame.Complete := by
  obtain ⟨join, joined, each⟩ :=
    frameOf_conditions (fun _ => True) made (fun _ _ => trivial) fun _ _ => trivial
  exact fun part mem => (each part mem).elim OnColumns.complete (joinOf_complete joined part)

namespace Frame

variable (whole : frame.Complete)

include whole

theorem Complete.hasNext : frame.hasNext.complete = true := by
  rw [Frame.hasNext.eq_def]
  split
  · rfl
  · rw [Expr.complete, Query.complete, Sql.partsComplete_iff.mpr whole]
    rfl
  · rfl

theorem Complete.total : frame.total.complete = true := by
  have filters : ∀ pred ∈ frame.predicates, pred.complete = true :=
    fun pred mem => whole _ (List.mem_append_left _ mem)
  simpa [Frame.total, Expr.complete, Query.complete] using filters

theorem Complete.pageValue (page : Tree.PageInfo) : (frame.pageValue page).complete = true := by
  have cursor : frame.endCursor.complete = true := rfl
  simp [Frame.pageValue, Expr.complete, under, whole.hasNext, cursor, or_imp, forall_and]

theorem Complete.value {members : List (String × Expr)}
    (row : ∀ member ∈ members, member.2.complete = true) : (frame.value members).complete = true := by
  have object : (Expr.object members).complete = true := by simpa [Expr.complete] using row
  rw [Frame.value]
  cases frame.head.connection? with
  | none =>
    dsimp only
    split
    · exact object
    · exact object
  | some conn =>
    have pages := whole.pageValue
    simpa [Frame.connectionValue, Expr.complete, under, whole.total, pages, read, or_imp,
      forall_and] using row

/-- The common table expression of a relation projects a column even if nothing is asked for. -/
theorem Complete.body {cols : Columns}
    (each : ∀ col ∈ cols, col.1.complete = true) : (frame.body cols).complete = true := by
  have some : cols ++ frame.extras cols ≠ [] := by
    rw [extras]
    split
    · simp
    · rename_i some
      simpa using some
  have extra : ∀ col ∈ frame.extras cols, col.1.complete = true := by
    intro col mem
    rcases mem_extras mem with rfl | paging
    · rfl
    · obtain ⟨conn, -, ⟨-, rfl⟩ | ⟨-, rfl⟩ | ⟨-, rfl⟩⟩ := mem_pagingColumns.mp paging
      · simp [Keyset.cursorExpr, Expr.complete]
      · rfl
      · rfl
  rw [body_eq, Query.complete]
  simp only [Bool.and_eq_true, Bool.not_eq_true', List.isEmpty_eq_false_iff,
    Sql.columnsComplete_iff, Sql.partsComplete_iff, List.forall_mem_append]
  exact ⟨⟨⟨trivial, some⟩, each, extra⟩, List.forall_mem_append.mp whole⟩

end Frame

/-! ## Trees -/

/-- Whether what a member comes from has a text. -/
def Slot.complete : Slot → Bool
  | .text _ => true
  | .computed expr => expr.complete

theorem numbered_columns_complete (frame : Frame) (number : Nat)
    (each : ∀ entry ∈ slots, entry.2.complete = true) :
    ∀ col ∈ (numbered frame number slots).columns, col.1.complete = true := by
  fun_induction numbered _ number slots with
  | case1 => exact List.forall_mem_nil _
  | case2 _ _ _ _ _ ih => exact ih (List.forall_mem_cons.mp each).2
  | case3 _ _ _ _ ih => exact List.forall_mem_cons.mpr ((List.forall_mem_cons.mp each).imp_right ih)

theorem numbered_members_complete (frame : Frame) (number : Nat) (slots : Slots) :
    ∀ member ∈ (numbered frame number slots).members, member.2.complete = true := by
  fun_induction numbered _ number slots with
  | case1 => exact List.forall_mem_nil _
  | case2 _ _ _ _ _ ih | case3 _ _ _ _ ih => exact List.forall_mem_cons.mpr ⟨rfl, ih⟩

/-- The query of a relation has a text, if the slots of its rows have. -/
theorem relation_query_complete (made : frameOf src parent? head = .ok frame)
    (each : ∀ entry ∈ slots, entry.2.complete = true) {column : Expr}
    (shows : column.complete = (frame.compiled slots).value.complete) (alias? : Option String) :
    ((frame.compiled slots).query column alias?).complete = true := by
  have whole := frameOf_complete made
  have body := whole.body (numbered_columns_complete frame 0 each)
  have value := whole.value (numbered_members_complete frame 0 slots)
  simp [Compiled.query, Query.complete, Frame.compiled, body, shows, value]

theorem slots_complete {nodes : List Node} (made : frameOf src parent? head = .ok frame)
    (compiled : compileNodes src frame [] nodes = .ok slots) :
    ∀ entry ∈ slots, entry.2.complete = true := by
  refine (compileNodes_slotsOf compiled).forall_mem fun node _ _ =>
    compileNode_induct (motive := fun _ _ slot => slot.complete = true) ?_ ?_ made node
  · intro _ _ frame field key slot _ compiled
    obtain rfl | ⟨col, -, rfl⟩ := compileNode_attribute compiled
    · rfl
    · rfl
  · intro _ _ frame head children inner slots _ framed _ below
    exact relation_query_complete framed (below.forall_mem fun _ _ _ complete => complete) rfl none

theorem compile_complete {root : Root} {stmt : Statement}
    (compiled : compile src root = .ok stmt) : stmt.query.complete = true := by
  obtain ⟨frame, slots, made, nodes, query⟩ := compile_eq_ok compiled
  rw [query]
  exact relation_query_complete made (slots_complete made nodes) (by rw [Expr.complete]) _

/-! ## Faults -/

/-- Whether a fault names a relation only if there is none of that name between the tables. -/
def PlanError.Truthful (src : Sources) : PlanError → Prop
  | .resolution _ => True
  | .relation missing =>
    src.registry.lookup? missing.name missing.left missing.right = none

section

variable {src : Sources}

theorem resolved_truthful {α : Type} (outcome : Except ResolutionError α) :
    FailsOnly (PlanError.Truthful src) (resolved outcome) := by
  cases outcome with
  | ok value => exact .ok _
  | error fault => exact .error trivial

theorem joinOf_truthful (parent? : Option TableRef) (head : Head) (self : TableRef) :
    FailsOnly (PlanError.Truthful src) (joinOf src parent? head self) := by
  cases parent? with
  | none => exact .ok []
  | some parent =>
    rw [joinOf, Registry.resolve]
    cases known : src.registry.lookup? _ _ _ with
    | some rel => exact .ok _
    | none => exact .error known

theorem frameOf_truthful (parent? : Option TableRef) (head : Head) :
    FailsOnly (PlanError.Truthful src) (frameOf src parent? head) := by
  have table : FailsOnly (PlanError.Truthful src) (tableOf src head) := by
    rw [tableOf]
    split
    · exact .ok _
    · exact .error trivial
  have boundary (order : List _) (after? : Option _) :
      FailsOnly (PlanError.Truthful src) (boundaryOf head order after?) := by
    rw [boundaryOf.eq_def]
    split
    · exact .ok none
    · split
      · exact .ok _
      · exact .error trivial
  exact table.bind fun _ => (resolved_truthful _).bind fun _ => (resolved_truthful _).bind
    fun _ => (joinOf_truthful _ head _).bind fun _ => (boundary _ _).bind fun _ => .ok _

theorem compileRelation_truthful (parent? : Option TableRef) (head : Head) {children : List Node}
    (nodes : ∀ frame,
      FailsOnly (PlanError.Truthful src) (compileNodes src frame [] children)) :
    FailsOnly (PlanError.Truthful src) (compileRelation src parent? head children) := by
  rw [compileRelation]
  refine (frameOf_truthful _ head).bind fun frame => ?_
  rw [compileChildren_eq]
  exact ((nodes _).map _).bind fun _ => .ok _

mutual

theorem compileNode_truthful (frame : Frame) (node : Node) :
    FailsOnly (PlanError.Truthful src) (compileNode src frame node) := by
  match node with
  | .attribute _ key =>
    rw [compileNode]
    split
    · exact .ok _
    · rw [Frame.column]
      split
      · exact .ok _
      · exact .error trivial
  | .relation head children =>
    have inner := compileRelation_truthful (some frame.self) head fun inner =>
      compileNodes_truthful _ [] children
    exact inner.bind fun _ => .ok _

theorem compileNodes_truthful (frame : Frame) (seen : List String) (nodes : List Node) :
    FailsOnly (PlanError.Truthful src) (compileNodes src frame seen nodes) := by
  match nodes with
  | [] => exact .ok []
  | node :: rest =>
    rw [compileNodes]
    split
    · exact compileNodes_truthful _ seen rest
    · exact (compileNode_truthful _ node).bind fun _ =>
        (compileNodes_truthful _ _ rest).bind fun _ => .ok _

end

theorem compile_truthful (root : Root) :
    FailsOnly (PlanError.Truthful src) (compile src root) := by
  have rel : FailsOnly (PlanError.Truthful src) _ :=
    compileRelation_truthful none root.head fun frame =>
      compileNodes_truthful _ [] root.children
  exact rel.bind fun _ => .ok _

end

/-! ## Statements as text -/

inductive TextError where
  | plan (error : PlanError)
  /-- The statement for a response name was made, but it has no text. -/
  | render (responseName : String) (error : RenderError)

/-- The code of a tree without a statement.  A statement without a text is a failure inside the
server. -/
def TextError.code : TextError → Response.Code
  | .plan error => (Engine.Failure.plan error).code
  | .render _ _ => .internal

/-- Compile a relation at the top of a request and write its statement. -/
def compileText (src : Sources) (root : Root) : Except TextError Sql.Rendered := do
  let stmt ← (compile src root).mapError .plan
  stmt.query.render?.mapError (.render root.head.responseName)

/-- For all tables, relations and trees there is a statement, it has a text, and every query in it
projects a column; or something of the request is not in the schema; or two tables do not have the
relation asked for.  No other fault occurs, and each of the two has its own code. -/
theorem compileText_outcome (sources : Sources) (root : Root) :
    (∃ statement, compile sources root = .ok statement ∧ statement.query.complete = true ∧
        compileText sources root = .ok statement.rendered) ∨
      (∃ error, compile sources root = .error (.resolution error) ∧
        compileText sources root = .error (.plan (.resolution error)) ∧
        (TextError.plan (.resolution error)).code = .schemaResolution) ∨
      ∃ missing, compile sources root = .error (.relation missing) ∧
        compileText sources root = .error (.plan (.relation missing)) ∧
        (TextError.plan (.relation missing)).code = .relationNotFound ∧
        sources.registry.lookup? missing.name missing.left missing.right = none := by
  rw [compileText]
  cases compiled : compile sources root with
  | ok statement =>
    have complete := compile_complete compiled
    refine .inl ⟨statement, rfl, complete, ?_⟩
    change statement.query.render?.mapError _ = _
    rw [Query.render?, if_pos complete]
    rfl
  | error error =>
    cases error with
    | resolution error => exact .inr (.inl ⟨error, rfl, rfl, rfl⟩)
    | relation missing =>
      exact .inr (.inr ⟨missing, rfl, rfl, rfl, compile_truthful root _ compiled⟩)

end SelectGraph.Plan
