import SelectGraph.Proofs.Plan.Conditions

/-!
# Members of rows

The members of the object of a row are either fixed texts or values that a column of the common
table expression holds.  Compiling the children of a relation settles which, and numbers the columns;
reading the numbered columns back gives the values that were put there.
-/

namespace SelectGraph.Plan

open List

open Sql (Columns Domain Expr Failure Place Result Scope Store bind_eq_ok evalColumns evalMembers)

/-- What a member of the object of a row comes from. -/
inductive Slot where
  | text (value : String)
  | computed (expr : Expr)

abbrev Slots := List (String × Slot)

def compileNode (src : Sources) (frame : Frame) : Tree.Node → Except PlanError Slot
  | .attribute field _ =>
    if field = "__typename" then .ok (.text frame.head.target.type)
    else (frame.column field).map .computed
  | .relation head children => do
      let compiled ← compileRelation src (some frame.self) head children
      return .computed (.subquery (compiled.query compiled.value none))

/-- The slots of nodes. Of nodes with one response name the first counts. -/
def compileNodes (src : Sources) (frame : Frame) (seen : List String) :
    List Tree.Node → Except PlanError (List (String × Slot))
  | [] => .ok []
  | node :: rest =>
    if node.responseName ∈ seen then compileNodes src frame seen rest
    else do
      let slot ← compileNode src frame node
      let others ← compileNodes src frame (node.responseName :: seen) rest
      return (node.responseName, slot) :: others

/-- Give every value among slots a column, with numbers from the given one on. -/
def numbered (frame : Frame) (number : Nat) : List (String × Slot) → RowParts
  | [] => ⟨[], []⟩
  | (key, .text value) :: slots =>
    let parts := numbered frame number slots
    { parts with members := (key, .text value) :: parts.members }
  | (key, .computed expr) :: slots =>
    (numbered frame (number + 1) slots).addColumn frame number key expr

/-- An attribute is the name of the type or a column of the table. -/
theorem compileNode_attribute {src : Sources} {frame : Frame} {field key : String} {slot : Slot}
    (compiled : compileNode src frame (.attribute field key) = .ok slot) :
    slot = .text frame.head.target.type ∨ ∃ col, frame.table.column? field = some col ∧
      slot = .computed (.column ⟨frame.self.aliasName, col.name⟩) := by
  rw [compileNode] at compiled
  split at compiled
  · cases compiled
    exact .inl rfl
  · rw [Frame.column] at compiled
    split at compiled
    · rename_i col known
      cases compiled
      exact .inr ⟨col, known, rfl⟩
    · cases compiled

theorem compileChildren_eq (src : Sources) (frame : Frame) (seen : List String) (number : Nat)
    (children : List Tree.Node) :
    compileChildren src frame seen number children =
      (compileNodes src frame seen children).map (numbered frame number) := by
  induction children generalizing seen number with
  | nil => rw [compileChildren]; rfl
  | cons node rest ih =>
    rcases node with ⟨field, key⟩ | ⟨head, children⟩
    · rw [compileChildren, compileNodes, Tree.Node.responseName]
      split
      · exact ih seen _
      · rw [compileNode]
        split
        · rw [ih]
          cases compileNodes _ _ _ rest <;> rfl
        · rw [ih]
          cases frame.column _ <;>
            cases compileNodes _ _ _ rest <;> rfl
    · rw [compileChildren, compileNodes, Tree.Node.responseName]
      split
      · exact ih seen _
      · rw [compileNode, ih]
        cases compileRelation _ _ head _ <;>
          cases compileNodes _ _ _ rest <;> rfl

/-- A relation is compiled to the parts that its frame has with the slots of its rows. -/
def Frame.compiled (frame : Frame) (slots : List (String × Slot)) : Compiled where
  rows := frame.rows
  body := frame.body (numbered frame 0 slots).columns
  value := frame.value (numbered frame 0 slots).members

section Compiling

variable {src : Sources} {parent? : Option TableRef} {head : Tree.Head} {frame : Frame}
  {children : List Tree.Node} {seen : List String} {nodes : List Tree.Node}
  {slots : Slots}

/-- A relation compiles if it has a frame and its children have slots. -/
theorem compileRelation_eq_ok {compiled : Compiled} :
    compileRelation src parent? head children = .ok compiled ↔
      ∃ frame slots, frameOf src parent? head = .ok frame ∧
        compileNodes src frame [] children = .ok slots ∧ compiled = frame.compiled slots := by
  rw [compileRelation, bind_eq_ok]
  refine exists_congr fun frame => ?_
  rw [compileChildren_eq]
  cases compileNodes _ _ [] _ with
  | error error => simp [Except.map]
  | ok slots => simp [Except.map, Frame.compiled, eq_comm (a := compiled)]

/-- A statement comes from a compiled relation. -/
theorem compile_eq_ok {root : Tree.Root} {stmt : Statement}
    (made : compile src root = .ok stmt) :
    ∃ frame slots, frameOf src none root.head = .ok frame ∧
      compileNodes src frame [] root.children = .ok slots ∧
      stmt.query = (frame.compiled slots).query (.grouped (frame.compiled slots).value)
        (some root.head.responseName) := by
  obtain ⟨compiled, built, same⟩ := bind_eq_ok.mp made
  obtain ⟨frame, slots, framed, nodes, rfl⟩ := compileRelation_eq_ok.mp built
  cases same
  exact ⟨frame, slots, framed, nodes, rfl⟩

theorem compile_of_slots {root : Tree.Root} (made : frameOf src none root.head = .ok frame)
    (nodes : compileNodes src frame [] root.children = .ok slots) :
    ∃ stmt, compile src root = .ok stmt :=
  ⟨_, bind_eq_ok.mpr ⟨_, compileRelation_eq_ok.mpr ⟨frame, slots, made, nodes, rfl⟩, rfl⟩⟩

theorem compile_of_isOk {root : Tree.Root} (isOk : (compile src root).isOk = true) :
    ∃ stmt, compile src root = .ok stmt := by
  cases made : compile src root with
  | error error => simp [made, Except.isOk, Except.toBool] at isOk
  | ok stmt => exact ⟨stmt, rfl⟩

/-- A frame reads its table under the name of its relation. -/
theorem frameOf_self (made : frameOf src parent? head = .ok frame) :
    frame.self = ⟨frame.table.name, frame.head.aliasName⟩ := by
  obtain ⟨crit, -, -, realizes⟩ := frameOf_realizes made
  rw [realizes.self, realizes.table]

/-- Nodes and their slots, related one by one.  Of nodes with one response name the first has a
slot. -/
inductive SlotsOf (related : Tree.Node → Slot → Prop) :
    List String → List Tree.Node → List (String × Slot) → Prop
  | nil (seen : List String) : SlotsOf related seen [] []
  | again {seen : List String} {node : Tree.Node} {nodes : List Tree.Node}
      {slots : List (String × Slot)} (known : node.responseName ∈ seen)
      (rest : SlotsOf related seen nodes slots) : SlotsOf related seen (node :: nodes) slots
  | first {seen : List String} {node : Tree.Node} {nodes : List Tree.Node} {slot : Slot}
      {slots : List (String × Slot)} (new : node.responseName ∉ seen) (here : related node slot)
      (rest : SlotsOf related (node.responseName :: seen) nodes slots) :
      SlotsOf related seen (node :: nodes) ((node.responseName, slot) :: slots)

namespace SlotsOf

variable {related : Tree.Node → Slot → Prop}

theorem imp {others : Tree.Node → Slot → Prop} (each : SlotsOf related seen nodes slots)
    (weaker : ∀ node ∈ nodes, ∀ slot, related node slot → others node slot) :
    SlotsOf others seen nodes slots := by
  induction each with
  | nil seen => exact .nil seen
  | again known rest ih => exact .again known (ih (forall_mem_cons.mp weaker).2)
  | first new here rest ih =>
    obtain ⟨first, others⟩ := forall_mem_cons.mp weaker
    exact .first new (first _ here) (ih others)

theorem forall_mem {holds : Slot → Prop} (each : SlotsOf related seen nodes slots)
    (every : ∀ node ∈ nodes, ∀ slot, related node slot → holds slot) :
    ∀ entry ∈ slots, holds entry.2 := by
  induction each with
  | nil => exact forall_mem_nil _
  | again known rest ih => exact ih (forall_mem_cons.mp every).2
  | first new here rest ih =>
    obtain ⟨first, others⟩ := forall_mem_cons.mp every
    exact forall_mem_cons.mpr ⟨first _ here, ih others⟩

end SlotsOf

theorem compileNodes_slotsOf (compiled : compileNodes src frame seen nodes = .ok slots) :
    SlotsOf (fun node slot => compileNode src frame node = .ok slot) seen nodes slots := by
  induction nodes generalizing seen slots with
  | nil =>
    cases compiled
    exact .nil seen
  | cons node nodes ih =>
    rw [compileNodes] at compiled
    split at compiled
    · rename_i known
      exact .again known (ih compiled)
    · rename_i new
      obtain ⟨slot, compiledNode, rest⟩ := bind_eq_ok.mp compiled
      obtain ⟨others, compiledRest, same⟩ := bind_eq_ok.mp rest
      cases same
      exact .first new compiledNode (ih compiledRest)

/-- What can be said of slots: a relation between nodes and slots in frames holds if it holds of
attributes, and of relations whose children have it in their own frames. -/
theorem compileNode_induct {motive : Frame → Tree.Node → Slot → Prop}
    (attributes : ∀ {parent? head frame field key slot}, frameOf src parent? head = .ok frame →
      compileNode src frame (.attribute field key) = .ok slot →
      motive frame (.attribute field key) slot)
    (rels : ∀ {parent? outer frame head children inner slots},
      frameOf src parent? outer = .ok frame →
      frameOf src (some frame.self) head = .ok inner →
      compileNodes src inner [] children = .ok slots →
      SlotsOf (motive inner) [] children slots →
      motive frame (.relation head children) (.computed (.subquery
        ((inner.compiled slots).query (inner.compiled slots).value none))))
    {parent? : Option TableRef} {head : Tree.Head} {frame : Frame}
    (made : frameOf src parent? head = .ok frame) (node : Tree.Node) {slot : Slot}
    (compiled : compileNode src frame node = .ok slot) : motive frame node slot := by
  match node with
  | .attribute _ key => exact attributes made compiled
  | .relation _ _ =>
    obtain ⟨_, built, same⟩ := bind_eq_ok.mp compiled
    obtain ⟨inner, slots, framed, nodes, rfl⟩ := compileRelation_eq_ok.mp built
    cases same
    refine rels made framed nodes ((compileNodes_slotsOf nodes).imp fun child mem slot => ?_)
    exact compileNode_induct attributes rels framed _
termination_by sizeOf node
decreasing_by
  have smaller := sizeOf_lt_of_mem mem
  simp only [Tree.Node.relation.sizeOf_spec]
  omega

end Compiling

/-! ## Reading columns back -/

variable {store : Store} {place : Place store}

def Slot.eval (store : Store) (place : Place store) : Slot → Except Failure Json
  | .text value => .ok (.text value)
  | .computed expr => do return (← expr.eval store place).toJson

def evalSlots (store : Store) (place : Place store) :
    List (String × Slot) → Except Failure (List (String × Json))
  | [] => .ok []
  | (key, slot) :: slots => do
      let value ← slot.eval store place
      let others ← evalSlots store place slots
      return (key, value) :: others

/-- The members slots give when the cells of their columns are known. -/
def assemble {domain : Domain} : List (String × Slot) → Result domain → List (String × Json)
  | [], _ => []
  | (key, .text value) :: slots, cells => (key, .text value) :: assemble slots cells
  | (key, .computed _) :: slots, (_, cell) :: cells => (key, cell.toJson) :: assemble slots cells
  | (_, .computed _) :: _, [] => []

/-- Evaluating slots is evaluating their columns and putting the cells together. -/
theorem evalSlots_eq (frame : Frame) (number : Nat) (slots : Slots) :
    evalSlots store place slots =
      (evalColumns store place (numbered frame number slots).columns).map (assemble slots) := by
  fun_induction numbered _ number slots with
  | case1 => rfl
  | case2 number _ _ slots _ ih =>
    rw [evalSlots, ih]
    cases evalColumns _ _ (numbered _ _ _).columns <;> rfl
  | case3 number _ expr slots ih =>
    rw [evalSlots, ih, RowParts.addColumn, evalColumns, Slot.eval]
    cases expr.eval _ _ with
    | error failure => rfl
    | ok cell => cases evalColumns _ _ (numbered _ _ _).columns <;> rfl

/-- Whether the cells of a result can be read from a source in scope. -/
def Reads {domain : Domain} (scope : Scope domain) (source : String) (cells : Result domain) :
    Prop :=
  ∀ name cell, (some name, cell) ∈ cells → scope.column ⟨source, name⟩ = .ok cell

/-- The members of a row, read from the columns that hold their values. -/
theorem evalMembers_numbered (frame : Frame) (number : Nat) (slots : Slots)
    {cells : Result store} {written : Place store}
    (evaluated : evalColumns store written (numbered frame number slots).columns = .ok cells)
    (reads : Reads place.scope frame.rows cells) :
    evalMembers store place (numbered frame number slots).members = .ok (assemble slots cells) := by
  fun_induction numbered _ number slots generalizing cells with
  | case1 => rfl
  | case2 =>
    rename_i ih
    rw [evalMembers, ih evaluated reads]
    rfl
  | case3 number _ _ _ ih =>
    rw [RowParts.addColumn] at evaluated ⊢
    obtain ⟨cell, _, rest⟩ := bind_eq_ok.mp evaluated
    obtain ⟨others, evaluatedOthers, same⟩ := bind_eq_ok.mp rest
    cases same
    have found : (frame.read _).eval _ _ = .ok cell :=
      reads _ _ mem_cons_self
    have readsOthers : Reads _ _ _ := fun name other mem =>
      reads name _ (mem_cons_of_mem _ mem)
    rw [evalMembers, found, ih evaluatedOthers readsOthers]
    rfl

/-! ## Names of columns -/

theorem columnName_injective : Function.Injective columnName := by
  intro m n same
  rw [columnName, columnName, String.append_right_inj] at same
  exact Nat.repr_injective same

theorem columnName_ne {name : String} (other : name.toList.head? ≠ some 'f') (number : Nat) :
    columnName number ≠ name := by
  rintro rfl
  exact other (by simp [columnName])

theorem numbered_names (frame : Frame) (number : Nat) (slots : Slots) :
    ∃ count, (numbered frame number slots).columns.map Prod.snd =
      (range' number count).map fun n => some (columnName n) := by
  fun_induction numbered _ number slots with
  | case1 => exact ⟨0, rfl⟩
  | case2 _ _ _ _ _ ih => exact ih
  | case3 _ _ _ _ ih =>
    obtain ⟨count, names⟩ := ih
    refine ⟨count + 1, ?_⟩
    rw [RowParts.addColumn, map_cons, names]
    rfl

namespace Frame

/-- The columns of a common table expression besides those of the members: what paging needs, or a
constant where there would be no column at all. -/
def extras (frame : Frame) (cols : List (Expr × Option String)) : List (Expr × Option String) :=
  if (cols ++ frame.pagingColumns).isEmpty then [(.one, none)] else frame.pagingColumns

theorem body_eq (frame : Frame) (cols : Columns) :
    frame.body cols = .select none (cols ++ frame.extras cols) frame.source
      (frame.predicates ++ frame.boundary?.toList)
      (if frame.head.target.isList then some (orderTerms frame.order frame.self.aliasName) else none)
      frame.limit? := by
  rw [body, extras]
  split
  · rename_i none
    rw [List.isEmpty_iff, List.append_eq_nil_iff] at none
    rw [none.1]
    rfl
  · rfl

/-- What paging needs: the cursor of a row, the number of rows that remain if the limit may cut some
off, and the place of a row in the order. -/
theorem mem_pagingColumns {frame : Frame} {col : Expr × Option String} :
    col ∈ frame.pagingColumns ↔ ∃ conn, frame.head.connection? = some conn ∧
      (conn.wantsCursor = true ∧
          col = (Keyset.cursorExpr frame.order frame.self.aliasName, some cursorColumn) ∨
        (conn.wantsHasNext = true ∧ frame.limit?.any (0 < ·) = true) ∧
          col = (.countWindow, some remainingColumn) ∨
        conn.wantsEndCursor = true ∧
          col = (.rowNumber (orderTerms frame.order frame.self.aliasName), some rowColumn)) := by
  rw [pagingColumns]
  cases frame.head.connection? with
  | none => simp
  | some conn => simp

theorem mem_extras {frame : Frame} {cols : Columns}
    {col : Expr × Option String} (mem : col ∈ frame.extras cols) :
    col = (.one, none) ∨ col ∈ frame.pagingColumns := by
  rw [extras] at mem
  split at mem
  · exact .inl (mem_singleton.mp mem)
  · exact .inr mem

theorem pagingColumns_subset_extras (frame : Frame) (cols : Columns) :
    frame.pagingColumns ⊆ frame.extras cols := by
  intro col mem
  rw [extras, if_neg]
  · exact mem
  · rw [List.isEmpty_iff]
    exact List.ne_nil_of_mem (List.mem_append_right _ mem)

theorem pagingColumns_names (frame : Frame) :
    (frame.pagingColumns.map Prod.snd).Sublist
      [some cursorColumn, some remainingColumn, some rowColumn] := by
  rw [pagingColumns]
  split
  · exact nil_sublist _
  · rw [map_append, map_append]
    refine .append (.append
      (?_ : List.Sublist _ [some _]) (?_ : List.Sublist _ [some _]))
      (?_ : List.Sublist _ [some _])
    all_goals split <;> simp

theorem extras_names (frame : Frame) (cols : Columns) :
    ((frame.extras cols).map Prod.snd).Sublist
      [none, some cursorColumn, some remainingColumn, some rowColumn] := by
  rw [extras]
  split
  · exact .cons_cons _ (nil_sublist _)
  · exact .cons _ frame.pagingColumns_names

end Frame

/-- No two columns of a common table expression have one name. -/
theorem names_nodup (frame : Frame) (slots : Slots) :
    (((numbered frame 0 slots).columns ++ frame.extras (numbered frame 0 slots).columns).map
      Prod.snd).Nodup := by
  obtain ⟨count, names⟩ := numbered_names _ 0 _
  have extra := frame.extras_names (numbered frame 0 slots).columns
  rw [map_append, names, nodup_append]
  refine ⟨?_, extra.nodup (by decide), ?_⟩
  · exact (nodup_range').map fun m n same => columnName_injective (Option.some.inj same)
  · rintro _ numberedName name extraName rfl
    obtain ⟨number, -, rfl⟩ := mem_map.mp numberedName
    have reserved := extra.subset extraName
    simp only [mem_cons, not_mem_nil, or_false, reduceCtorEq, Option.some.injEq,
      false_or] at reserved
    rcases reserved with same | same | same
    all_goals exact columnName_ne (by decide) _ same

end SelectGraph.Plan
