import SelectGraph.Proofs.Plan.Alike

/-!
# Values of clients stay out of the text

Two trees that differ only in scalars of filters and of cursors have statements with one text, and
the arguments of the statements differ only where those scalars are passed.  The proof follows the
compiler with a relation between its two runs.
-/

namespace SelectGraph.Plan

open List

open Keyset (Cursor OrderField)
open Sql (Columns ColumnsAlike Expr Follows MembersAlike PartsAlike PiecesAlike Predicate Query)
open SelectGraph.Tree (Head Node Root nodesHeads)

variable {replaced : Literal → Literal → Prop}

/-! ## Frames -/

/-- Frames that differ in arguments, and in conditions that are alike. -/
inductive FrameAlike (replaced : Literal → Literal → Prop) (frame : Frame) : Frame → Prop
  | intro {arguments : List (String × Literal)} {predicates : List Predicate}
      {boundary? : Option Predicate}
      (conditions : PartsAlike (Passed replaced) frame.predicates predicates)
      (boundaries : Option.Rel (Predicate.Alike (Passed replaced)) frame.boundary? boundary?) :
      FrameAlike replaced frame
        { frame with head := { frame.head with arguments }, predicates, boundary? }

variable {src : Sources} {parent? : Option TableRef} {head otherHead : Head}
  {frame other : Frame}

theorem boundaryOf_alike {cursor? other? : Option Cursor}
    (alike : Option.Rel (CursorAlike replaced) cursor? other?) (head : Head)
    (arguments : List (String × Literal)) (order : List OrderField) :
    Follows (Option.Rel (Predicate.Alike (Passed replaced))) (boundaryOf head order cursor?)
      (boundaryOf { head with arguments } order other?) := by
  cases alike with
  | none => exact .ok .none
  | some cursors =>
    intro boundary? built
    rw [boundaryOf] at built
    split at built
    · rename_i bounded
      cases built
      obtain ⟨otherPred, otherBounded, predicatesAlike⟩ := boundary_alike cursors _ _ _ bounded
      refine ⟨some otherPred, ?_, .some predicatesAlike⟩
      rw [boundaryOf, otherBounded]
    · cases built

theorem frameOf_alike (alike : HeadAlike replaced head otherHead)
    (made : frameOf sources parent? head = .ok frame) :
    ∃ other, frameOf sources parent? otherHead = .ok other ∧ FrameAlike replaced frame other := by
  obtain ⟨given⟩ := alike
  obtain ⟨table, arguments, filters, join, boundary?, found, read, filtered, joined, bounded,
    rfl⟩ := frameOf_eq_ok.mp made
  have start : ReadAlike replaced ⟨none, none, [], []⟩ ⟨none, none, [], []⟩ :=
    ⟨rfl, rfl, .none, .nil⟩
  obtain ⟨otherArguments, otherRead, readAlike⟩ := foldlM_add_alike given start _ _ _ read
  obtain ⟨otherFilters, otherFiltered, filtersAlike⟩ :=
    filterPredicates_alike readAlike.filters _ _ _ filtered
  obtain ⟨otherBoundary?, otherBounded, boundaries⟩ :=
    boundaryOf_alike readAlike.after _ _ _ _ bounded
  refine ⟨_, frameOf_eq_ok.mpr ⟨table, otherArguments, otherFilters, join, otherBoundary?, found,
    otherRead, otherFiltered, joined, readAlike.order ▸ otherBounded, rfl⟩, ?_⟩
  rw [readAlike.limit, readAlike.order]
  exact .intro (rel_append filtersAlike (PartsAlike.refl join)) boundaries

theorem toList_alike {part? otherPart? : Option Predicate}
    (alike : Option.Rel (Predicate.Alike replaced) part? otherPart?) :
    PartsAlike replaced part?.toList otherPart?.toList := by
  cases alike with
  | none => exact .nil
  | some part => exact .cons part .nil

theorem orOne_alike {cols others : Columns}
    (alike : ColumnsAlike replaced cols others) :
    ColumnsAlike replaced (if cols.isEmpty then [(.one, none)] else cols)
      (if others.isEmpty then [(.one, none)] else others) := by
  cases alike with
  | nil => exact .refl _
  | cons first rest => exact .cons first rest

namespace FrameAlike

theorem under {value otherValue : Expr} (alike : value.Alike replaced otherValue)
    (names : List String) :
    MembersAlike replaced (Frame.under names value) (Frame.under names otherValue) := by
  rw [MembersAlike, Frame.under, Frame.under, forall₂_map_left_iff, forall₂_map_right_iff]
  exact forall₂_same.mpr fun name _ => ⟨rfl, alike⟩

variable (alike : FrameAlike replaced frame other)

include alike

theorem conditions_all :
    PartsAlike (Passed replaced) (frame.predicates ++ frame.boundary?.toList)
      (other.predicates ++ other.boundary?.toList) := by
  obtain ⟨conditions, boundaries⟩ := alike
  exact rel_append conditions (toList_alike boundaries)

theorem total : frame.total.Alike (Passed replaced) other.total := by
  obtain ⟨conditions, -⟩ := alike
  exact (Query.Alike.plain (.refl _) conditions _ none none).subquery

theorem hasNext : frame.hasNext.Alike (Passed replaced) other.hasNext := by
  have probe := Query.Alike.plain (.refl [(.one, none)]) alike.conditions_all frame.source none none
  obtain ⟨-, -⟩ := alike
  rw [Frame.hasNext.eq_def, Frame.hasNext.eq_def]
  dsimp only
  split
  · exact .refl _
  · exact probe.anyRow
  · exact .refl _

theorem pageValue (page : Tree.PageInfo) :
    (frame.pageValue page).Alike (Passed replaced) (other.pageValue page) := by
  have follows := under alike.hasNext page.hasNext
  obtain ⟨-, -⟩ := alike
  exact .object (rel_append (rel_append follows (MembersAlike.refl _))
    (MembersAlike.refl _))

theorem connectionValue (conn : Tree.Connection) (row : Expr) :
    (frame.connectionValue conn row).Alike (Passed replaced)
      (other.connectionValue conn row) := by
  have totals := under alike.total conn.totals
  have pages : MembersAlike (Passed replaced)
      (conn.pages.map fun page => (page.responseName, frame.pageValue page))
      (conn.pages.map fun page => (page.responseName, other.pageValue page)) := by
    rw [MembersAlike, forall₂_map_left_iff, forall₂_map_right_iff]
    exact forall₂_same.mpr fun page _ => ⟨rfl, alike.pageValue page⟩
  obtain ⟨-, -⟩ := alike
  exact .object (rel_append (rel_append (.cons ⟨rfl, .refl _⟩ totals) pages)
    (MembersAlike.refl _))

theorem value (members : List (String × Expr)) :
    (frame.value members).Alike (Passed replaced) (other.value members) := by
  have connection_eq : other.head.connection? = frame.head.connection? := by cases alike; rfl
  have isList_eq : other.head.target.isList = frame.head.target.isList := by cases alike; rfl
  rw [Frame.value, Frame.value, connection_eq, isList_eq]
  split
  · exact alike.connectionValue _ _
  · exact .refl _

theorem body {cols otherCols : Columns}
    (columnsAlike : ColumnsAlike (Passed replaced) cols otherCols) :
    (frame.body cols).Alike (Passed replaced) (other.body otherCols) := by
  have conds := alike.conditions_all
  obtain ⟨-, -⟩ := alike
  have all : ColumnsAlike _ _
      (otherCols ++ frame.pagingColumns) := rel_append columnsAlike (ColumnsAlike.refl _)
  exact .plain (orOne_alike all) conds _ _ _

end FrameAlike

/-! ## Rows -/

/-- What members of rows come from: equal texts or alike values. -/
inductive SlotAlike (replaced : Literal → Literal → Prop) : Slot → Slot → Prop
  | text (value : String) : SlotAlike replaced (.text value) (.text value)
  | computed {value other : Expr} (alike : value.Alike replaced other) :
      SlotAlike replaced (.computed value) (.computed other)

/-- Members with equal names that come from alike slots. -/
def SlotsAlike (replaced : Literal → Literal → Prop) :
    List (String × Slot) → List (String × Slot) → Prop :=
  List.Forall₂ fun entry other => entry.1 = other.1 ∧ SlotAlike replaced entry.2 other.2

/-- Alike slots give equal members and alike columns. -/
theorem numbered_alike {slots others : Slots} (rows : other.rows = frame.rows)
    (alike : SlotsAlike replaced slots others) (number : Nat) :
    (numbered other number others).members = (numbered frame number slots).members ∧
      ColumnsAlike replaced (numbered frame number slots).columns
        (numbered other number others).columns := by
  induction alike generalizing number with
  | nil => exact ⟨rfl, .nil⟩
  | @cons entry otherEntry slots others first _ ih =>
    obtain ⟨key, slot⟩ := entry
    obtain ⟨otherKey, otherSlot⟩ := otherEntry
    obtain ⟨same, slotAlike⟩ := first
    subst same
    cases slotAlike with
    | text value =>
      obtain ⟨members, cols⟩ := ih _
      refine ⟨?_, cols⟩
      rw [numbered, numbered, members]
    | computed values =>
      obtain ⟨members, cols⟩ := ih _
      refine ⟨?_, .cons ⟨values, rfl⟩ cols⟩
      rw [numbered, numbered, RowParts.addColumn, RowParts.addColumn, members, Frame.read,
        Frame.read, rows]

theorem HeadAlike.responseName_eq (alike : HeadAlike replaced head otherHead) :
    otherHead.responseName = head.responseName := by
  cases alike
  rfl

theorem responseName_eq {node otherNode : Node}
    (alike : nodeAlike (HeadAlike replaced) node otherNode) :
    otherNode.responseName = node.responseName := by
  match node, otherNode with
  | .attribute _ _, _ =>
    cases alike
    rfl
  | .relation _ _, .relation _ _ => exact alike.1.responseName_eq
  | .relation _ _, .attribute _ _ => exact alike.elim

structure CompiledAlike (replaced : Literal → Literal → Prop) (compiled other : Compiled) :
    Prop where
  rows : other.rows = compiled.rows
  body : compiled.body.Alike replaced other.body
  value : compiled.value.Alike replaced other.value

theorem CompiledAlike.query {compiled other : Compiled}
    (alike : CompiledAlike replaced compiled other) {col otherCol : Expr}
    (shown : col.Alike replaced otherCol) (alias? : Option String) :
    (compiled.query col alias?).Alike replaced (other.query otherCol alias?) := by
  have cols : ColumnsAlike _ [(col, alias?)] [(otherCol, alias?)] :=
    .cons ⟨shown, rfl⟩ .nil
  have decls : Option.Rel
      (fun entry other : String × Query => entry.1 = other.1 ∧ entry.2.Alike _ other.2)
      (some (compiled.rows, compiled.body)) (some (compiled.rows, other.body)) :=
    .some ⟨rfl, alike.body⟩
  rw [Compiled.query, Compiled.query, alike.rows]
  exact .select cols .nil decls _ none none

theorem compiled_alike {slots others : Slots}
    (alike : FrameAlike replaced frame other)
    (slotsAlike : SlotsAlike (Passed replaced) slots others) :
    CompiledAlike (Passed replaced) (frame.compiled slots) (other.compiled others) := by
  have rows : other.rows = frame.rows := by cases alike; rfl
  obtain ⟨members, cols⟩ := numbered_alike rows slotsAlike 0
  refine ⟨rows, alike.body cols, ?_⟩
  change Expr.Alike _ _ (other.value _)
  rw [members]
  exact alike.value _

/-! ## Trees -/

/-- Alike relations are compiled alike if their rows are. -/
theorem relation_alike {children otherChildren : List Node} (heads : HeadAlike replaced head otherHead)
    (rows : ∀ {frame other}, FrameAlike replaced frame other →
      Follows (SlotsAlike (Passed replaced)) (compileNodes src frame [] children)
        (compileNodes src other [] otherChildren)) (parent? : Option TableRef) :
    Follows (CompiledAlike (Passed replaced)) (compileRelation src parent? head children)
      (compileRelation src parent? otherHead otherChildren) := by
  intro compiled built
  obtain ⟨frame, slots, made, nodes, rfl⟩ := compileRelation_eq_ok.mp built
  obtain ⟨other, otherMade, frames⟩ := frameOf_alike heads made
  obtain ⟨otherSlots, otherNodes, slotsAlike⟩ := rows frames _ nodes
  exact ⟨_, compileRelation_eq_ok.mpr ⟨other, otherSlots, otherMade, otherNodes, rfl⟩,
    compiled_alike frames slotsAlike⟩

mutual

theorem slot_alike {frame other : Frame} {node otherNode : Node}
    (frames : FrameAlike replaced frame other)
    (alike : nodeAlike (HeadAlike replaced) node otherNode) :
    Follows (SlotAlike (Passed replaced)) (compileNode src frame node)
      (compileNode src other otherNode) := by
  match node, otherNode with
  | .attribute _ _, otherNode =>
    subst alike
    obtain ⟨-, -⟩ := frames
    refine .refl (fun slot => ?_) _
    cases slot with
    | text value => exact .text _
    | computed value => exact .computed (.refl _)
  | .relation head _, .relation _ _ =>
    have self : other.self = frame.self := by cases frames; rfl
    rw [compileNode, compileNode, self]
    exact (relation_alike alike.1 (fun inner => slots_alike inner alike.2 []) _).bind
      fun _ _ parts => .ok (.computed (parts.query parts.value none).subquery)
  | .relation _ _, .attribute _ _ => exact alike.elim

/-- Alike lists of nodes in alike frames come from alike slots. -/
theorem slots_alike {frame other : Frame} {nodes otherNodes : List Node}
    (frames : FrameAlike replaced frame other)
    (alike : nodesAlike (HeadAlike replaced) nodes otherNodes) (seen : List String) :
    Follows (SlotsAlike (Passed replaced)) (compileNodes src frame seen nodes)
      (compileNodes src other seen otherNodes) := by
  match nodes, otherNodes with
  | [], [] => exact .ok .nil
  | node :: nodes, otherNode :: otherNodes =>
    rw [compileNodes, compileNodes, responseName_eq alike.1]
    split
    · exact slots_alike frames alike.2 _
    · exact (slot_alike frames alike.1).bind fun _ _ first =>
        (slots_alike frames alike.2 _).bind fun _ _ rest => .ok (.cons ⟨rfl, first⟩ rest)
  | [], _ :: _ => exact alike.elim
  | _ :: _, [] => exact alike.elim

end

theorem compile_alike {root other : Root} (alike : RootAlike replaced root other) :
    Follows (fun stmt otherStmt => stmt.query.Alike (Passed replaced) otherStmt.query)
      (compile src root) (compile src other) := by
  obtain ⟨heads, children⟩ := alike
  refine (relation_alike heads (fun frames => slots_alike frames children []) none).bind
    fun compiled otherCompiled parts => .ok ?_
  rw [heads.responseName_eq]
  refine parts.query ?_ _
  exact .between [_] [_] parts.value

/-! ## Places -/

/-- Values that stand at one place of two arguments: the arguments themselves, items in one position
of lists, or values of one column in cursors. -/
inductive Facing : Literal → Literal → Literal → Literal → Prop
  | whole (value other : Literal) : Facing value other value other
  | item {items others : List Literal} {value other : Literal}
      (mem : (value, other) ∈ items.zip others) : Facing (.list items) (.list others) value other
  | column {text otherText col : String} {cursor otherCursor : Cursor} {value other : Literal}
      (decoded : Cursor.decode text = .ok cursor)
      (otherDecoded : Cursor.decode otherText = .ok otherCursor)
      (found : cursor.reverse.lookup col = some value)
      (otherFound : otherCursor.reverse.lookup col = some other) :
      Facing (.text text) (.text otherText) value other

/-- Values that stand at one place of two trees. -/
def Opposite (root other : Root) (value otherValue : Literal) : Prop :=
  ∃ heads ∈ root.heads.zip other.heads,
    ∃ args ∈ heads.1.arguments.zip heads.2.arguments,
      Facing args.1.2 args.2.2 value otherValue

section Places

variable {stronger : Literal → Literal → Prop}

theorem ValueAlike.imp {value other : Literal} (alike : ValueAlike replaced value other)
    (implied : replaced value other → stronger value other) : ValueAlike stronger value other :=
  alike.imp_right fun scalars => ⟨scalars.1, scalars.2.1, implied scalars.2.2⟩

theorem ArgumentAlike.imp {arg other : String × Literal}
    (alike : ArgumentAlike replaced arg other)
    (implied : ∀ value otherValue, Facing arg.2 other.2 value otherValue →
      replaced value otherValue → stronger value otherValue) :
    ArgumentAlike stronger arg other := by
  cases alike with
  | same => exact .same _
  | filter free values =>
    refine .filter free ?_
    cases values with
    | value alike => exact .value (alike.imp (implied _ _ (.whole _ _)))
    | list items =>
      rw [forall₂_iff_zip] at items
      refine .list (forall₂_iff_zip.mpr ⟨items.1, fun mem => ?_⟩)
      exact (items.2 mem).imp (implied _ _ (.item mem))
  | @cursor text otherText cursor otherCursor decoded otherDecoded cursors =>
    refine .cursor decoded otherDecoded fun col => ?_
    have values := cursors col
    cases found : cursor.reverse.lookup _ <;>
      cases otherFound : otherCursor.reverse.lookup _ <;>
        rw [found, otherFound] at values <;> cases values
    · exact .none
    · rename_i alike
      exact .some (alike.imp (implied _ _ (.column decoded otherDecoded found otherFound)))

theorem HeadAlike.imp (alike : HeadAlike replaced head otherHead)
    (implied : ∀ args ∈ head.arguments.zip otherHead.arguments, ∀ value otherValue,
      Facing args.1.2 args.2.2 value otherValue →
        replaced value otherValue → stronger value otherValue) :
    HeadAlike stronger head otherHead := by
  obtain ⟨each⟩ := alike
  rw [forall₂_iff_zip] at each
  refine .intro (forall₂_iff_zip.mpr ⟨each.1, fun mem => ?_⟩)
  exact (each.2 mem).imp (implied _ mem)

variable {related closer : Head → Head → Prop}

mutual

theorem heads_length_eq {node other : Node} (alike : nodeAlike related node other) :
    node.heads.length = other.heads.length := by
  match node, other with
  | .attribute _ _, _ =>
    cases alike
    rfl
  | .relation _ _, .relation _ _ =>
    rw [Node.heads, Node.heads, length_cons, length_cons,
      nodesHeads_length_eq alike.2]
  | .relation _ _, .attribute _ _ => exact alike.elim

theorem nodesHeads_length_eq {nodes others : List Node} (alike : nodesAlike related nodes others) :
    (nodesHeads nodes).length = (nodesHeads others).length := by
  match nodes, others with
  | [], [] => rfl
  | node :: nodes, other :: others =>
    rw [nodesHeads, nodesHeads, length_append, length_append, heads_length_eq alike.1,
      nodesHeads_length_eq alike.2]
  | [], _ :: _ => exact alike.elim
  | _ :: _, [] => exact alike.elim

end

mutual

theorem nodeAlike_imp {node other : Node} (alike : nodeAlike related node other)
    (implied : ∀ heads ∈ node.heads.zip other.heads, related heads.1 heads.2 →
      closer heads.1 heads.2) : nodeAlike closer node other := by
  match node, other with
  | .attribute _ _, _ => exact alike
  | .relation head _, .relation _ _ =>
    rw [Node.heads, Node.heads, zip_cons_cons, forall_mem_cons] at implied
    exact ⟨implied.1 alike.1, nodesAlike_imp alike.2 implied.2⟩
  | .relation _ _, .attribute _ _ => exact alike.elim

/-- The relations of alike nodes stand at the same places. -/
theorem nodesAlike_imp {nodes others : List Node} (alike : nodesAlike related nodes others)
    (implied : ∀ heads ∈ (nodesHeads nodes).zip (nodesHeads others), related heads.1 heads.2 →
      closer heads.1 heads.2) : nodesAlike closer nodes others := by
  match nodes, others with
  | [], [] => trivial
  | node :: nodes, other :: others =>
    rw [nodesHeads, nodesHeads, zip_append (heads_length_eq alike.1),
      forall_mem_append] at implied
    exact ⟨nodeAlike_imp alike.1 implied.1, nodesAlike_imp alike.2 implied.2⟩
  | [], _ :: _ => exact alike.elim
  | _ :: _, [] => exact alike.elim

end

/-- What replaces a value in an alike tree stands at the same place. -/
theorem RootAlike.opposite {root other : Root} (alike : RootAlike replaced root other) :
    RootAlike (fun value otherValue => replaced value otherValue ∧
      Opposite root other value otherValue) root other := by
  obtain ⟨heads, children⟩ := alike
  have first : (root.head, other.head) ∈ root.heads.zip other.heads := mem_cons_self
  refine ⟨heads.imp fun args mem value otherValue facing related =>
    ⟨related, _, first, args, mem, facing⟩, nodesAlike_imp children ?_⟩
  intro pair below related
  refine related.imp fun args mem value otherValue facing scalars =>
    ⟨scalars, pair, mem_cons_of_mem _ below, args, mem, facing⟩

end Places

/-- Trees that are equal except for scalars in filters and cursors have statements with one text.
The arguments of the statements agree place by place, except where values that stand at one place
of the trees are passed. -/
theorem values_only_in_arguments {root other : Root} {statement : Statement}
    (alike : RootAlike replaced root other) (compiled : compile sources root = .ok statement) :
    ∃ otherStatement, compile sources other = .ok otherStatement ∧
      otherStatement.rendered.sql = statement.rendered.sql ∧
      List.Forall₂ (fun argument otherArgument => argument = otherArgument ∨
          ∃ value otherValue, replaced value otherValue ∧ Opposite root other value otherValue ∧
            argument = value.sqlValue ∧ otherArgument = otherValue.sqlValue)
        statement.rendered.arguments otherStatement.rendered.arguments := by
  obtain ⟨otherStatement, otherCompiled, queries⟩ := compile_alike alike.opposite _ compiled
  refine ⟨otherStatement, otherCompiled, (PiecesAlike.sqlText_eq queries).symm, ?_⟩
  refine (PiecesAlike.arguments queries).imp fun argument otherArgument => ?_
  rintro (same | ⟨value, otherValue, ⟨related, opposite⟩, passed, otherPassed⟩)
  · exact .inl same
  · exact .inr ⟨value, otherValue, related, opposite, passed, otherPassed⟩

/-- A page of books after a cursor, with filters of its own, whose conditions stand in the statement
three times. -/
def filteredBooks (year author : Literal) (cursor : String) : Root where
  head := {
    field := "books", responseName := "books", aliasName := "books-1", target := ⟨"Book", true⟩
    arguments := [("year", .list [year, .null]), ("author", author), ("after", .text cursor),
      ("first", .int 0)]
    connection? := some {
      edges := "edges", node := "node", cursors := [], totals := ["count"]
      pages := [⟨"page", ["more"], [], "", []⟩]
      type := "", typeNames := [], edgeType := "", edgeTypeNames := [] } }
  children := [.attribute "year" "year"]

theorem filteredBooks_compile : ∃ stmt, compile library
    (filteredBooks (.int 1950) (.enum "X") "\x7b\"id\":10\x7d") = .ok stmt := by
  let root := filteredBooks (.int 1950) (.enum "X") "\x7b\"id\":10\x7d"
  let cursor : Cursor := [("id", .int 10)]
  have covers : cursor.Covers [⟨"id", .ascending⟩] := .refl _
  obtain ⟨pred, bound⟩ := boundaryOf_of_covers (by decide) (by decide) covers _
  obtain ⟨frame, made, year⟩ : ∃ frame, frameOf library none root.head = .ok frame ∧
      frame.column "year" = .ok _ :=
    ⟨_, frameOf_eq_ok.mpr ⟨_, _, _, _, _, rfl, rfl, rfl, rfl, bound, rfl⟩, rfl⟩
  obtain ⟨slots, nodes⟩ : ∃ slots, compileNodes _ frame [] root.children = .ok slots := by
    simp [root, filteredBooks, compileNodes, compileNode, year, Except.map]
  exact compile_of_slots made nodes

theorem values_only_in_arguments_books :
    let replaced := fun value other => (value, other) ∈ [(.int 1950, .text "1951"),
      (.enum "X", .bool true), (.int 10, .text "' OR ?")]
    let root := filteredBooks (.int 1950) (.enum "X") "\x7b\"id\":10\x7d"
    let other := filteredBooks (.text "1951") (.bool true) "\x7b\"id\":\"' OR ?\"\x7d"
    RootAlike replaced root other ∧
      ∃ statement otherStatement, compile library root = .ok statement ∧
        compile library other = .ok otherStatement ∧
        otherStatement.rendered.sql = statement.rendered.sql ∧
        List.Forall₂ (fun argument otherArgument => argument = otherArgument ∨
            ∃ value otherValue, replaced value otherValue ∧ Opposite root other value otherValue ∧
              argument = value.sqlValue ∧ otherArgument = otherValue.sqlValue)
          statement.rendered.arguments otherStatement.rendered.arguments := by
  intro replaced root other
  have decoded : Cursor.decode "\x7b\"id\":10\x7d" = .ok [("id", .int 10)] := by rfl
  have otherDecoded : Cursor.decode "\x7b\"id\":\"' OR ?\"\x7d" = .ok [("id", .text "' OR ?")] := by
    rfl
  have cursors : CursorAlike replaced [("id", .int 10)] [("id", .text "' OR ?")] := by
    intro column
    by_cases named : column = "id"
    · subst named
      exact .some (.inr ⟨rfl, rfl, by simp [replaced]⟩)
    · simp only [List.reverse_singleton, List.lookup_cons, beq_eq_false_iff_ne.mpr named]
      exact .none
  have year : FilterAlike replaced (.list [.int 1950, .null]) (.list [.text "1951", .null]) :=
    .list (.cons (.inr ⟨rfl, rfl, by simp [replaced]⟩) (.cons (.inl rfl) .nil))
  have author : FilterAlike replaced (.enum "X") (.bool true) :=
    .value (.inr ⟨rfl, rfl, by simp [replaced]⟩)
  have alike : RootAlike replaced root other :=
    ⟨.intro (.cons (.filter (by decide) year) (.cons (.filter (by decide) author)
      (.cons (.cursor decoded otherDecoded cursors) (.cons (.same _) .nil)))), rfl, trivial⟩
  obtain ⟨statement, compiled⟩ := filteredBooks_compile
  obtain ⟨otherStatement, conclusion⟩ := values_only_in_arguments alike compiled
  exact ⟨alike, statement, otherStatement, compiled, conclusion⟩

end SelectGraph.Plan
