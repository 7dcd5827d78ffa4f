import SelectGraph.Proofs.Plan.Keys
import SelectGraph.Proofs.Plan.Renaming
import SelectGraph.Proofs.Plan.Simulation

/-!
# Aliases rename keys and nothing else

Two trees that differ in response names only are compiled side by side.  The induction over the trees
carries both facts about each pair of relations: their texts are equal up to the keys, and the values
correspond up to the keys.
-/

namespace SelectGraph.Plan

open List

open Sql (Corresponds Expr Parallel Piece Query Result Rewritten Store aliasPieces definitionPieces
  ok_bind onlyCell quoteIdentifier sqlText)
open SelectGraph.Tree (Head Node Root nodeChanges nodesRelations nodesRename)

/-! ## Results -/

namespace ResultsRenamed

variable {domain : Sql.Domain} {change : Change} {alias? otherAlias? : Option String}

/-- The value of a subquery corresponds, or there is none. -/
theorem onlyCell {results others : List (Result domain)}
    (renamed : ResultsRenamed change alias? otherAlias? results others) :
    Parallel (fun cell other => change.orNull.values cell.toJson other.toJson) (onlyCell results)
      (Sql.onlyCell others) := by
  rcases renamed with _ | ⟨⟨cell, otherCell, rfl, rfl, value⟩, _ | _⟩
  · exact .ok (.inr ⟨rfl, rfl⟩)
  · exact .ok (.inl value)
  · exact .error trivial

theorem answer {store : Store} {stmt otherStmt : Statement}
    (renamed : Parallel (ResultsRenamed change alias? otherAlias?) (stmt.query.eval store .empty)
      (otherStmt.query.eval store .empty)) :
    Parallel (Option.Rel change.values) (stmt.answer store) (otherStmt.answer store) := by
  refine renamed.bind fun results others each => ?_
  rcases each with _ | ⟨⟨cell, otherCell, rfl, rfl, value⟩, _ | _⟩
  · exact .ok .none
  · exact .ok (.some value)
  · exact .error trivial

end ResultsRenamed

/-! ## Relations -/

section Compiled

variable {inner : List MemberChange} {change : Change} {compiled other : Compiled}
  (renamed : CompiledRenamed inner change compiled other)

include renamed

/-- The queries of renamed relations are written with their keys before the name of the column, and
alike after it. -/
theorem CompiledRenamed.query_pieces {col otherCol : Expr}
    (cols : Rewritten change.keys col.pieces otherCol.pieces) :
    ∃ pieces otherPieces rest, Rewritten (change.after inner).keys pieces otherPieces ∧
      (∀ alias?, (compiled.query col alias?).pieces = pieces ++ aliasPieces alias? ++ rest) ∧
      ∀ alias?, (other.query otherCol alias?).pieces = otherPieces ++ aliasPieces alias? ++ rest := by
  have decls : Rewritten _ (definitionPieces (some (compiled.rows, compiled.body)))
      (definitionPieces (some (compiled.rows, other.body))) := .between [_, _, _] [_] renamed.body
  refine ⟨_, _, .code " FROM " :: (Sql.Source.rows compiled.rows).pieces,
    decls.append (cols.same (.code "SELECT ")), ?_, ?_⟩
  · intro alias?
    simp [Compiled.query, Sql.pieces_select, Sql.columnPieces_eq, Sql.separated, Sql.filterPieces,
      Sql.orderingPieces, Sql.limitPieces]
  · intro alias?
    simp [Compiled.query, Sql.pieces_select, Sql.columnPieces_eq, Sql.separated, Sql.filterPieces,
      Sql.orderingPieces, Sql.limitPieces, renamed.rows]

/-- A renamed relation below another one comes from a renamed slot. -/
theorem CompiledRenamed.slot : SlotRenamed (change.after inner).orNull
    (.computed (.subquery (compiled.query compiled.value none)))
    (.computed (.subquery (other.query other.value none))) := by
  obtain ⟨_, _, rest, rewritten, written, otherWritten⟩ := renamed.query_pieces renamed.value
  have pieces := (rewritten.followed (aliasPieces none)).followed rest
  rw [← written, ← otherWritten] at pieces
  refine .computed ⟨.between [_] [_] pieces, ?_⟩
  rintro store place _ rfl
  exact (renamed.results _ (.self _) (.self _) none none).bind fun _ _ => ResultsRenamed.onlyCell

end Compiled

/-! ## Trees -/

/-- Whether the response names in each of the given relations differ. -/
abbrev NamesDistinct (relations : List Root) : Prop :=
  ∀ rel ∈ relations, (rel.children.map Node.responseName).Nodup

section Trees

variable {src : Sources}

/-- Renamed relations are compiled side by side if their rows are. -/
theorem relation_renamed {head other : Head} {children otherChildren : List Node}
    (renames : head.Renames other) (distinct : (children.map Node.responseName).Nodup)
    (otherDistinct : (otherChildren.map Node.responseName).Nodup)
    (inner : ∀ frame, Parallel (SlotsRenamed (nodeChanges children otherChildren))
      (children.mapM (compileEntry src frame)) (otherChildren.mapM (compileEntry src frame)))
    (parent? : Option TableRef) :
    Parallel (CompiledRenamed (nodeChanges children otherChildren)
        (head.change other (nodeChanges children otherChildren)))
      (compileRelation src parent? head children)
      (compileRelation src parent? other otherChildren) := by
  rw [compileRelation, compileRelation, frameOf_renames renames]
  cases made : frameOf _ _ head with
  | error error => exact .error trivial
  | ok frame =>
    obtain ⟨crit, -, rfl, -⟩ := frameOf_realizes made
    have entries : compileEntry src (frame.renamed other) = compileEntry src frame :=
      funext fun node => by rw [compileEntry, compileEntry, compileNode_renamed renames]
    have rows := inner frame
    rw [← compileNodes_eq_mapM distinct, ← compileNodes_eq_mapM otherDistinct] at rows
    have same : compileNodes src (frame.renamed other) [] otherChildren =
        compileNodes src frame [] otherChildren := by
      rw [compileNodes_eq_mapM otherDistinct, entries, compileNodes_eq_mapM otherDistinct]
    simp only [Sql.map_ok, ok_bind, compileChildren_eq, same]
    rcases rows.outcomes with
      ⟨error, failed, otherFailed⟩ | ⟨slots, otherSlots, compiled, otherCompiled, renamed⟩
    · rw [failed, otherFailed]
      exact .error trivial
    · rw [compiled, otherCompiled]
      exact .ok (compiled_renamed renames (frameOf_local made) renamed
        (compileNodes_plain 0 compiled) (compileNodes_plain 0 otherCompiled))

theorem SlotRenamed.refl (slot : Slot) : SlotRenamed .none slot slot := by
  cases slot with
  | text value => exact .text _ rfl
  | computed value => exact .computed (.same fun same => by rw [same])

mutual

/-- Renamed nodes have renamed slots, or fail to compile in the same way. -/
theorem slot_renamed {node otherNode : Node} (renames : node.Renames otherNode)
    (distinct : NamesDistinct node.relations) (otherDistinct : NamesDistinct otherNode.relations)
    (frame : Frame) :
    Parallel (SlotRenamed (node.change otherNode)) (compileNode src frame node)
      (compileNode src frame otherNode) := by
  match node, otherNode with
  | .attribute field key, .attribute _ otherKey =>
    subst renames
    exact (Corresponds.refl _).imp fun slot _ same => same ▸ .refl slot
  | .relation head _, .relation _ _ =>
    rw [NamesDistinct, Node.relations, forall_mem_cons] at distinct otherDistinct
    refine (relation_renamed renames.1 distinct.1 otherDistinct.1 ?_ _).bind ?_
    · exact slots_renamed renames.2 distinct.2 otherDistinct.2
    · intro compiled otherCompiled renamed
      exact .ok renamed.slot
  | .attribute _ _, .relation _ _ => exact renames.elim
  | .relation _ _, .attribute _ _ => exact renames.elim

/-- Renamed lists of nodes have renamed slots, or fail to compile in the same way. -/
theorem slots_renamed {nodes otherNodes : List Node} (renames : nodesRename nodes otherNodes)
    (distinct : NamesDistinct (nodesRelations nodes))
    (otherDistinct : NamesDistinct (nodesRelations otherNodes)) (frame : Frame) :
    Parallel (SlotsRenamed (nodeChanges nodes otherNodes))
      (nodes.mapM (compileEntry src frame)) (otherNodes.mapM (compileEntry src frame)) := by
  match nodes, otherNodes with
  | [], [] => exact .ok .nil
  | node :: nodes, otherNode :: otherNodes =>
    rw [NamesDistinct, nodesRelations, forall_mem_append] at distinct otherDistinct
    rw [mapM_cons, mapM_cons]
    have first : Parallel (fun entry otherEntry : String × Slot =>
        entry.1 = node.responseName ∧ otherEntry.1 = otherNode.responseName ∧
          SlotRenamed (node.change otherNode) entry.2 otherEntry.2)
        (compileEntry src frame node) (compileEntry src frame otherNode) :=
      (slot_renamed renames.1 distinct.1 otherDistinct.1 frame).map fun _ _ renamed =>
        ⟨rfl, rfl, renamed⟩
    refine first.bind ?_
    rintro ⟨_, slot⟩ ⟨_, otherSlot⟩ ⟨rfl, rfl, renamed⟩
    refine (slots_renamed renames.2 distinct.2 otherDistinct.2 frame).bind ?_
    intro slots otherSlots renamedRest
    exact .ok (.cons renamed renamedRest)
  | [], _ :: _ => exact renames.elim
  | _ :: _, [] => exact renames.elim

end

end Trees

/-! ## Statements -/

/-- How the statement of a renamed tree differs from that of the tree.  Up to the name of the column
both are written with the same pieces, except for the keys of each tree, and after it they are equal.
In every database the values correspond up to their keys. -/
structure StatementRenamed (root other : Root) (stmt otherStmt : Statement) : Prop where
  arguments : otherStmt.rendered.arguments = stmt.rendered.arguments
  aliasName : otherStmt.aliasName = stmt.aliasName
  isSingle : otherStmt.isSingle = stmt.isSingle
  text : ∃ pieces otherPieces rest, Rewritten (root.change other).keys pieces otherPieces ∧
    stmt.rendered.sql = sqlText pieces ++ " AS " ++ quoteIdentifier root.head.responseName ++ rest ∧
    otherStmt.rendered.sql =
      sqlText otherPieces ++ " AS " ++ quoteIdentifier other.head.responseName ++ rest
  answer : ∀ store, Parallel (Option.Rel (root.change other).values) (stmt.answer store)
    (otherStmt.answer store)

theorem sqlText_named (pieces rest : List Piece) (name : String) :
    sqlText (pieces ++ aliasPieces (some name) ++ rest) =
      sqlText pieces ++ " AS " ++ quoteIdentifier name ++ sqlText rest := by
  simp [sqlText, aliasPieces, String.join_append, String.append_assoc, Piece.sql]

theorem arguments_named (pieces rest : List Piece) (name : String) :
    Sql.arguments (pieces ++ aliasPieces (some name) ++ rest) =
      Sql.arguments pieces ++ Sql.arguments rest := by
  rw [Sql.arguments, filterMap_append, filterMap_append]
  exact congrArg (· ++ _) (append_nil _)

/-- The statements of renamed trees are compiled side by side. -/
theorem statement_renamed {src : Sources} {root other : Root} (renames : root.Renames other)
    (distinct : NamesDistinct root.relations) (otherDistinct : NamesDistinct other.relations) :
    Parallel (StatementRenamed root other) (compile src root) (compile src other) := by
  obtain ⟨head, children⟩ := root
  obtain ⟨otherHead, otherChildren⟩ := other
  obtain ⟨heads, nodes⟩ := renames
  rw [NamesDistinct, Root.relations, forall_mem_cons] at distinct otherDistinct
  refine (relation_renamed heads distinct.1 otherDistinct.1
    (slots_renamed nodes distinct.2 otherDistinct.2) _).bind fun compiled otherCompiled renamed => ?_
  have grouped : Rewritten _ (Expr.grouped compiled.value).pieces
      (Expr.grouped otherCompiled.value).pieces := .between [_] [_] renamed.value
  obtain ⟨pieces, otherPieces, rest, rewritten, written, otherWritten⟩ :=
    renamed.query_pieces grouped
  obtain ⟨connections⟩ := heads
  refine .ok ⟨?_, rfl, rfl, ⟨pieces, otherPieces, sqlText rest, rewritten, ?_, ?_⟩, ?_⟩
  · simp only [Statement.rendered, Query.render, Sql.render, written, otherWritten, arguments_named,
      rewritten.arguments_eq]
  · simp only [Statement.rendered, Query.render, Sql.render, written, sqlText_named]
  · simp only [Statement.rendered, Query.render, Sql.render, otherWritten, sqlText_named]
  · intro store
    exact ResultsRenamed.answer (renamed.results .empty (.grouped _) (.grouped _) _ _)

/-- Trees that differ in response names only, and in which the names in each object differ, both
compile or fail with one error.  Their statements differ in the keys of objects and in the name of the
column, and the values they answer with in the names of keys. -/
theorem aliases_rename_keys {sources : Sources} {root other : Root} (renames : root.Renames other)
    (distinct : NamesDistinct root.relations) (otherDistinct : NamesDistinct other.relations) :
    (∀ error, compile sources root = .error error ↔ compile sources other = .error error) ∧
      ∀ statement, compile sources root = .ok statement →
        ∃ otherStatement, compile sources other = .ok otherStatement ∧
          StatementRenamed root other statement otherStatement := by
  have parallel : Parallel (StatementRenamed root other) (compile sources root)
      (compile sources other) := statement_renamed renames distinct otherDistinct
  exact ⟨parallel.error_iff, fun statement => parallel.of_ok⟩

def namedWriter (name : String → String) : Node :=
  .relation ⟨"writer", name "writer", "writer-3", ⟨"Author", false⟩, [], none⟩
    [.attribute "id" (name "id")]

def namedBook (name : String → String) : Head where
  field := "books"
  responseName := name "books"
  aliasName := "books-2"
  target := ⟨"Book", true⟩
  arguments := [("first", .int 1)]
  connection? := some {
    edges := name "edges", node := name "node", cursors := [name "cursor"], totals := [name "count"]
    pages := [⟨name "page", [name "more"], [name "last"], "PageInfo", [name "kind"]⟩]
    type := "BookConnection", typeNames := [name "kind"], edgeType := "BookEdge"
    edgeTypeNames := [] }

/-- Authors with their first books and the writers of these, under the given names. -/
def authorsWithBooks (name : String → String) : Root where
  head := ⟨"authors", name "authors", "authors-1", ⟨"Author", true⟩, [("first", .int 3)], none⟩
  children := [.attribute "id" (name "id"), .attribute "__typename" (name "kind"),
    .relation (namedBook name) [.attribute "year" (name "year"), namedWriter name]]

/-- Names in the places of their siblings, and a quote in a name. -/
def exchanged : String → String
  | "id" => "books"
  | "books" => "id"
  | "edges" => "page"
  | "page" => "edges"
  | "year" => "writer"
  | "writer" => "year"
  | "authors" => "it's"
  | name => name

theorem aliases_rename_keys_library :
    let root := authorsWithBooks id
    let other := authorsWithBooks exchanged
    (root.change other).keys.unzip = (["id", "edges", "node", "year", "writer", "cursor", "count",
        "page", "more", "last", "kind", "kind", "id", "kind", "books"],
      ["books", "page", "node", "writer", "year", "cursor", "count", "edges", "more", "last", "kind",
        "kind", "books", "kind", "id"]) ∧
      ∃ statement otherStatement, compile library root = .ok statement ∧
        compile library other = .ok otherStatement ∧
        StatementRenamed root other statement otherStatement := by
  intro root other
  have conn : Option.Rel Tree.Connection.Renames (namedBook id).connection?
      (namedBook exchanged).connection? :=
    .some ⟨rfl, rfl, .cons ⟨rfl, rfl, rfl, rfl⟩ .nil, rfl, rfl, rfl, rfl⟩
  have renames : root.Renames other :=
    ⟨⟨.none⟩, rfl, rfl, ⟨⟨conn⟩, rfl, ⟨⟨.none⟩, rfl, trivial⟩, trivial⟩, trivial⟩
  obtain ⟨statement, compiled⟩ := compile_of_isOk (by cbv : (compile library root).isOk = true)
  obtain ⟨otherStatement, otherCompiled, renamed⟩ :=
    (aliases_rename_keys renames (by decide) (by decide)).2 statement compiled
  exact ⟨by decide, statement, otherStatement, compiled, otherCompiled, renamed⟩

end SelectGraph.Plan
