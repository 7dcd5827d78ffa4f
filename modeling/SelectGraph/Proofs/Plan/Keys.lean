import SelectGraph.Proofs.Plan.Rows
import SelectGraph.Proofs.Tree.Keys

/-!
# Keys of the objects of statements

The JSON objects that the value of a connection is made of have the keys of the connection, of an
edge or of page information, so the keys of each differ in the trees of a request.  No two children
of a relation share a response name either, and all of them become members of its rows.
-/

namespace SelectGraph.Plan

open List

open Sql (Expr bind_eq_ok)
open SelectGraph.Tree (Connection Node PageInfo Root)
open SelectGraph.GraphQL (Selection)

variable {src : Sources} {frame : Frame} {nodes : List Node}

mutual

/-- The keys of each JSON object an expression is made of. -/
def objectKeys : Expr → List (List String)
  | .object members => members.map Prod.fst :: memberObjectKeys members
  | .arrayOf item => objectKeys item
  | .asText value => objectKeys value
  | .grouped value => objectKeys value
  | _ => []

/-- The keys of each JSON object that the values of members are made of. -/
def memberObjectKeys : List (String × Expr) → List (List String)
  | [] => []
  | (_, value) :: members => objectKeys value ++ memberObjectKeys members

end

theorem memberObjectKeys_append (first second : List (String × Expr)) :
    memberObjectKeys (first ++ second) = memberObjectKeys first ++ memberObjectKeys second := by
  induction first with
  | nil => rfl
  | cons member first ih => simp [memberObjectKeys, ih]

namespace Frame

theorem under_keys (names : List String) (value : Expr) :
    (under names value).map Prod.fst = names := by
  simp [under, Function.comp_def]

theorem under_objectKeys (names : List String) {value : Expr} (none : objectKeys value = []) :
    memberObjectKeys (under names value) = [] := by
  induction names with
  | nil => rfl
  | cons name names ih => exact append_eq_nil_iff.mpr ⟨none, ih⟩

theorem hasNext_objectKeys (frame : Frame) : objectKeys frame.hasNext = [] := by
  rw [hasNext]
  split
  · rfl
  · rfl
  · rfl

theorem pageValue_objectKeys (frame : Frame) (page : PageInfo) :
    objectKeys (frame.pageValue page) = [page.keys] := by
  simp only [pageValue, objectKeys, memberObjectKeys_append, map_append, under_keys,
    under_objectKeys _ frame.hasNext_objectKeys]
  rw [under_objectKeys _ rfl, under_objectKeys _ rfl]
  rfl

theorem pages_objectKeys (frame : Frame) (pages : List PageInfo) :
    memberObjectKeys (pages.map fun page => (page.responseName, frame.pageValue page)) =
      pages.map PageInfo.keys := by
  induction pages with
  | nil => rfl
  | cons page pages ih =>
    rw [map_cons, memberObjectKeys, pageValue_objectKeys, ih]
    rfl

/-- The objects of a connection are the connection itself, an edge with what its row is made of, and
the page information. -/
theorem connectionValue_objectKeys (frame : Frame) (conn : Connection) (row : Expr) :
    objectKeys (frame.connectionValue conn row) =
      conn.keys :: conn.edgeKeys :: objectKeys row ++
        conn.pages.map PageInfo.keys := by
  have none : ∀ names text, memberObjectKeys (under names (.text text)) = [] := by
    intro names text
    exact under_objectKeys _ rfl
  have total : memberObjectKeys (under conn.totals frame.total) = [] :=
    under_objectKeys _ rfl
  have cursors : memberObjectKeys (under conn.cursors (frame.read cursorColumn)) = [] :=
    under_objectKeys _ rfl
  have names : conn.pages.map (Prod.fst ∘ fun page =>
      (page.responseName, frame.pageValue page)) = conn.pages.map _ := rfl
  simp [connectionValue, objectKeys, memberObjectKeys, memberObjectKeys_append, under_keys, none, total,
    cursors, pages_objectKeys, Connection.keys, Connection.edgeKeys, Connection.otherKeys]

end Frame

/-! ## Members of rows -/

/-- The slot of a node under its response name. -/
def compileEntry (src : Sources) (frame : Frame) (node : Node) :
    Except PlanError (String × Slot) :=
  (compileNode src frame node).map fun slot => (node.responseName, slot)

section

variable (distinct : (nodes.map Node.responseName).Nodup)

include distinct

theorem compileNodes_eq_mapM_of_new {seen : List String}
    (new : ∀ node ∈ nodes, node.responseName ∉ seen) :
    compileNodes src frame seen nodes = nodes.mapM (compileEntry src frame) := by
  induction nodes generalizing seen with
  | nil => rfl
  | cons node nodes ih =>
    obtain ⟨first, rest⟩ := nodup_cons.mp distinct
    obtain ⟨newFirst, newRest⟩ := forall_mem_cons.mp new
    have apart : ∀ other ∈ nodes, other.responseName ∉ node.responseName :: seen := by
      intro other mem known
      rcases mem_cons.mp known with same | earlier
      · exact first (same ▸ mem_map_of_mem mem)
      · exact newRest _ mem earlier
    rw [compileNodes, if_neg newFirst, mapM_cons, ih rest apart, compileEntry]
    cases compileNode _ _ node <;> rfl

/-- Nodes with different response names all have slots, in their order. -/
theorem compileNodes_eq_mapM :
    compileNodes src frame [] nodes = nodes.mapM (compileEntry src frame) :=
  compileNodes_eq_mapM_of_new distinct fun _ _ => not_mem_nil

theorem compileNodes_keys {slots : Slots}
    (compiled : compileNodes src frame [] nodes = .ok slots) :
    slots.map Prod.fst = nodes.map Node.responseName := by
  rw [compileNodes_eq_mapM distinct] at compiled
  clear distinct
  induction nodes generalizing slots with
  | nil =>
    cases compiled
    rfl
  | cons node nodes ih =>
    rw [mapM_cons] at compiled
    obtain ⟨entry, compiledEntry, rest⟩ := bind_eq_ok.mp compiled
    obtain ⟨others, compiledOthers, same⟩ := bind_eq_ok.mp rest
    cases same
    rw [map_cons, ih compiledOthers]
    cases first : compileNode _ _ node with
    | error error =>
      rw [compileEntry, first] at compiledEntry
      cases compiledEntry
    | ok slot =>
      rw [compileEntry, first] at compiledEntry
      cases compiledEntry
      rfl

end

theorem numbered_keys (frame : Frame) (number : Nat) (slots : Slots) :
    (numbered frame number slots).members.map Prod.fst = slots.map Prod.fst := by
  fun_induction numbered _ number slots with
  | case1 => rfl
  | case2 _ _ _ _ _ ih | case3 _ _ _ _ ih => exact congrArg _ ih

/-- Children with different response names all become members, in their order. -/
theorem compileChildren_keys {number : Nat} {children : List Node}
    (distinct : (children.map Node.responseName).Nodup) {parts : RowParts}
    (compiled : compileChildren src frame [] number children = .ok parts) :
    parts.members.map Prod.fst = children.map Node.responseName := by
  rw [compileChildren_eq] at compiled
  cases nodes : compileNodes _ _ [] _ with
  | error error =>
    rw [nodes] at compiled
    cases compiled
  | ok slots =>
    rw [nodes] at compiled
    cases compiled
    rw [numbered_keys]
    exact compileNodes_keys distinct nodes

/-! ## All keys -/

/-- The response names of the trees of a request differ, and so do those of the children of every
relation, which all become members of its rows.  The keys differ in each object of a connection. -/
theorem response_keys_distinct {context : Tree.Context} {selections : List Selection}
    {roots : List Root} (built : Tree.build context selections = .ok roots) :
    (roots.map fun root => root.head.responseName).Nodup ∧
      ∀ root ∈ roots, ∀ relation ∈ root.relations,
        (relation.children.map Node.responseName).Nodup ∧
        (∀ connection, relation.head.connection? = some connection → ∀ frame row keys,
          keys ∈ objectKeys (Frame.connectionValue frame connection row) →
            keys ∈ objectKeys row ∨ keys.Nodup) ∧
        ∀ sources frame parts, compileChildren sources frame [] 0 relation.children = .ok parts →
          parts.members.map Prod.fst = relation.children.map Node.responseName := by
  obtain ⟨fields, collected, names, distinct⟩ := Tree.build_keys built
  constructor
  · rw [names]
    exact Tree.collect_responseNames_nodup collected
  · intro root mem relation inside
    have keys := distinct root mem relation inside
    refine ⟨keys.children, ?_, fun sources frame parts => compileChildren_keys keys.children⟩
    intro connection shown frame row found memKeys
    have differ := keys.connection connection shown
    rw [Frame.connectionValue_objectKeys] at memKeys
    simp only [List.cons_append, List.mem_cons, List.mem_append, List.mem_map] at memKeys
    rcases memKeys with rfl | rfl | inRow | ⟨page, memPage, rfl⟩
    · exact .inr differ.outer
    · exact .inr differ.edge
    · exact .inl inRow
    · exact .inr (differ.pages page memPage)

/-- A field under a response name, without arguments and directives. -/
def renamedField (responseName name : String) (sels : List Selection) : Selection :=
  .field (some ⟨responseName, 0⟩) ⟨name, 0⟩ [] [] sels 0 0

def filmSchema : Schema where
  queryType := "Query"
  types := [
    ⟨"Query", .object [⟨"films", [], .named "FilmConnection", none⟩]⟩,
    ⟨"FilmConnection", .object [⟨"edges", [], .list (.named "FilmEdge"), none⟩,
      ⟨"totalCount", [], .named "Int", none⟩, ⟨"pageInfo", [], .named "PageInfo", none⟩]⟩,
    ⟨"FilmEdge", .object [⟨"node", [], .named "Film", none⟩, ⟨"cursor", [], .named "String", none⟩]⟩,
    ⟨"Film", .object [⟨"id", [], .named "Int", none⟩, ⟨"title", [], .named "String", none⟩]⟩]
  defaults := []

/-- Films, with fields that are selected again under the same name and under others. -/
def filmSelections : List Selection :=
  [renamedField "films" "films" [
    renamedField "edges" "edges" [
      renamedField "node" "node" [renamedField "id" "id" [], renamedField "name" "title" []],
      renamedField "at" "cursor" [], renamedField "cursor" "cursor" []],
    renamedField "all" "totalCount" [],
    renamedField "page" "pageInfo" [renamedField "more" "hasNextPage" []],
    renamedField "edges" "edges" [
      renamedField "node" "node" [renamedField "id" "id" [], renamedField "label" "title" []],
      renamedField "at" "cursor" []],
    renamedField "page" "pageInfo" [renamedField "last" "endCursor" [],
      renamedField "more" "hasNextPage" []]]]

theorem response_keys_distinct_films :
    ∃ head children connection,
      Tree.build ⟨filmSchema, ⟨[]⟩, []⟩ filmSelections = .ok [⟨head, children⟩] ∧
      head.connection? = some connection ∧
      children.map Node.responseName = ["id", "name", "label"] ∧
      objectKeys (Frame.connectionValue default connection .one) =
        [["edges", "all", "page"], ["node", "at", "cursor"], ["more", "last"]] ∧
      (children.map Node.responseName).Nodup ∧
      ∀ keys ∈ objectKeys (Frame.connectionValue default connection .one), keys.Nodup := by
  obtain ⟨head, children, connection, built, shown, names, objects⟩ :
      ∃ head children connection,
        Tree.build ⟨filmSchema, ⟨[]⟩, []⟩ filmSelections = .ok [⟨head, children⟩] ∧
        head.connection? = some connection ∧
        children.map Node.responseName = ["id", "name", "label"] ∧
        objectKeys (Frame.connectionValue default connection .one) =
          [["edges", "all", "page"], ["node", "at", "cursor"], ["more", "last"]] :=
    ⟨_, _, _, rfl, rfl, rfl, rfl⟩
  obtain ⟨-, each⟩ := response_keys_distinct built
  obtain ⟨distinct, objectsDistinct, -⟩ :=
    each ⟨head, children⟩ List.mem_cons_self ⟨head, children⟩ List.mem_cons_self
  refine ⟨head, children, connection, built, shown, names, objects, distinct, ?_⟩
  intro keys mem
  rcases objectsDistinct connection shown default .one keys mem with inRow | differ
  · cases inRow
  · exact differ

end SelectGraph.Plan
