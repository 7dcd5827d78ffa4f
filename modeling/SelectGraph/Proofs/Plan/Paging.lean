import SelectGraph.Json.Access
import SelectGraph.Proofs.Plan.Resume
import SelectGraph.Proofs.Plan.Simulation

/-!
# Paging through a connection

A client asks for the first page of a connection, and for the page after the last cursor as long as
there is one.  If the order tells rows apart, it ends up with every matching row once, in order;
otherwise it may miss rows that are level with the last one of a page.
-/

namespace SelectGraph.Plan

open List

open Keyset (Cursor directions rowKey)
open Sql (Failure Row Store bind_eq_ok compareKeys ok_bind)

variable {store : Store} {src : Sources} {root : Tree.Root} {table : Table}
  {after? : Option String} {cursor? : Option Cursor} {crit : Criteria} {frame : Frame}
  {conn : Tree.Connection}

/-! ## Requests -/

/-- The request for a page of a connection, from the start or after a cursor. -/
def pageRequest (root : Tree.Root) (size : Nat) (after? : Option String) : Tree.Root :=
  { root with head := { root.head with
      arguments := root.head.arguments ++
        ("first", .int size) :: after?.toList.map fun text => ("after", .text text) } }

theorem readArguments_page {args : Arguments} (size : Nat)
    (read : readArguments root.head table = .ok args) (start : args.after? = none)
    (decoded : after?.mapM Cursor.decode = .ok cursor?) :
    readArguments (pageRequest root size after?).head table =
      .ok { args with limit? := some size, after? := cursor? } := by
  have natural : ¬(size : Int) < 0 := by omega
  have limited : Arguments.add root.head.field table args ("first", .int size) =
      .ok { args with limit? := some size } := by
    simp [Arguments.add, readLimit, natural]
  rw [readArguments] at read ⊢
  rw [pageRequest, foldlM_append, read, ok_bind, foldlM_cons, limited]
  cases after? with
  | none =>
    cases decoded
    rw [← start]
    rfl
  | some text =>
    cases read : Cursor.decode text with
    | error error =>
      rw [Option.mapM_some, read] at decoded
      cases decoded
    | ok cursor =>
      rw [Option.mapM_some, read] at decoded
      cases decoded
      simp [Arguments.add, read]

section Requests

variable (size : Nat) (resolved : criteriaOf src none root.head = .ok crit)
  (start : crit.arguments.after? = none) (decoded : after?.mapM Cursor.decode = .ok cursor?)

include resolved start decoded

/-- What a request for a page refers to. -/
theorem criteriaOf_page :
    criteriaOf src none (pageRequest root size after?).head =
      .ok (crit.paged size cursor?) := by
  obtain ⟨found, read, related⟩ := criteriaOf_eq_ok.mp resolved
  exact criteriaOf_eq_ok.mpr ⟨found, readArguments_page size read start decoded, related⟩

/-! ## Requests that compile -/

omit resolved start decoded in
/-- Compiling children reads of a frame only its table, its name and its type. -/
theorem compileNodes_congr {other : Frame} (table : other.table = frame.table)
    (self : other.self = frame.self) (type : other.head.target.type = frame.head.target.type)
    (seen : List String) (nodes : List Tree.Node) :
    compileNodes src other seen nodes = compileNodes src frame seen nodes := by
  have same (node : Tree.Node) :
      compileNode src other node = compileNode src frame node := by
    rcases node with ⟨field, key⟩ | ⟨head, children⟩
    · rw [compileNode, compileNode, type, Frame.column, Frame.column, table, self]
    · rw [compileNode, compileNode, self]
  induction nodes generalizing seen with
  | nil => rfl
  | cons first rest ih => rw [compileNodes, compileNodes, same, ih, ih]

variable (ordered : crit.order ≠ []) (covers : ∀ cursor ∈ cursor?, cursor.Covers crit.order)

include ordered covers

/-- The frame of a request for a page differs from that of the connection in its arguments only. -/
theorem frameOf_page (made : frameOf src none root.head = .ok frame) :
    ∃ page, frameOf src none (pageRequest root size after?).head = .ok page ∧
      page.table = frame.table ∧ page.self = frame.self ∧
      page.head.target.type = frame.head.target.type := by
  obtain ⟨table, args, filters, join, _, found, read, filtered, joined, -, rfl⟩ :=
    frameOf_eq_ok.mp made
  obtain ⟨foundTable, readAgain, -⟩ := criteriaOf_eq_ok.mp resolved
  obtain rfl : table = crit.table :=
    Except.ok.inj ((tableOf_eq_ok.mp found).symm.trans foundTable)
  obtain rfl : args = crit.arguments := Except.ok.inj (read.symm.trans readAgain)
  -- Only the boundary is new, and it exists because the cursor holds exactly the order columns.
  have bounded : ∃ boundary?,
      boundaryOf (pageRequest root size after?).head crit.order cursor? = .ok boundary? := by
    cases cursor? with
    | none => exact ⟨none, rfl⟩
    | some cursor =>
      have distinct : Distinct _ :=
        effectiveOrder_distinct crit.table (readArguments_distinct read)
      obtain ⟨pred, bounded⟩ := boundaryOf_of_covers ordered distinct (covers _ rfl) _
      exact ⟨some _, bounded⟩
  obtain ⟨boundary?, bounded⟩ := bounded
  refine ⟨_, frameOf_eq_ok.mpr ⟨crit.table, _, filters, join, boundary?, ?_,
    readArguments_page size read start decoded, filtered, joined, bounded, rfl⟩, rfl, rfl, rfl⟩
  exact tableOf_eq_ok.mpr foundTable

/-- If a connection compiles, so do the requests for its pages. -/
theorem pageRequest_compile {stmt : Statement} (made : compile src root = .ok stmt) :
    ∃ stmt, compile src (pageRequest root size after?) = .ok stmt := by
  obtain ⟨frame, slots, framed, nodes, -⟩ := compile_eq_ok made
  obtain ⟨page, framedPage, table, self, type⟩ :=
    frameOf_page size resolved start decoded ordered covers framed
  rw [← compileNodes_congr table self type] at nodes
  exact compile_of_slots framedPage nodes

end Requests

/-! ## Reading pages -/

structure Page where
  edges : List Json
  hasNext : Bool
  endCursor? : Option String

/-- A selection of page information by which a client can page: it shows whether more rows follow
and where the page ends, and no key of the answer stands for two values. -/
structure Pager (conn : Tree.Connection) where
  info : Tree.PageInfo
  hasNext : String
  endCursor : String
  selected : info ∈ conn.pages
  showsHasNext : hasNext ∈ info.hasNext
  showsEndCursor : endCursor ∈ info.endCursor
  keys : (conn.edges :: conn.totals ++
    conn.pages.map Tree.PageInfo.responseName ++ conn.typeNames).Nodup
  pageKeys : (info.hasNext ++ info.endCursor ++ info.typeNames).Nodup

def Pager.read {conn : Tree.Connection} (pager : Pager conn) (answer : Json) :
    Page where
  edges := answer.itemsAt conn.edges
  hasNext := (answer.objectAt pager.info.responseName).boolAt pager.hasNext
  endCursor? := (answer.objectAt pager.info.responseName).textAt? pager.endCursor

theorem member?_of_mem {members : List (String × Json)} {key : String} {value : Json}
    (distinct : (members.map Prod.fst).Nodup) (mem : (key, value) ∈ members) :
    (Json.object members).member? key = some value := by
  have found : (members.reverse.find? fun entry => entry.1 == key).isSome :=
    find?_isSome.mpr ⟨_, mem_reverse.mpr mem, beq_self_eq_true key⟩
  obtain ⟨entry, found⟩ := Option.isSome_iff_exists.mp found
  have sameKey : entry.1 = key := by simpa using find?_some found
  have same : entry = (key, value) :=
    inj_on_of_nodup_map distinct (mem_reverse.mp (mem_of_find?_eq_some found)) mem
      sameKey
  rw [Json.member?, found, same]
  rfl

theorem named_keys (names : List String) (value : Json) :
    (named names value).map Prod.fst = names := by
  simp [named, Function.comp_def]

theorem Pager.read_pageJson (pager : Pager conn) (overview : Overview) :
    (overview.pageJson pager.info).boolAt pager.hasNext = overview.hasNext ∧
      (overview.pageJson pager.info).textAt? pager.endCursor = overview.cursors.getLast? := by
  have distinct : ((named pager.info.hasNext (.bool overview.hasNext) ++
      named pager.info.endCursor (overview.cursors.getLast?.elim .null .text) ++
        named pager.info.typeNames (.text pager.info.type)).map Prod.fst).Nodup := by
    rw [map_append, map_append, named_keys, named_keys, named_keys]
    exact pager.pageKeys
  have hasNext := member?_of_mem distinct (mem_append_left _ (mem_append_left _
    (mem_map.mpr ⟨_, pager.showsHasNext, rfl⟩)))
  have endCursor := member?_of_mem distinct (mem_append_left _ (mem_append_right _
    (mem_map.mpr ⟨_, pager.showsEndCursor, rfl⟩)))
  constructor
  · rw [Overview.pageJson, Json.boolAt, Json.boolAt?, Json.at?, hasNext]
    rfl
  · rw [Overview.pageJson, Json.textAt?, Json.at?, endCursor]
    cases overview.cursors.getLast? <;> rfl

/-- A client reads the edges, whether more rows follow and the end cursor. -/
theorem Pager.read_connectionJson (pager : Pager conn) (overview : Overview)
    (cursor? : Option String) (nodes : List Json) :
    pager.read (overview.connectionJsonEnding cursor? conn nodes) =
      ⟨zipWith (edgeJson conn) overview.cursors nodes, overview.hasNext, cursor?⟩ := by
  let ending : Overview := { overview with cursors := cursor?.toList }
  have distinct : (((conn.edges,
        .list (.zipWith (edgeJson conn) overview.cursors nodes)) ::
      named conn.totals (.ofNat overview.total) ++
        conn.pages.map (fun page => (page.responseName, ending.pageJson page)) ++
        named conn.typeNames (.text conn.type)).map Prod.fst).Nodup := by
    rw [map_append, map_append, map_cons, named_keys, named_keys, map_map]
    exact pager.keys
  have edges := member?_of_mem distinct (mem_append_left _ (mem_append_left _
    mem_cons_self))
  have info := member?_of_mem distinct (mem_append_left _ (mem_append_right _
    (mem_map.mpr ⟨pager.info, pager.selected, rfl⟩)))
  obtain ⟨hasNext, endCursor⟩ := pager.read_pageJson ending
  have last : ending.cursors.getLast? = cursor? := by cases cursor? <;> rfl
  replace endCursor := endCursor.trans last
  rw [Overview.pageJson] at info hasNext endCursor
  rw [Pager.read, Overview.connectionJsonEnding, Json.itemsAt, Json.objectAt, Json.at?, Json.at?,
    edges, info]
  simp only [Option.getD_some, hasNext, endCursor]
  rfl

/-! ## Fetching pages -/

inductive FetchFailure where
  | plan (error : PlanError)
  | store (failure : Failure)
  | noAnswer

def fetchPage (store : Store) (src : Sources) (root : Tree.Root) {conn : Tree.Connection}
    (pager : Pager conn) (size : Nat) (after? : Option String) :
    Except FetchFailure Page := do
  let stmt ← (compile src (pageRequest root size after?)).mapError .plan
  match ← (stmt.answer store).mapError .store with
  | some answer => return pager.read answer
  | none => throw .noAnswer

/-- A run of a client: it fetches a page, and the page after the last cursor as long as more rows
follow.  The run ends with a page that no rows follow, or with a failure. -/
inductive Visits (fetch : Option String → Except FetchFailure Page) :
    Option String → Except FetchFailure (List Page) → Prop
  | failed {after? : Option String} {failure : FetchFailure}
      (fetched : fetch after? = .error failure) : Visits fetch after? (.error failure)
  | last {after? : Option String} {page : Page} (fetched : fetch after? = .ok page)
      (done : page.hasNext = false) : Visits fetch after? (.ok [page])
  | next {after? : Option String} {page : Page} {pages : Except FetchFailure (List Page)}
      (fetched : fetch after? = .ok page) (more : page.hasNext = true)
      (rest : Visits fetch page.endCursor? pages) : Visits fetch after? (pages.map (page :: ·))

/-! ## A step of a run -/

/-- A connection at the top of a request through which a client can page: a request that compiles,
without a cursor of its own, for a list of rows of a table with a primary key. -/
structure Pageable (store : Store) (src : Sources) (root : Tree.Root)
    (conn : Tree.Connection) (crit : Criteria) : Prop where
  compiles : ∃ stmt, compile src root = .ok stmt
  resolved : criteriaOf src none root.head = .ok crit
  start : crit.arguments.after? = none
  found : root.head.connection? = some conn
  isList : root.head.target.isList = true
  fits : nodesEvery (RelationFits store src) root.head.aliasName root.children
  key : KeyHolds store crit.table
  /-- The database writes cursors that read back to the values of their rows, in any sequence. -/
  readsBack : ∀ row ∈ store.rows crit.table.name, ∃ cursor,
    Cursor.decode (cursorText crit.order row) = .ok cursor ∧ StandsFor cursor crit.order row

/-- A connection at the top of a request through which a client can page, whether or not its order
tells all rows apart. -/
structure Browsable (store : Store) (src : Sources) (root : Tree.Root)
    (conn : Tree.Connection) (crit : Criteria) : Prop where
  compiles : ∃ stmt, compile src root = .ok stmt
  resolved : criteriaOf src none root.head = .ok crit
  start : crit.arguments.after? = none
  found : root.head.connection? = some conn
  isList : root.head.target.isList = true
  fits : nodesEvery (RelationFits store src) root.head.aliasName root.children
  ordered : crit.order ≠ []
  /-- The database writes cursors that read back to the values of their rows, in any sequence. -/
  readsBack : ∀ row ∈ store.rows crit.table.name, ∃ cursor,
    Cursor.decode (cursorText crit.order row) = .ok cursor ∧ StandsFor cursor crit.order row

theorem Pageable.browsable (pageable : Pageable store src root conn crit) :
    Browsable store src root conn crit := by
  obtain ⟨compiles, resolved, start, found, isList, fits, key, readsBack⟩ := pageable
  refine ⟨compiles, resolved, start, found, isList, fits, ?_, readsBack⟩
  obtain ⟨col, mem⟩ := exists_mem_of_ne_nil _ key.declared
  have named := effectiveOrder_key crit.arguments.order mem
  intro none
  rw [Criteria.order] at none
  rw [none] at named
  cases named

theorem Pageable.apart (pageable : Pageable store src root conn crit) :
    crit.TellsApart store none :=
  (pageable.key.apart _).sublist filter_sublist

def rowEdge (store : Store) (src : Sources) (root : Tree.Root) (conn : Tree.Connection)
    (crit : Criteria) (row : Row store) : Except Failure Json := do
  let node ← objectJson store src root.head.target.type crit.table root.children row
  return edgeJson conn (cursorText crit.order row) node

theorem mapM_rowEdge (conn : Tree.Connection) (crit : Criteria)
    (rows : List (Row store)) :
    rows.mapM (rowEdge store src root conn crit) = (do
      let nodes ← rows.mapM
        (objectJson store src root.head.target.type crit.table root.children)
      return zipWith (edgeJson conn) (rows.map (cursorText crit.order)) nodes) := by
  induction rows with
  | nil => rfl
  | cons row rows ih =>
    rw [mapM_cons, mapM_cons, ih, rowEdge]
    cases objectJson _ _ _ _ _ row with
    | error failure => rfl
    | ok node =>
      cases rows.mapM
        (objectJson _ _ _ _ _) <;> rfl

/-- Where a run stands: it has not begun and all rows are ahead, or it goes on after the cursor of a
row and the rows after that are ahead. -/
inductive Ahead (store : Store) (crit : Criteria) :
    Option String → List (Row store) → Prop
  | start : Ahead store crit none (crit.matching store none)
  | after {row : Row store} (mem : row ∈ crit.matching store none) :
      Ahead store crit (some (cursorText crit.order row))
        (crit.after row (crit.matching store none))

section Step

variable {rest : List (Row store)}

/-- The rows ahead are those that remain for the request for the next page. -/
theorem Ahead.remaining (browsable : Browsable store src root conn crit) (size : Nat)
    (ahead : Ahead store crit after? rest) :
    ∃ cursor?, after?.mapM Cursor.decode = .ok cursor? ∧
      (∀ cursor ∈ cursor?, cursor.Covers crit.order) ∧
      (crit.paged size cursor?).remaining store none = rest := by
  cases ahead with
  | start => exact ⟨none, rfl, by simp, filter_eq_self.mpr fun _ _ => rfl⟩
  | @after row mem =>
    obtain ⟨cursor, decoded, stands⟩ := browsable.readsBack row (mem_of_mem_filter mem)
    refine ⟨some _, ?_, ?_, Criteria.remaining_after size stands⟩
    · rw [Option.mapM_some, decoded]
      rfl
    · rintro _ ⟨⟩
      exact stands.covers

/-- A step of a run: it fetches the edges of the first of the rows ahead, and the cursor of a row level
with the last of them. -/
theorem fetchPage_eq (browsable : Browsable store src root conn crit)
    (pager : Pager conn) {size : Nat} (positive : 0 < size)
    (ahead : Ahead store crit after? rest) :
    ∃ cursor?, (∀ last ∈ ((crit.inOrder store rest).take size).getLast?, ∃ row ∈ rest,
        crit.compare row last = .eq ∧ cursor? = some (cursorText crit.order row)) ∧
      fetchPage store src root pager size after? = (do
        let edges ← (((crit.inOrder store rest).take size).mapM
          (rowEdge store src root conn crit)).mapError .store
        return ⟨edges, decide (size < rest.length), cursor?⟩) := by
  obtain ⟨given?, decoded, covers, remaining⟩ := ahead.remaining browsable size
  obtain ⟨_, made⟩ := browsable.compiles
  obtain ⟨stmt, madePage⟩ := pageRequest_compile size browsable.resolved browsable.start
    decoded browsable.ordered covers made
  obtain ⟨cursor?, ends, answered⟩ := connection_answer madePage
    (criteriaOf_page size browsable.resolved browsable.start decoded) browsable.found
    browsable.isList browsable.fits
  have page : (crit.paged size given?).page _ none true =
      (crit.inOrder _ rest).take size := by
    rw [Criteria.page, Criteria.arranged, remaining]
    rfl
  have hasNext : (crit.paged size given?).hasNext store none = decide (size < rest.length) := by
    rw [Criteria.hasNext, remaining]
    cases size with
    | zero => cases positive
    | succ size => rfl
  rw [Criteria.EndsAt, page] at ends
  rw [Criteria.overview, hasNext, page] at answered
  have object : objectJson _ _ (pageRequest root size after?).head.target.type
      (crit.paged size given?).table (pageRequest root size after?).children =
    objectJson store src root.head.target.type crit.table root.children := rfl
  rw [object] at answered
  refine ⟨cursor?, ?_, ?_⟩
  · intro last lastOf
    obtain ⟨none, -⟩ | ⟨other, row, otherLast, mem, level, shown⟩ := ends
    · rw [none] at lastOf
      cases lastOf
    · cases otherLast.symm.trans lastOf
      have listed := (store.ordering.sort_perm _ _ _).mem_iff.mp (mem_of_mem_take mem)
      exact ⟨row, listed, level, shown⟩
  · rw [fetchPage, madePage, mapM_rowEdge]
    simp only [Except.mapError, ok_bind, answered]
    cases ((crit.inOrder _ rest).take size).mapM
        (objectJson _ _ _ _ _) with
    | error failure => rfl
    | ok nodes => exact congrArg _ (pager.read_connectionJson _ _ _)

/-- Once a row ahead has been fetched, the rows after it are ahead. -/
theorem Ahead.advance {row : Row store} (ahead : Ahead store crit after? rest)
    (mem : row ∈ rest) :
    Ahead store crit (some (cursorText crit.order row)) (crit.after row rest) := by
  cases ahead with
  | start => exact .after mem
  | @after earlier _ =>
    obtain ⟨listed, later⟩ := Criteria.mem_after.mp mem
    rw [Criteria.after_after later]
    exact .after listed

end Step

/-! ## Whole runs -/

theorem Visits.unique {fetch : Option String → Except FetchFailure Page}
    {pages others : Except FetchFailure (List Page)} (visits : Visits fetch after? pages)
    (visitsOthers : Visits fetch after? others) : others = pages := by
  induction visits generalizing others with
  | failed fetched =>
    cases visitsOthers with
    | failed again => cases fetched.symm.trans again; rfl
    | last again => cases fetched.symm.trans again
    | next again => cases fetched.symm.trans again
  | last fetched done =>
    cases visitsOthers with
    | failed again => cases fetched.symm.trans again
    | last again => cases fetched.symm.trans again; rfl
    | next again more => cases fetched.symm.trans again; cases done.symm.trans more
  | next fetched more _ ih =>
    cases visitsOthers with
    | failed again => cases fetched.symm.trans again
    | last again done => cases fetched.symm.trans again; cases done.symm.trans more
    | next again _ rest => cases fetched.symm.trans again; rw [ih rest]

/-- What a client is shown that pages through rows: the pages of a size, and of the rows level with
the last row of a page, those that stand beyond the page and are left out. -/
inductive Turns (store : Store) (crit : Criteria) (size : Nat) : List (Row store) →
    List (List (Row store)) → List (Row store) → Prop
  | last {rest : List (Row store)} (few : rest.length ≤ size) :
      Turns store crit size rest [crit.inOrder store rest] []
  | next {rest skipped : List (Row store)} {shown : List (List (Row store))}
      {last : Row store} (more : size < rest.length)
      (ends : ((crit.inOrder store rest).take size).getLast? = some last)
      (turns : Turns store crit size (crit.after last rest) shown skipped) :
      Turns store crit size rest ((crit.inOrder store rest).take size :: shown)
        (((crit.inOrder store rest).drop size).filter (crit.compare last · == .eq) ++
          skipped)

section Turns

variable {size : Nat} {rest skipped : List (Row store)}
  {shown : List (List (Row store))} {last : Row store}

theorem Criteria.inOrder_perm (crit : Criteria) (rows : List (Row store)) :
    (crit.inOrder store rows).Perm rows :=
  store.ordering.sort_perm _ _ _

theorem Criteria.inOrder_pairwise (crit : Criteria) (rows : List (Row store)) :
    (crit.inOrder store rows).Pairwise fun a b => (crit.compare a b).isLE :=
  store.ordering.sort_pairwise _ _ _

section

variable (ends : ((crit.inOrder store rest).take size).getLast? = some last)

include ends

/-- The last row of a page stands between the page and the rows beyond it. -/
theorem Criteria.between :
    (∀ row ∈ (crit.inOrder store rest).take size, (crit.compare row last).isLE) ∧
      ∀ row ∈ (crit.inOrder store rest).drop size, (crit.compare last row).isLE := by
  obtain ⟨front, split⟩ := getLast?_eq_some_iff.mp ends
  have sorted := crit.inOrder_pairwise rest
  rw [← take_append_drop size (crit.inOrder _ rest), pairwise_append, split,
    pairwise_append] at sorted
  rw [split]
  constructor
  · intro row mem
    rcases mem_append.mp mem with earlier | single
    · exact sorted.1.2.2 row earlier last mem_cons_self
    · rw [mem_singleton.mp single, crit.compare_self]
      rfl
  · exact sorted.2.2 last (by simp)

/-- The rows after the last row of a page are the rows beyond the page that are not level with it. -/
theorem Criteria.after_perm :
    (((crit.inOrder store rest).drop size).filter fun row =>
      !(crit.compare last row == .eq)).Perm (crit.after last rest) := by
  obtain ⟨before, beyond⟩ := Criteria.between ends
  have perm := (crit.inOrder_perm rest).filter fun row => crit.compare last row == .lt
  rw [← take_append_drop size (crit.inOrder _ rest), filter_append] at perm
  have none : ((crit.inOrder _ rest).take size).filter
      (fun row => crit.compare last row == .lt) = [] := by
    refine filter_eq_nil_iff.mpr fun row mem later => ?_
    have reversed : crit.compare row last = .gt :=
      Std.OrientedCmp.gt_of_lt (beq_iff_eq.mp later)
    have earlier := before row mem
    rw [reversed] at earlier
    cases earlier
  have same : ((crit.inOrder _ rest).drop size).filter
      (fun row => crit.compare last row == .lt) =
        ((crit.inOrder _ rest).drop size).filter fun row =>
          !(crit.compare last row == .eq) := by
    refine filter_congr fun row mem => ?_
    have later := beyond row mem
    cases order : crit.compare last row with
    | lt => rfl
    | eq => rfl
    | gt =>
      rw [order] at later
      cases later
  rw [none, same] at perm
  exact perm

end

/-- Paging through rows comes to an end, since every page shows a row that is not ahead any more. -/
theorem turns_exist (crit : Criteria) (positive : 0 < size) (rest : List (Row store)) :
    ∃ shown skipped, Turns store crit size rest shown skipped := by
  induction count : rest.length using Nat.strongRecOn generalizing rest with
  | ind _ ih =>
    by_cases more : size < rest.length
    · obtain ⟨last, ends⟩ : ∃ last,
          ((crit.inOrder _ rest).take size).getLast? = some last := by
        refine Option.isSome_iff_exists.mp (getLast?_isSome.mpr ?_)
        have length := (crit.inOrder_perm rest).length_eq
        exact ne_nil_of_length_pos (by rw [length_take]; omega)
      have mem : last ∈ rest := (crit.inOrder_perm rest).mem_iff.mp
        (mem_of_mem_take (mem_of_getLast? ends))
      have fewer : (crit.after last rest).length < rest.length :=
        length_filter_lt_length_iff_exists.mpr
          ⟨last, mem, by rw [crit.compare_self]; decide⟩
      obtain ⟨shown, skipped, turns⟩ := ih _ (count ▸ fewer) _ rfl
      exact ⟨_, _, .next more ends turns⟩
    · exact ⟨_, _, .last (by omega)⟩

section

variable (turns : Turns store crit size rest shown skipped)

include turns

theorem Turns.length_le : ∀ page ∈ shown, page.length ≤ size := by
  induction turns with
  | last few =>
    exact forall_mem_singleton.mpr ((crit.inOrder_perm _).length_eq.trans_le few)
  | next _ _ _ ih => exact forall_mem_cons.mpr ⟨length_take_le _ _, ih⟩

/-- Every row is shown or left out, as often as it occurs. -/
theorem Turns.perm : (shown.flatten ++ skipped).Perm rest := by
  induction turns with
  | last few => simpa using crit.inOrder_perm _
  | @next rest skipped shown last more ends turns ih =>
    -- Beyond the page are the rows level with its last one and those that come after it.
    have parts := filter_append_perm (crit.compare last · == .eq)
      ((crit.inOrder _ rest).drop size)
    have later := (ih.trans (Criteria.after_perm ends).symm).append_left
      (((crit.inOrder _ rest).drop size).filter (crit.compare last · == .eq))
    have beyond := (perm_append_comm_assoc _ _ _).trans (later.trans parts)
    have whole := beyond.append_left ((crit.inOrder _ rest).take size)
    rw [take_append_drop] at whole
    rw [flatten_cons, append_assoc]
    exact whole.trans (crit.inOrder_perm rest)

omit turns in
/-- All that follows a page comes after its last row. -/
theorem Turns.later (turns : Turns store crit size (crit.after last rest) shown skipped)
    {row : Row store} (mem : row ∈ shown.flatten) : crit.compare last row = .lt :=
  (Criteria.mem_after.mp (turns.perm.mem_iff.mp (mem_append_left _ mem))).2

/-- The rows are shown in order. -/
theorem Turns.pairwise :
    shown.flatten.Pairwise fun a b => (crit.compare a b).isLE := by
  induction turns with
  | last few => simpa using crit.inOrder_pairwise _
  | @next rest skipped shown last more ends turns ih =>
    rw [flatten_cons, pairwise_append]
    refine ⟨(crit.inOrder_pairwise rest).sublist (take_sublist _ _), ih, ?_⟩
    intro a aMem b bMem
    have before : (crit.compare last b).isLE := by rw [turns.later bMem]; rfl
    exact Std.TransCmp.isLE_trans ((Criteria.between ends).1 a aMem) before

/-- What a page ends with is not shown again, nor is a row level with it. -/
theorem Turns.apart :
    shown.Pairwise fun page later =>
      ∀ last ∈ page.getLast?, ∀ row ∈ later, crit.compare last row = .lt := by
  induction turns with
  | last few => exact pairwise_singleton _ _
  | next more ends turns ih =>
    refine pairwise_cons.mpr ⟨fun later mem last lastOf row rowMem => ?_, ih⟩
    cases ends.symm.trans lastOf
    exact turns.later (mem_flatten.mpr ⟨later, mem, rowMem⟩)

/-- A row is left out only if it is level with the last row of a page. -/
theorem Turns.level :
    ∀ row ∈ skipped, ∃ page ∈ shown, ∃ last ∈ page.getLast?, crit.compare last row = .eq := by
  induction turns with
  | last few => simp
  | next more ends turns ih =>
    intro row mem
    rcases mem_append.mp mem with level | later
    · exact ⟨_, mem_cons_self, _, ends, beq_iff_eq.mp (mem_filter.mp level).2⟩
    · obtain ⟨page, pageMem, found⟩ := ih row later
      exact ⟨page, mem_cons_of_mem _ pageMem, found⟩

/-- Nothing is left out of rows that the order tells apart. -/
theorem Turns.skipped_eq_nil
    (apart : rest.Pairwise fun a b => crit.compare a b ≠ .eq) : skipped = [] := by
  refine eq_nil_iff_forall_not_mem.mpr fun row mem => ?_
  obtain ⟨page, pageMem, last, lastOf, level⟩ := turns.level row mem
  have symmetric {a b : Row store} (differ : crit.compare a b ≠ .eq) :
      crit.compare b a ≠ .eq := fun same => differ (Std.OrientedCmp.eq_symm same)
  have different := pairwise_append.mp (turns.perm.symm.pairwise apart symmetric)
  exact different.2.2 last (mem_flatten.mpr ⟨page, pageMem, mem_of_getLast? lastOf⟩) row
    mem level

end

end Turns

theorem map_edges_cons {ε : Type} (page : Page) (pages : Except ε (List Page)) :
    (pages.map (page :: ·)).map (map Page.edges) =
      (pages.map (map Page.edges)).map (page.edges :: ·) := by
  cases pages <;> rfl

/-- A run from some point on ends, and fetches the edges of the pages that are to be shown. -/
theorem Turns.visits {size : Nat} {rest skipped : List (Row store)}
    {shown : List (List (Row store))}
    (browsable : Browsable store src root conn crit) (pager : Pager conn)
    (positive : 0 < size) (turns : Turns store crit size rest shown skipped)
    (ahead : Ahead store crit after? rest) :
    ∃ pages, Visits (fetchPage store src root pager size) after? pages ∧
      pages.map (map Page.edges) = (shown.mapM
        (mapM (rowEdge store src root conn crit))).mapError .store := by
  induction turns generalizing after? with
  | @last rest few =>
    obtain ⟨cursor?, -, fetched⟩ := fetchPage_eq browsable _ positive ahead
    rw [take_of_length_le ((crit.inOrder_perm rest).length_eq.trans_le few)] at fetched
    cases edges : (crit.inOrder _ rest).mapM
        (rowEdge _ _ root _ _) with
    | error failure =>
      rw [edges] at fetched
      exact ⟨_, .failed fetched, by simp [edges, Except.mapError, Except.map]⟩
    | ok edges =>
      rw [edges] at fetched
      exact ⟨_, .last fetched (decide_eq_false (by omega)), by simp [edges]; rfl⟩
  | @next rest skipped shown last more ends turns ih =>
    obtain ⟨cursor?, ended, fetched⟩ := fetchPage_eq browsable _ positive ahead
    obtain ⟨row, mem, level, rfl⟩ := ended last ends
    -- The cursor may be that of another row, but the same rows follow it.
    have next := ahead.advance mem
    rw [Criteria.after_congr level] at next
    cases edges : ((crit.inOrder _ rest).take size).mapM
        (rowEdge _ _ root _ _) with
    | error failure =>
      rw [edges] at fetched
      exact ⟨_, .failed fetched, by rw [mapM_cons, edges]; rfl⟩
    | ok edges =>
      rw [edges] at fetched
      obtain ⟨pages, visits, later⟩ := ih next
      refine ⟨_, .next fetched (decide_eq_true more) visits, ?_⟩
      rw [map_edges_cons, later, mapM_cons, edges]
      cases shown.mapM (mapM (rowEdge _ _ root _ _)) <;> rfl

theorem mapM_flatten {α β ε : Type} (image : α → Except ε β) (lists : List (List α)) :
    lists.flatten.mapM image = (lists.mapM (mapM image)).map flatten := by
  induction lists with
  | nil => rfl
  | cons items lists ih =>
    rw [flatten_cons, mapM_append, mapM_cons, ih]
    cases items.mapM image with
    | error failure => rfl
    | ok images => cases lists.mapM (mapM image) <;> rfl

/-- The edge of a row of a connection that compiles fails only if a relation below it does. -/
theorem Browsable.rowEdge_onlySeveral
    (browsable : Browsable store src root conn crit) (row : Row store) :
    OnlySeveral (rowEdge store src root conn crit row) := by
  obtain ⟨_, made⟩ := browsable.compiles
  obtain ⟨frame, slots, framed, nodes, -⟩ := compile_eq_ok made
  obtain ⟨found, resolved, head, realizes⟩ := frameOf_realizes framed
  obtain rfl : found = crit := Except.ok.inj (resolved.symm.trans browsable.resolved)
  have members : OnlySeveral (memberJsons _ _ _ _ row []
      _) := memberJsons_onlySeveral framed nodes row
  rw [head, realizes.table] at members
  exact (members.bind fun _ => .ok _).bind fun _ => .ok _

/-- A run fails only as the edges that it fetches do. -/
theorem failure_eq {α β : Type} {edges : Except Failure α} {pages : Except FetchFailure β}
    {view : β → α} (several : OnlySeveral edges) (shown : pages.map view = edges.mapError .store) :
    ∀ failure, pages = .error failure → failure = .store .severalRows := by
  rintro failure rfl
  cases edges with
  | ok edges => cases shown
  | error cause =>
    cases shown
    rw [several _ rfl]

/-- A run through a connection whose order tells rows apart shows them all. -/
theorem Pageable.visits (pageable : Pageable store src root conn crit)
    (pager : Pager conn) {size : Nat} (positive : 0 < size) :
    ∃ pages, Visits (fetchPage store src root pager size) none pages ∧
      pages.map (·.flatMap Page.edges) = ((crit.sorted store none).mapM
        (rowEdge store src root conn crit)).mapError .store := by
  obtain ⟨shown, skipped, turns⟩ := turns_exist _ positive _
  obtain ⟨pages, visits, edges⟩ := turns.visits pageable.browsable _ positive .start
  have perm := turns.perm
  rw [turns.skipped_eq_nil pageable.apart, append_nil] at perm
  have whole : crit.sorted _ none = shown.flatten :=
    store.ordering.sort_eq_of_sorted _ _ perm pageable.apart turns.pairwise
  refine ⟨pages, visits, ?_⟩
  calc pages.map _
      = (pages.map (map Page.edges)).map _ := by cases pages <;> rfl
    _ = ((shown.mapM (mapM (rowEdge _ _ root _ _))).map
          _).mapError .store := by
        rw [edges]
        cases shown.mapM (mapM (rowEdge _ _ root _ _)) <;> rfl
    _ = _ := by rw [whole, mapM_flatten]

/-- A client that pages through a connection sees every matching row once, in order: the run ends,
and the edges of its pages are those of all matching rows in the order of the connection.  It
fails only if a relation to a single row has several. -/
theorem paging_visits_all {connection : Tree.Connection} {criteria : Criteria}
    (pageable : Pageable store sources root connection criteria) (pager : Pager connection)
    {size : Nat} (positive : 0 < size) :
    let rows := criteria.sorted store none
    rows.Perm (criteria.matching store none) ∧
    rows.Pairwise (fun a b => compareKeys (directions criteria.order)
      (rowKey criteria.order a) (rowKey criteria.order b) = .lt) ∧
    ∃ pages, Visits (fetchPage store sources root pager size) none pages ∧
      (∀ others, Visits (fetchPage store sources root pager size) none others → others = pages) ∧
      pages.map (·.flatMap Page.edges) =
        (rows.mapM (rowEdge store sources root connection criteria)).mapError .store ∧
      ∀ failure, pages = .error failure → failure = .store .severalRows := by
  obtain ⟨pages, visits, shown⟩ := pageable.visits pager positive
  refine ⟨store.ordering.sort_perm _ _ _, store.ordering.sort_strict _ _ pageable.apart, pages,
    visits, fun _ => visits.unique, shown, ?_⟩
  exact failure_eq (.mapM pageable.browsable.rowEdge_onlySeveral _) shown

def latestBooks : Tree.Connection where
  edges := "edges"
  node := "node"
  cursors := []
  totals := ["count"]
  pages := [⟨"page", ["more"], ["last"], "PageInfo", []⟩]
  type := "BookConnection"
  typeNames := []
  edgeType := "BookEdge"
  edgeTypeNames := []

def latestBooksRoot : Tree.Root where
  head := ⟨"books", "books", "books-1", ⟨"Book", true⟩,
    [("orderBy", .object [("year", .enum "DESC")])], some latestBooks⟩
  children := [.attribute "id" "id"]

def latestBooksPager : Pager latestBooks where
  info := ⟨"page", ["more"], ["last"], "PageInfo", []⟩
  hasNext := "more"
  endCursor := "last"
  selected := mem_cons_self
  showsHasNext := mem_cons_self
  showsEndCursor := mem_cons_self
  keys := by decide
  pageKeys := by decide

theorem libraryStore_keyHolds (name : table.name = "book")
    (primaryKey : table.primaryKey = ["id"]) :
    KeyHolds libraryStore table where
  declared := by simp [primaryKey]
  present := by
    rw [name, primaryKey]
    decide
  unique := by
    rw [name, primaryKey]
    decide

theorem latestBooks_pageable :
    ∃ crit, Pageable libraryStore library latestBooksRoot latestBooks crit := by
  refine ⟨_, ?_, rfl, rfl, rfl, rfl, ⟨trivial, trivial⟩, libraryStore_keyHolds rfl rfl, ?_⟩
  · exact compile_of_slots rfl rfl
  · refine forall_mem_cons.mpr
      ⟨?_, forall_mem_cons.mpr ⟨?_, forall_mem_singleton.mpr ?_⟩⟩
    · exact ⟨[("year", .int 1950), ("id", .int 10)], rfl, .refl _, by decide⟩
    · exact ⟨[("year", .null), ("id", .int 11)], rfl, .refl _, by decide⟩
    · exact ⟨[("year", .int 1950), ("id", .int 12)], rfl, .refl _, by decide⟩

/-- Two books at a time, among them one without a year. -/
theorem paging_visits_all_library :
    ∃ criteria, Pageable libraryStore library latestBooksRoot latestBooks criteria ∧ 0 < 2 ∧
      ∃ pages,
        Visits (fetchPage libraryStore library latestBooksRoot latestBooksPager 2) none pages ∧
        pages.map (·.flatMap Page.edges) = .ok [
          .object [("node", .object [("id", .ofInt 10)])],
          .object [("node", .object [("id", .ofInt 12)])],
          .object [("node", .object [("id", .ofInt 11)])]] := by
  obtain ⟨criteria, pageable⟩ := latestBooks_pageable
  obtain ⟨-, -, pages, visits, -, shown, -⟩ :=
    paging_visits_all pageable latestBooksPager (by decide : 0 < 2)
  cases pageable.resolved
  exact ⟨_, pageable, by decide, pages, visits, shown⟩

end SelectGraph.Plan
