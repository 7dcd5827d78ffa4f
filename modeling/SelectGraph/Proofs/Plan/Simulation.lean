import SelectGraph.Proofs.Plan.Connection

/-!
# Statements mean what trees ask for

Evaluating the statement of a tree gives the value of the tree, or fails in the same way.  The
proof goes by induction on the tree: the query of a relation is evaluated in a scope where a row
stands around it, and the objects of its rows are those of its children.  For lists and single rows
this needs no condition on the rows; the parts of a connection agree where its order tells rows
apart.
-/

namespace SelectGraph.Plan

open Keyset (directions rowKey)
open Sql (Apart Domain Expr Failure FailsOnly Place Result Row Scope Store compareKeys cut onlyCell
  ok_bind)

variable {nodes : List Tree.Node} {crit : Criteria} {stmt : Statement} {store : Store}
  {src : Sources} {head : Tree.Head} {frame : Frame} {place : Place store}
  {row : Row store} {seen : List String} {slots : Slots}
  {parent? : Option TableRef} {row? : Option (Row store)} {children : List Tree.Node}
  {compiled : Compiled} {root : Tree.Root}

/-! ## Conditions on all relations of a tree -/

mutual

/-- Whether a condition holds of every relation of a node, given the name of the relation around. -/
def nodeEvery (holds : String → Tree.Head → Prop) (outer : String) : Tree.Node → Prop
  | .attribute _ _ => True
  | .relation head children => holds outer head ∧ nodesEvery holds head.aliasName children

/-- Whether a condition holds of every relation of nodes. -/
def nodesEvery (holds : String → Tree.Head → Prop) (outer : String) : List Tree.Node → Prop
  | [] => True
  | node :: nodes => nodeEvery holds outer node ∧ nodesEvery holds outer nodes

end

mutual

theorem nodeEvery_and {first second both : String → Tree.Head → Prop}
    (combine : ∀ outer head, first outer head → second outer head → both outer head)
    {outer : String} {node : Tree.Node} (holdsFirst : nodeEvery first outer node)
    (holdsSecond : nodeEvery second outer node) : nodeEvery both outer node := by
  match node with
  | .attribute _ _ => trivial
  | .relation head _ =>
    exact ⟨combine _ _ holdsFirst.1 holdsSecond.1,
      nodesEvery_and combine holdsFirst.2 holdsSecond.2⟩

theorem nodesEvery_and {first second both : String → Tree.Head → Prop}
    (combine : ∀ outer head, first outer head → second outer head → both outer head)
    {outer : String} {nodes : List Tree.Node} (holdsFirst : nodesEvery first outer nodes)
    (holdsSecond : nodesEvery second outer nodes) : nodesEvery both outer nodes := by
  match nodes with
  | [] => trivial
  | node :: nodes =>
    exact ⟨nodeEvery_and combine holdsFirst.1 holdsSecond.1,
      nodesEvery_and combine holdsFirst.2 holdsSecond.2⟩

end

theorem nodesEvery_of_mem {holds : String → Tree.Head → Prop} {outer : String} {node : Tree.Node}
    (every : nodesEvery holds outer nodes) (mem : node ∈ nodes) : nodeEvery holds outer node := by
  induction nodes with
  | nil => cases mem
  | cons first nodes ih =>
    rcases List.mem_cons.mp mem with rfl | later
    · exact every.1
    · exact ih every.2 later

/-- Whether the order of a relation tells the rows of its table apart. -/
def OrderTellsApart (store : Store) (src : Sources) (head : Tree.Head) : Prop :=
  ∀ table args, src.catalog.tableForType head.target.type = .ok table →
    readArguments head table = .ok args →
      Apart (directions (effectiveOrder table args.order))
        (rowKey (effectiveOrder table args.order)) (store.rows table.name)

/-- What connections need: they are lists, and their order tells rows apart. -/
def ConnectionFits (store : Store) (src : Sources) (head : Tree.Head) : Prop :=
  head.connection?.isSome = true →
    head.target.isList = true ∧ OrderTellsApart store src head

/-- What a relation below another one needs: it introduces no name that stands for the row around
it, and it fits if it is a connection. -/
def RelationFits (store : Store) (src : Sources) (outer : String) (head : Tree.Head) : Prop :=
  outer ∉ ownNames head.aliasName ∧ ConnectionFits store src head

theorem OrderTellsApart.matching (apart : OrderTellsApart store src head)
    {table? : Option String} (resolved : criteriaOf src table? head = .ok crit)
    (row? : Option (Row store)) : crit.TellsApart store row? := by
  obtain ⟨found, read, -⟩ := criteriaOf_eq_ok.mp resolved
  exact .sublist List.filter_sublist (apart _ _ found read)

/-! ## One relation -/

section Relation

variable {scope : Scope store}

/-- The cells of the rows of a page fail to compute exactly when the objects of the rows do, and they
are those of the objects if not. -/
theorem relation_entries (realizes : frame.Realizes parent? crit)
    (compiled : compileNodes src frame [] children = .ok slots)
    (around : Surrounded scope frame.head.aliasName parent? row?)
    (members : ∀ (place : Place store) (row : Row store),
      place.scope.Binds frame.head.aliasName row → evalSlots store place slots =
        memberJsons store src frame.head.target.type frame.table row [] children) :
    let body := (frame.body (numbered frame 0 slots).columns).eval store scope
    let objects := (crit.page store row? frame.head.target.isList).mapM
      (objectJson store src frame.head.target.type crit.table children)
    (∃ failure, body = .error failure ∧ objects = .error failure) ∨
      ∃ entries : List (Entry store), body = .ok (entries.map Entry.result) ∧
        objects = .ok (entries.map (Entry.object slots)) ∧
        entries.map Entry.item = crit.pageItems store row? frame.head.target.isList ∧
        ∀ entry ∈ entries, entry.Of frame slots
          (crit.place scope frame.head.aliasName row?) := by
  have objects : ∀ item, objectJson _ src frame.head.target.type crit.table children
      item.1 = (evalSlots _ (crit.place scope frame.head.aliasName row? item) slots).map
        .object := by
    intro item
    rw [members _ item.1 (Scope.binds_enter _ _ _), realizes.table]
    rfl
  have entries := mapM_entries frame objects (extras_eval realizes (numbered frame 0 slots).columns)
    (crit.pageItems _ row? frame.head.target.isList)
  rw [crit.pageItems_fst] at entries
  rw [body_eval realizes around (compileNodes_plain 0 compiled)]
  exact entries

/-- The query of a relation has its values, if the slots of a row have those of its children. -/
theorem relation_eval (made : frameOf src parent? head = .ok frame)
    (compiled : compileNodes src frame [] children = .ok slots)
    (around : Surrounded scope head.aliasName parent? row?)
    (fits : ConnectionFits store src head)
    (members : ∀ (place : Place store) (row : Row store),
      place.scope.Binds head.aliasName row → evalSlots store place slots =
        memberJsons store src head.target.type frame.table row [] children)
    {col : Expr} (alike : Shows store col (frame.compiled slots).value)
    (alias? : Option String) :
    ((frame.compiled slots).query col alias?).eval store scope =
      (relationJsons store src (parent?.map TableRef.table) row? head children).map
        (jsonResults alias?) := by
  obtain ⟨crit, resolved, rfl, realizes⟩ := frameOf_realizes made
  rw [relationJsons, resolved, ok_bind, Criteria.values]
  obtain ⟨failure, failed, failedObjects⟩ | ⟨entries, evaluated, values, items, entriesFit⟩ :=
    relation_entries realizes compiled around members
  · rw [failedObjects]
    exact Sql.eval_defined_error _ _ _ failed
  · rw [values]
    rw [Frame.compiled, Frame.value] at alike
    cases found : frame.head.connection? with
    | some conn =>
      rw [found] at alike
      obtain ⟨isList, apart⟩ := fits (by rw [found]; rfl)
      rw [isList] at items
      obtain ⟨cursor?, ends, ended⟩ := ending_exists realizes entriesFit found items
      have value := connection_eval realizes around entriesFit found items ended evaluated alike
        alias?
      rw [ends.eq_last (apart.matching resolved row?), Overview.connectionJsonEnding_last] at value
      exact value
    | none =>
      rw [found] at alike
      cases isList : frame.head.target.isList with
      | true =>
        rw [isList] at alike
        exact list_eval evaluated entriesFit alike _
      | false =>
        rw [isList] at alike
        exact single_eval evaluated entriesFit alike _

end Relation

/-! ## All relations -/

/-- The only cell of a query with JSON values is the only one of the values, or null. -/
theorem onlyCell_jsonResults {domain : Domain} (values : List Json) :
    (do return (← onlyCell (jsonResults none values : List (Result domain))).toJson) =
      (do return (← atMostOne values).getD .null : Except Failure Json) := by
  match values with
  | [] => rfl
  | [value] => rfl
  | _ :: _ :: _ => rfl

/-- The slot of an attribute has its value. -/
theorem attribute_eval {slot : Slot} {field key : String}
    (self : frame.self = ⟨frame.table.name, frame.head.aliasName⟩)
    (compiled : compileNode src frame (.attribute field key) = .ok slot)
    (binds : place.scope.Binds frame.head.aliasName row) :
    slot.eval store place =
      nodeJson store src frame.head.target.type frame.table row (.attribute field key) := by
  rw [compileNode] at compiled
  rw [nodeJson]
  by_cases typeName : field = "__typename"
  · rw [if_pos typeName] at compiled ⊢
    cases compiled
    rfl
  · rw [if_neg typeName, Frame.column, self] at compiled
    rw [if_neg typeName]
    cases known : frame.table.column? _ with
    | none =>
      rw [known] at compiled
      cases compiled
    | some col =>
      rw [known] at compiled
      cases compiled
      rw [Slot.eval, Expr.eval, binds.column]
      rfl

/-- Whether a slot has the value of its node wherever the row of its frame is in scope. -/
def Frame.Yields (store : Store) (src : Sources) (frame : Frame) (node : Tree.Node)
    (slot : Slot) : Prop :=
  nodeEvery (RelationFits store src) frame.head.aliasName node →
    ∀ (place : Place store) (row : Row store),
      place.scope.Binds frame.head.aliasName row → slot.eval store place =
        nodeJson store src frame.head.target.type frame.table row node

/-- Slots with the values of nodes have the members of the object of a row. -/
theorem SlotsOf.evalSlots_eq (each : SlotsOf (frame.Yields store src) seen nodes slots)
    (fits : nodesEvery (RelationFits store src) frame.head.aliasName nodes)
    (binds : place.scope.Binds frame.head.aliasName row) :
    evalSlots store place slots =
      memberJsons store src frame.head.target.type frame.table row seen nodes := by
  induction each with
  | nil =>
    rfl
  | again known rest ih => rw [memberJsons, if_pos known, ih fits.2]
  | first new here rest ih =>
    rw [memberJsons, if_neg new, evalSlots, here fits.1 _ row binds, ih fits.2]

/-- The slots of nodes have the members of the object of a row. -/
theorem slots_eval (made : frameOf src parent? head = .ok frame)
    (compiled : compileNodes src frame [] nodes = .ok slots) :
    SlotsOf (frame.Yields store src) [] nodes slots := by
  refine (compileNodes_slotsOf compiled).imp fun node _ _ => compileNode_induct ?_ ?_ made node
  · intro _ _ frame _ _ _ made compiled fits place row binds
    exact attribute_eval (frameOf_self made) compiled binds
  · intro _ _ frame head children inner slots made framed nodes below fits place row binds
    obtain ⟨crit, -, rfl, -⟩ := frameOf_realizes framed
    have self := frameOf_self made
    -- The outer name still stands for the row there, since the inner names differ from it.
    have around : Surrounded place.scope inner.head.aliasName (some frame.self) (some row) :=
      .below (self ▸ binds) (self ▸ fits.1.1)
    have value := relation_eval framed nodes around fits.1.2
      (fun _ _ => below.evalSlots_eq fits.2) (.self _) none
    rw [Slot.eval, Expr.eval, value, nodeJson_relation, Option.map_some, self]
    cases relationJsons _ _ _ _ _ _ with
    | error failure => rfl
    | ok values => exact onlyCell_jsonResults _

/-- The query of a compiled relation has its values. -/
theorem compiled_eval {scope : Scope store}
    (built : compileRelation src parent? head children = .ok compiled)
    (around : Surrounded scope head.aliasName parent? row?)
    (fits : ConnectionFits store src head)
    (fitsChildren : nodesEvery (RelationFits store src) head.aliasName children)
    {col : Expr} (alike : Shows store col compiled.value) (alias? : Option String) :
    (compiled.query col alias?).eval store scope =
      (relationJsons store src (parent?.map TableRef.table) row? head children).map
        (jsonResults alias?) := by
  obtain ⟨frame, slots, made, nodes, rfl⟩ := compileRelation_eq_ok.mp built
  obtain ⟨crit, -, rfl, -⟩ := frameOf_realizes made
  exact relation_eval made nodes around fits
    (fun _ _ => (slots_eval made nodes).evalSlots_eq fitsChildren) alike _

/-! ## Failures -/

/-- Whether a computation fails at most because a relation to a single row has several. -/
abbrev OnlySeveral {α : Type} (outcome : Except Failure α) : Prop :=
  FailsOnly (· = .severalRows) outcome

namespace OnlySeveral

theorem atMostOne (values : List Json) : OnlySeveral (atMostOne values) := by
  match values with
  | [] => exact .ok none
  | [value] => exact .ok _
  | _ :: _ :: _ => exact .error rfl

/-- A relation that compiles has values if the rows of its table have objects. -/
theorem relationJsons (made : frameOf src parent? head = .ok frame)
    (members : ∀ row, OnlySeveral
      (memberJsons store src head.target.type frame.table row [] children))
    (row? : Option (Row store)) :
    OnlySeveral (relationJsons store src (parent?.map TableRef.table) row? head children) := by
  obtain ⟨crit, resolved, -, realizes⟩ := frameOf_realizes made
  rw [realizes.table] at members
  rw [Plan.relationJsons, resolved, ok_bind]
  refine .bind (.mapM (fun row => (members row).bind fun _ => .ok _) _) fun objects => ?_
  split
  · exact .ok _
  · exact .ok _

end OnlySeveral

theorem SlotsOf.onlySeveral {type : String} {table : Table}
    (each : SlotsOf (fun node _ => OnlySeveral (nodeJson store src type table row node)) seen
      nodes slots) : OnlySeveral (memberJsons store src type table row seen nodes) := by
  induction each with
  | nil =>
    rw [memberJsons]
    exact .ok []
  | again known rest ih =>
    rw [memberJsons, if_pos known]
    exact ih
  | first new here rest ih =>
    rw [memberJsons, if_neg new]
    exact here.bind fun _ => ih.bind fun _ => .ok _

theorem memberJsons_onlySeveral (made : frameOf src parent? head = .ok frame)
    (compiled : compileNodes src frame [] nodes = .ok slots) (row : Row store) :
    OnlySeveral (memberJsons store src frame.head.target.type frame.table row [] nodes) := by
  refine SlotsOf.onlySeveral ((compileNodes_slotsOf compiled).imp fun node _ slot compiled =>
    compileNode_induct (motive := fun frame node _ => ∀ row,
      OnlySeveral (nodeJson _ _ frame.head.target.type frame.table row node))
      ?_ ?_ made node compiled row)
  · intro _ _ frame field key slot _ compiled row
    rw [compileNode] at compiled
    rw [nodeJson]
    split
    · exact .ok _
    · rename_i ordinary
      rw [if_neg ordinary, Frame.column] at compiled
      cases known : frame.table.column? _ with
      | none =>
        rw [known] at compiled
        cases compiled
      | some col => exact .ok _
  · intro _ _ frame head children inner slots made framed _ below row
    obtain ⟨crit, -, rfl, -⟩ := frameOf_realizes framed
    have values : OnlySeveral _ :=
      .relationJsons framed (fun row => SlotsOf.onlySeveral
        (below.imp fun _ _ _ several => several row)) (some row)
    rw [frameOf_self made] at values
    rw [nodeJson_relation]
    exact values.bind fun values => (OnlySeveral.atMostOne _).bind fun _ => .ok _

/-- A relation that compiles has values, unless a relation to a single row has several. -/
theorem compiled_onlySeveral
    (built : compileRelation src parent? head children = .ok compiled)
    (row? : Option (Row store)) :
    OnlySeveral (relationJsons store src (parent?.map TableRef.table) row? head children) := by
  obtain ⟨frame, slots, made, nodes, -⟩ := compileRelation_eq_ok.mp built
  obtain ⟨crit, -, rfl, -⟩ := frameOf_realizes made
  exact .relationJsons made (memberJsons_onlySeveral made nodes) row?

/-! ## Statements -/

/-- The JSON value a statement answers with, if there is a row. -/
def Statement.answer (stmt : Statement) (store : Store) : Except Failure (Option Json) := do
  match ← stmt.query.eval store .empty with
  | [] => return none
  | [[(_, cell)]] => return some cell.toJson
  | [_] => throw .severalColumns
  | _ => throw .severalRows

/-- Whether a tree selects no connection. -/
def WithoutConnections (root : Tree.Root) : Prop :=
  root.head.connection? = none ∧
    nodesEvery (fun _ head => head.connection? = none) root.head.aliasName root.children

/-- Whether no relation of a tree introduces a name that stands for the row around it.  Relations of
one request have names of their own. -/
def NamesApart (root : Tree.Root) : Prop :=
  nodesEvery (fun outer head => outer ∉ ownNames head.aliasName) root.head.aliasName root.children

theorem connectionFits_of_none (none : head.connection? = none) :
    ConnectionFits store src head := by
  intro isSome
  rw [none] at isSome
  cases isSome

/-- Results with JSON values answer with the only one of them. -/
theorem answer_eq {alias? : Option String} {values : Except Failure (List Json)}
    (evaluated : stmt.query.eval store .empty = values.map (jsonResults alias?)) :
    stmt.answer store = values >>= atMostOne := by
  rw [Statement.answer, evaluated]
  match values with
  | .error _ => rfl
  | .ok [] => rfl
  | .ok [value] => rfl
  | .ok (_ :: _ :: _) => rfl

/-- A statement answers with the value of its tree. -/
theorem statement_answer (made : compile src root = .ok stmt)
    (fits : ConnectionFits store src root.head)
    (fitsChildren : nodesEvery (RelationFits store src) root.head.aliasName root.children) :
    stmt.answer store = rootJson store src root := by
  obtain ⟨frame, slots, framed, nodes, query⟩ := compile_eq_ok made
  have built := compileRelation_eq_ok.mpr ⟨frame, slots, framed, nodes, rfl⟩
  have evaluated : stmt.query.eval store .empty =
      (relationJsons store src none none root.head root.children).map
        (jsonResults (some root.head.responseName)) := by
    rw [query]
    exact compiled_eval built .top fits fitsChildren (.grouped _) _
  exact answer_eq evaluated

/-- A statement for a connection answers with its value, in which the end cursor is that of a row
level with the last one of the page. -/
theorem connection_answer {conn : Tree.Connection}
    (made : compile src root = .ok stmt)
    (resolved : criteriaOf src none root.head = .ok crit)
    (found : root.head.connection? = some conn) (isList : root.head.target.isList = true)
    (fits : nodesEvery (RelationFits store src) root.head.aliasName root.children) :
    ∃ cursor?, crit.EndsAt store none cursor? ∧ stmt.answer store = (do
      let nodes ← (crit.page store none true).mapM
        (objectJson store src root.head.target.type crit.table root.children)
      return some ((crit.overview store none).connectionJsonEnding cursor? conn
        nodes)) := by
  obtain ⟨frame, slots, framed, nodes, query⟩ := compile_eq_ok made
  obtain ⟨_, again, head, realizes⟩ := frameOf_realizes framed
  cases resolved.symm.trans again
  rw [← head] at found isList fits query ⊢
  have entries := relation_entries realizes nodes (.top : Surrounded .empty _ none none) fun _ _ =>
    (slots_eval framed nodes).evalSlots_eq fits
  rw [isList] at entries
  obtain ⟨failure, failed, failedObjects⟩ | ⟨entries, evaluated, values, items, entriesFit⟩ :=
    entries
  · refine ⟨_, crit.endsAt_last _ none, ?_⟩
    have evaluated : stmt.query.eval store .empty =
        (Except.error failure).map (jsonResults (some frame.head.responseName)) := by
      rw [query]
      exact Sql.eval_defined_error _ _ _ failed
    rw [answer_eq evaluated, failedObjects]
    rfl
  · obtain ⟨cursor?, ends, ended⟩ := ending_exists realizes entriesFit found items
    have alike : Shows store (.grouped (frame.compiled slots).value)
        (frame.connectionValue conn (.object (numbered frame 0 slots).members)) := by
      rw [Frame.compiled, Frame.value, found]
      exact .grouped _
    have value : stmt.query.eval store .empty =
        (Except.ok [(crit.overview store none).connectionJsonEnding cursor? conn
          (entries.map (Entry.object slots))]).map
            (jsonResults (some frame.head.responseName)) := by
      rw [query]
      exact connection_eval realizes .top entriesFit found items ended evaluated alike _
    refine ⟨cursor?, ends, ?_⟩
    rw [answer_eq value, values]
    rfl

/-- The statement of a tree of lists and single rows answers with the value of the tree, and fails
only if a relation to a single row has several. -/
theorem answer_eq_rootJson {root : Tree.Root} {statement : Statement} (store : Store)
    (made : compile sources root = .ok statement) (plain : WithoutConnections root)
    (apart : NamesApart root) :
    statement.answer store = rootJson store sources root ∧
      ∀ failure, statement.answer store = .error failure → failure = .severalRows := by
  have fits : nodesEvery (RelationFits store sources) root.head.aliasName root.children :=
    nodesEvery_and (fun _ _ apart none => ⟨apart, connectionFits_of_none none⟩) apart plain.2
  have answered := statement_answer made (connectionFits_of_none plain.1) fits
  obtain ⟨frame, slots, framed, nodes, -⟩ := compile_eq_ok made
  have built := compileRelation_eq_ok.mpr ⟨frame, slots, framed, nodes, rfl⟩
  rw [answered]
  exact ⟨rfl, (compiled_onlySeveral built none).bind OnlySeveral.atMostOne⟩

/-- Authors and books, with the relations between them. -/
def library : Sources where
  catalog := {
    tables := [
      ⟨"author", [⟨"id", "int", false⟩, ⟨"born", "int", true⟩], ["id"], [], []⟩,
      ⟨"book", [⟨"id", "int", false⟩, ⟨"author", "int", true⟩, ⟨"year", "int", true⟩], ["id"], [],
        []⟩]
    typeTables := [("Author", "author"), ("Book", "book")] }
  registry := ⟨[
    ⟨"books", "author", "book", .reverse, [("id", "author")], none⟩,
    ⟨"writer", "book", "author", .direct, [("author", "id")], none⟩]⟩

/-- Two authors, one of whom wrote two books; a third book has no author. -/
def libraryStore : Store :=
  .ofIntegers fun table =>
    if table = "author" then
      [Sql.integerRow [("id", 2), ("born", 1900)], Sql.integerRow [("id", 1)]]
    else
      [Sql.integerRow [("id", 10), ("author", 1), ("year", 1950)],
        Sql.integerRow [("id", 11), ("author", 1)], Sql.integerRow [("id", 12), ("year", 1950)]]

def writerHead : Tree.Head := ⟨"writer", "writer", "writer-2", ⟨"Author", false⟩, [], none⟩

def booksWithWriters : Tree.Root where
  head := ⟨"books", "books", "books-1", ⟨"Book", true⟩,
    [("orderBy", .object [("year", .enum "DESC")]), ("first", .int 5)], none⟩
  children := [.attribute "year" "year", .attribute "__typename" "kind",
    .relation writerHead [.attribute "id" "id"]]

theorem answer_eq_rootJson_library :
    ∃ statement, compile library booksWithWriters = .ok statement ∧
      WithoutConnections booksWithWriters ∧ NamesApart booksWithWriters ∧
      statement.answer libraryStore = .ok (some (.list [
        .object [("year", .ofInt 1950), ("kind", .text "Book"),
          ("writer", .object [("id", .ofInt 1)])],
        .object [("year", .ofInt 1950), ("kind", .text "Book"), ("writer", .null)],
        .object [("year", .null), ("kind", .text "Book"),
          ("writer", .object [("id", .ofInt 1)])]])) := by
  obtain ⟨statement, made⟩ :=
    compile_of_isOk (by cbv : (compile library booksWithWriters).isOk = true)
  have plain : WithoutConnections booksWithWriters :=
    ⟨rfl, trivial, trivial, ⟨rfl, trivial, trivial⟩, trivial⟩
  have apart : NamesApart booksWithWriters := by
    simp [NamesApart, booksWithWriters, nodesEvery, nodeEvery, ownNames, writerHead]
  exact ⟨statement, made, plain, apart, (answer_eq_rootJson libraryStore made plain apart).1⟩

/-! ## Connections -/

theorem Criteria.hasNext_eq {after : List (Row store)}
    (perm : after.Perm (crit.remaining store row?)) :
    crit.hasNext store row? =
      match crit.arguments.limit? with
      | none => false
      | some 0 => !after.isEmpty
      | some limit => decide (limit < after.length) := by
  rw [Criteria.hasNext]
  rcases crit.arguments.limit? with _ | _ | limit
  · rfl
  · exact congrArg Bool.not perm.isEmpty_eq.symm
  · exact congrArg (fun count => decide _) perm.length_eq.symm

/-- The query of a connection, at the top of a request or below a row, has one value.  Its edges are
the first rows of those after the cursor, in order, each with its cursor; the total counts all
matching rows; more rows follow if those after the cursor exceed the limit, or if there are any
for a limit of none; and the page ends with the cursor of its last row. -/
theorem connection_query_eval {scope : Scope store.toDomain} {parent? : Option TableRef}
    {row? : Option (Row store.toDomain)} {head : Tree.Head} {children : List Tree.Node}
    {compiled : Compiled} {connection : Tree.Connection}
    (built : compileRelation sources parent? head children = .ok compiled)
    (found : head.connection? = some connection) (isList : head.target.isList = true)
    (apart : OrderTellsApart store sources head)
    (fits : nodesEvery (RelationFits store sources) head.aliasName children)
    (around : Surrounded scope head.aliasName parent? row?) (column : Expr)
    (shown : column = compiled.value ∨ column = .grouped compiled.value) (alias? : Option String) :
    ∃ criteria, criteriaOf sources (parent?.map TableRef.table) head = .ok criteria ∧
      let matching := criteria.matching store row?
      let after := store.ordering.sort (directions criteria.order) (rowKey criteria.order)
        (matching.filter criteria.follows)
      let page := cut criteria.arguments.limit? after
      after.Pairwise (fun a b => compareKeys (directions criteria.order)
        (rowKey criteria.order a) (rowKey criteria.order b) = .lt) ∧
      (compiled.query column alias?).eval store scope = (do
        let nodes ← page.mapM (objectJson store sources head.target.type criteria.table children)
        let overview : Overview := {
          total := matching.length
          hasNext := match criteria.arguments.limit? with
            | none => false
            | some 0 => !after.isEmpty
            | some limit => decide (limit < after.length)
          cursors := page.map (cursorText criteria.order) }
        return jsonResults alias? [overview.connectionJson connection nodes]) ∧
      ∀ failure, (compiled.query column alias?).eval store scope = .error failure →
        failure = .severalRows := by
  have alike : Shows store column compiled.value := by
    rcases shown with rfl | rfl
    · exact .self _
    · exact .grouped _
  have evaluated := compiled_eval built around (fun _ => ⟨isList, apart⟩) fits alike alias?
  have several := compiled_onlySeveral built row?
  obtain ⟨frame, slots, made, nodes, -⟩ := compileRelation_eq_ok.mp built
  obtain ⟨criteria, resolved, -, -⟩ := frameOf_realizes made
  have apartRemaining : Apart (directions criteria.order) (rowKey criteria.order)
      (criteria.remaining store row?) :=
    List.Pairwise.sublist List.filter_sublist (apart.matching resolved row?)
  have perm : (criteria.arranged store row? true).Perm (criteria.remaining store row?) :=
    store.ordering.sort_perm (directions criteria.order) (rowKey criteria.order) _
  have strict := store.ordering.sort_strict (directions criteria.order) (rowKey criteria.order)
    apartRemaining
  refine ⟨criteria, resolved, strict, ?_, ?_⟩
  · rw [evaluated, relationJsons, resolved, ok_bind, Criteria.values, found, isList, Criteria.page,
      Criteria.overview, Criteria.hasNext_eq perm, Criteria.page, Criteria.arranged, if_pos rfl,
      Criteria.remaining]
    cases List.mapM (objectJson store sources head.target.type criteria.table children)
      (cut criteria.arguments.limit? _) <;> rfl
  · rw [evaluated]
    exact several.map _

def firstBook : Tree.Head where
  field := "books"
  responseName := "books"
  aliasName := "books-2"
  target := ⟨"Book", true⟩
  arguments := [("first", .int 1)]
  connection? := some {
    edges := "edges", node := "node", cursors := ["cursor"], totals := ["count"]
    pages := [⟨"page", ["more"], ["last"], "PageInfo", ["kind"]⟩]
    type := "BookConnection", typeNames := ["kind"], edgeType := "BookEdge", edgeTypeNames := [] }

theorem connection_query_eval_library :
    let author := Sql.integerRow [("id", 1)]
    ∃ compiled,
      compileRelation library (some ⟨"author", "authors-1"⟩) firstBook [.attribute "year" "year"] =
        .ok compiled ∧
      OrderTellsApart libraryStore library firstBook ∧
      (compiled.query compiled.value none).eval libraryStore
          (Scope.empty.enter "authors-1" (.ofRow author)) =
        .ok [[(none, .document (.object [
          ("edges", .list [.object [("node", .object [("year", .ofInt 1950)]),
            ("cursor", .text "\x7b\"id\":10\x7d")]]),
          ("count", .ofNat 2),
          ("page", .object [("more", .bool true), ("last", .text "\x7b\"id\":10\x7d"),
            ("kind", .text "PageInfo")]),
          ("kind", .text "BookConnection")]))]] := by
  intro author
  obtain ⟨compiled, built⟩ : ∃ compiled, compileRelation library (some ⟨"author", "authors-1"⟩)
      firstBook [.attribute "year" "year"] = .ok compiled :=
    ⟨_, compileRelation_eq_ok.mpr ⟨_, _, rfl, rfl, rfl⟩⟩
  have apart : OrderTellsApart libraryStore library firstBook := by
    rintro _ _ ⟨⟩ ⟨⟩
    unfold Apart
    decide
  have around : Surrounded (Scope.empty.enter "authors-1" (.ofRow author)) firstBook.aliasName
      (some ⟨"author", "authors-1"⟩) (some author) :=
    .below (Scope.binds_enter _ _ _) (by decide)
  obtain ⟨criteria, resolved, -, evaluated, -⟩ := connection_query_eval built rfl rfl apart
    ⟨trivial, trivial⟩ around compiled.value (.inl rfl) none
  cases resolved
  exact ⟨compiled, built, apart, evaluated⟩

end SelectGraph.Plan
