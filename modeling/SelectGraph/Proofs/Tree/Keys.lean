import SelectGraph.Proofs.Tree.Agreement
import SelectGraph.Proofs.Tree.Numbering

/-!
# Response names and numbers of trees

Collecting leaves no two fields with one response name, and each field of a connection adds its name
to exactly one of the lists from which the objects of the connection are made.  So the names in each
of these objects differ, as do the names of the children of every relation.  Only relations are
numbered: all other steps of a build leave the counter alone.
-/

namespace SelectGraph.Tree

open List

open GraphQL (Argument Selection)
open Sql (bind_eq_ok)

variable {parts : Parts} {field : Field} {rest fields : List Field}

/-! ## Relations of a tree -/

mutual

/-- The relations of a node with their children, each before those below it. -/
def Node.relations : Node → List Root
  | .attribute _ _ => []
  | .relation head children => ⟨head, children⟩ :: nodesRelations children

def nodesRelations : List Node → List Root
  | [] => []
  | node :: nodes => node.relations ++ nodesRelations nodes

end

/-- The relations of a tree with their children, each before those below it. -/
def Root.relations (root : Root) : List Root :=
  root :: nodesRelations root.children

theorem nodesHeads_eq (nodes : List Node) : nodesHeads nodes = nodes.flatMap Node.heads := by
  induction nodes with
  | nil => rfl
  | cons node nodes ih => rw [nodesHeads, flatMap_cons, ih]

theorem mem_nodesRelations {nodes : List Node} {rel : Root} :
    rel ∈ nodesRelations nodes ↔ ∃ node ∈ nodes, rel ∈ node.relations := by
  induction nodes with
  | nil => simp [nodesRelations]
  | cons node nodes ih => simp [nodesRelations, ih]

/-! ## Keys of objects -/

def PageInfo.keys (page : PageInfo) : List String :=
  page.hasNext ++ page.endCursor ++ page.typeNames

def Connection.edgeKeys (conn : Connection) : List String :=
  conn.node :: (conn.cursors ++ conn.edgeTypeNames)

/-- The keys of a connection besides its edges. -/
def Connection.otherKeys (conn : Connection) : List String :=
  conn.totals ++ conn.pages.map PageInfo.responseName ++ conn.typeNames

def Connection.keys (conn : Connection) : List String :=
  conn.edges :: conn.otherKeys

/-- Whether the keys in each object of a connection differ. -/
structure Connection.KeysDistinct (conn : Connection) : Prop where
  edge : conn.edgeKeys.Nodup
  outer : conn.keys.Nodup
  pages : ∀ page ∈ conn.pages, page.keys.Nodup

/-- Whether the keys differ in the object of a row and in those of a connection. -/
structure Root.KeysDistinct (rel : Root) : Prop where
  children : (rel.children.map Node.responseName).Nodup
  connection : ∀ connection, rel.head.connection? = some connection → connection.KeysDistinct

namespace Builder

variable {holds : String → Prop} {ctx : Context}

theorem fieldType_quiet (parent field : String) :
    Quiet (fieldType ctx parent field) fun _ => True := by
  rw [fieldType]
  split
  · exact .pure trivial
  · exact .throw _

theorem fieldsOf_quiet (fragments : fragmentsEvery holds ctx.document) {sels : List Selection}
    (every : selectionsEvery holds sels) :
    Quiet (fieldsOf ctx sels) fun fields =>
      (∀ field ∈ fields, field.Every holds) ∧ (fields.map Field.responseName).Nodup := by
  intro number fields stop run
  obtain ⟨found, collected, same⟩ := bind_eq_ok.mp run
  cases same
  exact ⟨rfl, collect_every fragments every collected, collect_responseNames_nodup collected⟩

theorem arguments_quiet (parent field : String) (given : List Argument) :
    Quiet (arguments ctx parent field given) fun _ => True := by
  have each : Quiet (givenArguments ctx field given) fun _ => True := by
    induction given with
    | nil => exact .pure trivial
    | cons arg given ih =>
      rw [givenArguments]
      split
      · exact .throw _
      · refine ih.bind fun others _ => ?_
        split
        · exact .pure trivial
        · exact .pure trivial
  exact each.bind fun _ _ => .pure trivial

/-! ## Connections -/

theorem not_mem_of_nodup {names more : List String} {name : String}
    (distinct : (names ++ name :: more).Nodup) : name ∉ names := by
  intro known
  exact (nodup_append.mp distinct).2.2 _ known _ mem_cons_self rfl

theorem addName_of_not_mem {names : List String} {name : String} (new : name ∉ names) :
    addName names name = names ++ [name] := by
  rw [addName]
  simpa using new

/-- Keys that are rearranged still differ. -/
theorem nodup_of_count_eq {keys others : List String} (distinct : keys.Nodup)
    (same : ∀ key, others.count key = keys.count key) : others.Nodup :=
  (perm_iff_count.mpr same).nodup_iff.mpr distinct

def Parts.keys (parts : Parts) : List String :=
  (if parts.edgesSeen then [parts.connection.edges] else []) ++ parts.connection.otherKeys

def Parts.edgeKeys (parts : Parts) : List String :=
  (if parts.node?.isSome then [parts.connection.node] else []) ++
    (parts.connection.cursors ++ parts.connection.edgeTypeNames)

/-- Whether the node of a connection, once it is met, satisfies a condition. -/
def Parts.NodeEvery (holds : String → Prop) (parts : Parts) : Prop :=
  ∀ node type, parts.node? = some (node, type) → node.Every holds

/-- Whether the keys of an edge found so far differ from each other and from the names of the fields
that remain, its node satisfies a condition, and all else is as it was. -/
structure EdgeApart (holds : String → Prop) (started parts : Parts) (remaining : List Field) :
    Prop where
  distinct : (parts.edgeKeys ++ remaining.map Field.responseName).Nodup
  node : parts.NodeEvery holds
  keys : parts.keys = started.keys
  pages : parts.connection.pages = started.connection.pages
  edgesSeen : parts.edgesSeen = started.edgesSeen

theorem edgeField_quiet (rel edgeType : String) {started : Parts} (every : field.Every holds)
    (apart : EdgeApart holds started parts (field :: rest)) :
    Quiet (edgeField ctx rel edgeType parts field) fun next =>
      EdgeApart holds started next rest := by
  have distinct := apart.distinct
  have new := not_mem_of_nodup distinct
  rw [Parts.edgeKeys] at new distinct
  rw [edgeField]
  split
  · split
    · exact .fail_ends _
    · rename_i unseen
      refine (fieldType_quiet _ _).bind fun found _ => ?_
      refine .pure ⟨?_, ?_, apart.keys, apart.pages, apart.edgesSeen⟩
      · apply nodup_of_count_eq distinct
        simp [Parts.edgeKeys, unseen, count_cons]
        omega
      · rintro node type ⟨⟩
        exact every
  · have fresh : field.responseName ∉ parts.connection.cursors := by
      intro known
      exact new (by simp [known])
    refine .pure ⟨?_, apart.node, apart.keys, apart.pages, apart.edgesSeen⟩
    apply nodup_of_count_eq distinct
    simp [Parts.edgeKeys, addName_of_not_mem fresh, count_cons]
    omega
  · have fresh : field.responseName ∉ parts.connection.edgeTypeNames := by
      intro known
      exact new (by simp [known])
    refine .pure ⟨?_, apart.node, apart.keys, apart.pages, apart.edgesSeen⟩
    apply nodup_of_count_eq distinct
    simp [Parts.edgeKeys, addName_of_not_mem fresh]
  · exact .fail _

/-- Whether the keys of page information found so far differ from each other and from the names of
the fields that remain, under the name it started with. -/
structure PageApart (started page : PageInfo) (remaining : List Field) : Prop where
  distinct : (page.keys ++ remaining.map Field.responseName).Nodup
  responseName : page.responseName = started.responseName

theorem pageField_quiet (rel connectionType : String) {started page : PageInfo}
    (apart : PageApart started page (field :: rest)) :
    Quiet (pageField ctx rel connectionType page field) fun next =>
      PageApart started next rest := by
  have distinct := apart.distinct
  have new := not_mem_of_nodup distinct
  simp only [PageInfo.keys, mem_append, not_or] at new
  rw [pageField]
  split
  · refine .pure ⟨?_, apart.responseName⟩
    apply nodup_of_count_eq distinct
    simp [PageInfo.keys, addName_of_not_mem new.1.1, count_cons]
    omega
  · refine .pure ⟨?_, apart.responseName⟩
    apply nodup_of_count_eq distinct
    simp [PageInfo.keys, addName_of_not_mem new.1.2, count_cons]
    omega
  · refine (fieldType_quiet _ _).bind fun found _ => .pure ⟨?_, apart.responseName⟩
    apply nodup_of_count_eq distinct
    simp [PageInfo.keys, addName_of_not_mem new.2]
  · exact .fail _

/-- Whether the keys of a connection found so far differ from each other and from the names of the
fields that remain, and its node satisfies a condition.  Before its edges are met, nothing is known of
them. -/
structure Parts.Apart (holds : String → Prop) (parts : Parts) (remaining : List Field) : Prop where
  distinct : (parts.keys ++ remaining.map Field.responseName).Nodup
  node : parts.NodeEvery holds
  edge : parts.edgeKeys.Nodup
  pages : ∀ page ∈ parts.connection.pages, page.keys.Nodup
  unseen : parts.edgesSeen = false → parts.edgeKeys = []

/-- A connection whose edges are met under a name. -/
def Parts.opened (parts : Parts) (name : String) : Parts :=
  { parts with edgesSeen := true, connection := { parts.connection with edges := name } }

theorem edges_quiet (rel edgeType : String) {inner : List Field}
    (every : ∀ field ∈ inner, field.Every holds) (names : (inner.map Field.responseName).Nodup)
    (apart : parts.Apart holds (field :: rest)) (unseen : parts.edgesSeen = false) :
    Quiet (inner.foldlM (edgeField ctx rel edgeType) (parts.opened field.responseName))
      fun next => next.Apart holds rest := by
  have started : EdgeApart holds (parts.opened field.responseName)
      (parts.opened field.responseName) inner := by
    refine ⟨?_, apart.node, rfl, rfl, rfl⟩
    change (parts.edgeKeys ++ inner.map _).Nodup
    rw [apart.unseen unseen]
    exact names
  intro start final stop run
  obtain ⟨same, found⟩ :=
    Quiet.foldlM (fun item mem _ _ => edgeField_quiet _ _ (every item mem)) started _ _ _ run
  refine ⟨same, ?_, found.node, ?_, ?_, ?_⟩
  · rw [found.keys]
    apply nodup_of_count_eq apart.distinct
    simp [Parts.keys, Parts.opened, Connection.otherKeys, unseen, count_cons]
    omega
  · simpa using found.distinct
  · rw [found.pages]
    exact apart.pages
  · intro impossible
    rw [found.edgesSeen] at impossible
    cases impossible

variable (fragments : fragmentsEvery holds ctx.document)

include fragments

theorem connectionField_quiet (rel connectionType : String) (every : field.Every holds)
    (apart : parts.Apart holds (field :: rest)) :
    Quiet (connectionField ctx rel connectionType parts field) fun next =>
      next.Apart holds rest := by
  have distinct := apart.distinct
  have new := not_mem_of_nodup distinct
  simp only [Parts.keys, Connection.otherKeys, mem_append, not_or] at new
  rw [connectionField]
  split
  · split
    · exact .fail_ends _
    · rename_i first
      refine (fieldType_quiet _ _).bind fun found _ => ?_
      refine (fieldsOf_quiet fragments every.2).bind fun inner collected => ?_
      exact edges_quiet _ _ collected.1 collected.2 apart (by simpa using first)
  · refine .pure ⟨?_, apart.node, apart.edge, apart.pages, apart.unseen⟩
    apply nodup_of_count_eq distinct
    simp [Parts.keys, Connection.otherKeys, addName_of_not_mem new.2.1.1, count_cons]
    omega
  · refine .pure ⟨?_, apart.node, apart.edge, apart.pages, apart.unseen⟩
    apply nodup_of_count_eq distinct
    simp [Parts.keys, Connection.otherKeys, addName_of_not_mem new.2.2]
  · refine (fieldsOf_quiet fragments every.2).bind fun inner collected => ?_
    have started : PageApart ⟨field.responseName, [], [], "", []⟩ ⟨field.responseName, [], [], "", []⟩
        _ := ⟨collected.2, rfl⟩
    refine (Quiet.foldlM (fun _ _ _ _ => pageField_quiet rel connectionType) started).bind
      fun page found => ?_
    refine .pure ⟨?_, apart.node, apart.edge, ?_, apart.unseen⟩
    · apply nodup_of_count_eq distinct
      simp [Parts.keys, Connection.otherKeys, found.responseName, count_cons]
      omega
    · intro other mem
      rcases mem_append.mp mem with known | last
      · exact apart.pages _ known
      · rw [mem_singleton.mp last]
        simpa using found.distinct
  · exact .fail _

theorem connection_quiet (rel connectionType : String) (every : ∀ field ∈ fields, field.Every holds)
    (names : (fields.map Field.responseName).Nodup) :
    Quiet (connection ctx rel connectionType fields) fun found =>
      found.1.KeysDistinct ∧ selectionsEvery holds found.2.1 := by
  have started : Parts.none.Apart holds _ :=
    ⟨names, by rintro _ _ ⟨⟩, nodup_nil, by simp [Parts.none], fun _ => rfl⟩
  refine (Quiet.foldlM (fun field mem _ _ =>
    connectionField_quiet fragments rel connectionType (every _ mem)) started).bind
      fun parts apart => ?_
  split
  · exact .fail _
  · rename_i node type found
    have edge := apart.edge
    have distinct := apart.distinct
    have seen : parts.edgesSeen = true := by
      by_contra unseen
      have none := apart.unseen (by simpa using unseen)
      simp [Parts.edgeKeys, found] at none
    rw [Parts.edgeKeys, found] at edge
    rw [Parts.keys, seen, map_nil, append_nil] at distinct
    exact .pure ⟨⟨edge, distinct, apart.pages⟩, (apart.node node type found).2⟩

/-! ## Relations -/

/-- Whether a tree has the response name of its field and distinct keys throughout. -/
def Built (field : Field) (root : Root) : Prop :=
  root.head.responseName = field.responseName ∧
    ∀ rel ∈ root.relations, rel.KeysDistinct

section

omit fragments

/-- What is made of fields one after the other has their names, and its relations are counted in this
order. -/
theorem mapM_ends {β : Type} {make : Field → Builder β} {name : β → String} {good : β → Prop}
    {heads : β → List Head}
    (each : ∀ field ∈ fields, Ends (make field) fun start value stop =>
      (name value = field.responseName ∧ good value) ∧ Counted holds start (heads value) stop) :
    Ends (fields.mapM make) fun start values stop =>
      (values.map name = fields.map Field.responseName ∧ ∀ value ∈ values, good value) ∧
        Counted holds start (values.flatMap heads) stop := by
  induction fields with
  | nil =>
    rintro start _ _ ⟨⟩
    exact ⟨⟨rfl, forall_mem_nil _⟩, .nil _⟩
  | cons field fields ih =>
    rw [forall_mem_cons] at each
    rw [mapM_cons]
    intro start values stop run
    obtain ⟨value, middle, ran, rest⟩ := bind_run_eq_ok.mp run
    obtain ⟨others, _, ranOthers, same⟩ := bind_run_eq_ok.mp rest
    cases same
    obtain ⟨⟨named, first⟩, counted⟩ := each.1 _ _ _ ran
    obtain ⟨⟨names, later⟩, countedOthers⟩ := ih each.2 _ _ _ ranOthers
    refine ⟨⟨?_, forall_mem_cons.mpr ⟨first, later⟩⟩, counted.append countedOthers⟩
    rw [map_cons, map_cons, named, names]

/-- An inner field is an attribute, or its relations are counted. -/
theorem inner_ends {build : Builder Root} (ends : Ends build fun start root stop =>
      Built field root ∧ Counted holds start root.heads stop) :
    Ends (if isAttribute field then pure (Node.attribute field.name field.responseName)
      else do
        let found ← build
        return Node.relation found.head found.children) fun start node stop =>
      (node.responseName = field.responseName ∧ ∀ rel ∈ node.relations, rel.KeysDistinct) ∧
        Counted holds start node.heads stop := by
  split
  · rintro start _ _ ⟨⟩
    exact ⟨⟨rfl, forall_mem_nil _⟩, .nil _⟩
  · intro start node stop run
    obtain ⟨root, _, ran, same⟩ := bind_run_eq_ok.mp run
    cases same
    exact ends _ _ _ ran

/-- A relation is counted before the relations below it. -/
theorem nextAlias_ends (kept : holds field.name) {next : String → Builder Root}
    (rest : ∀ aliasName, Ends (next aliasName) fun start root stop =>
      (root.head.field = field.name ∧ root.head.aliasName = aliasName) ∧ Built field root ∧
        Counted holds start (nodesHeads root.children) stop) :
    Ends (nextAlias field.name >>= next) fun start root stop =>
      Built field root ∧ Counted holds start root.heads stop := by
  intro start root stop run
  obtain ⟨aliasName, middle, named, ran⟩ := bind_run_eq_ok.mp run
  cases named
  obtain ⟨⟨sameField, sameName⟩, built, counted⟩ := rest _ _ _ _ ran
  exact ⟨built, .cons (by rw [sameName, sameField]; rfl) (sameField ▸ kept) counted⟩

/-- A relation has distinct keys throughout, if its children and its connection have. -/
theorem withHead_ends {make : Field → Builder Node} {head : Head} {aliasName : String}
    (each : ∀ field ∈ fields, Ends (make field) fun start node stop =>
      (node.responseName = field.responseName ∧ ∀ rel ∈ node.relations, rel.KeysDistinct) ∧
        Counted holds start node.heads stop)
    (names : (fields.map Field.responseName).Nodup)
    (named : (head.field = field.name ∧ head.aliasName = aliasName) ∧
      head.responseName = field.responseName)
    (shown : ∀ conn, head.connection? = some conn → conn.KeysDistinct) :
    Ends (do return (⟨head, ← nodesWith make fields⟩ : Root)) fun start root stop =>
      (root.head.field = field.name ∧ root.head.aliasName = aliasName) ∧ Built field root ∧
        Counted holds start (nodesHeads root.children) stop := by
  intro start root stop run
  obtain ⟨nodes, _, ran, same⟩ := bind_run_eq_ok.mp run
  cases same
  rw [nodesWith_eq_mapM] at ran
  obtain ⟨⟨inner, below⟩, counted⟩ := mapM_ends each _ _ _ ran
  rw [← nodesHeads_eq] at counted
  refine ⟨named.1, ⟨named.2, forall_mem_cons.mpr ⟨⟨inner ▸ names, shown⟩, ?_⟩⟩, counted⟩
  intro rel mem
  obtain ⟨node, memNode, memRelation⟩ := mem_nodesRelations.mp mem
  exact below node memNode _ memRelation

end

theorem relation_ends (fuel : Nat) (parent : String) (every : field.Every holds) :
    Ends (relation ctx fuel parent field) fun start root stop =>
      Built field root ∧ Counted holds start root.heads stop := by
  induction fuel generalizing parent field with
  | zero => rintro start root stop ⟨⟩
  | succ fuel ih =>
    refine (fieldType_quiet _ _).ends fun found _ => ?_
    refine (arguments_quiet _ _ _).ends fun given _ => ?_
    refine nextAlias_ends every.1 fun aliasName => ?_
    refine (fieldsOf_quiet fragments every.2).ends fun fields ⟨fieldsEvery, names⟩ => ?_
    split
    · refine (connection_quiet fragments _ _ fieldsEvery names).ends ?_
      rintro ⟨connection, sels, type⟩ ⟨distinct, kept⟩
      refine (fieldsOf_quiet fragments kept).ends fun inner ⟨innerEvery, innerNames⟩ => ?_
      refine withHead_ends (fun field mem => inner_ends (ih type (innerEvery _ mem))) innerNames
        ⟨⟨rfl, rfl⟩, rfl⟩ ?_
      rintro _ ⟨⟩
      exact distinct
    · refine withHead_ends (fun field mem => inner_ends (ih found.type (fieldsEvery _ mem))) names
        ⟨⟨rfl, rfl⟩, rfl⟩ ?_
      rintro _ ⟨⟩

theorem root_ends (fuel : Nat) (every : field.Every holds) :
    Ends (root ctx fuel field) fun start root stop =>
      Built field root ∧ Counted holds start root.heads stop := by
  have ends := relation_ends fragments fuel ctx.schema.queryType every
  rw [root]
  split
  · exact Quiet.fail_ends _
  · split
    · exact Quiet.fail_ends _
    · exact ends

end Builder

/-- The trees of a request are those of its collected fields.  They have distinct keys throughout, and
their relations are numbered from one on, in the order of the trees. -/
theorem build_yields {holds : String → Prop} {ctx : Context} {sels : List Selection}
    {roots : List Root} (fragments : fragmentsEvery holds ctx.document)
    (every : selectionsEvery holds sels) (built : build ctx sels = .ok roots) :
    ∃ fields stop, collect ctx.document ctx.environment sels = .ok fields ∧
      (roots.map (fun root => root.head.responseName) = fields.map Field.responseName ∧
        ∀ root ∈ roots, ∀ rel ∈ root.relations, rel.KeysDistinct) ∧
      Counted holds 0 (roots.flatMap Root.heads) stop := by
  obtain ⟨fields, collected, rest⟩ := bind_eq_ok.mp built
  obtain ⟨⟨found, stop⟩, run, same⟩ := bind_eq_ok.mp rest
  cases same
  have fieldsEvery := collect_every fragments every collected
  exact ⟨fields, stop, collected, Builder.mapM_ends
    (fun field mem => Builder.root_ends fragments _ (fieldsEvery _ mem)) _ _ _ run⟩

theorem build_keys {ctx : Context} {sels : List Selection} {roots : List Root}
    (built : build ctx sels = .ok roots) :
    ∃ fields, collect ctx.document ctx.environment sels = .ok fields ∧
      roots.map (fun root => root.head.responseName) = fields.map Field.responseName ∧
      ∀ root ∈ roots, ∀ rel ∈ root.relations, rel.KeysDistinct := by
  have any : ∀ name : String, (fun _ => True) name := fun _ => trivial
  obtain ⟨fields, stop, collected, keys, -⟩ := build_yields
    (fun _ _ => selectionsEvery_of_forall any _) (selectionsEvery_of_forall any _) built
  exact ⟨fields, collected, keys⟩

end SelectGraph.Tree
