import SelectGraph.Proofs.Sql.Evaluation

/-!
# Laws of evaluation

What evaluating conditions and queries comes to, for the shapes that statements have: a condition
decides a fact about the row in scope, and a query reads a table or a common table expression.
-/

namespace SelectGraph.Sql

open List

open Std (OrientedCmp)

variable {cols : Columns} {col : Expr} {others parts : List Predicate}
  {fact other : Prop} {domain : Domain}

-- The proofs below unfold evaluation on the constructors it meets.
attribute [local simp] Expr.eval evalMembers Predicate.eval evalParts evalColumns Query.eval

/-! ## Columns -/

section Columns

variable {store : Store} {place : Place store} {cells : Result store}
  {cell : Cell store}

theorem evalColumns_append (cols others : Columns) :
    evalColumns store place (cols ++ others) = (do
      let cells ← evalColumns store place cols
      let rest ← evalColumns store place others
      return cells ++ rest) := by
  induction cols with
  | nil =>
    cases others' : evalColumns _ _ others <;> simp [others']
  | cons col cols ih =>
    rw [cons_append, evalColumns, ih, evalColumns]
    cases col.1.eval _ _ with
    | error failure => rfl
    | ok cell =>
      cases evalColumns _ _ _ with
      | error failure => rfl
      | ok cells => cases evalColumns _ _ _ <;> rfl

theorem evalColumns_names (evaluated : evalColumns store place cols = .ok cells) :
    cells.map Prod.fst = cols.map Prod.snd := by
  induction cols generalizing cells with
  | nil =>
    cases evaluated
    rfl
  | cons col cols ih =>
    obtain ⟨cell, _, rest⟩ := bind_eq_ok.mp evaluated
    obtain ⟨others, evaluatedOthers, same⟩ := bind_eq_ok.mp rest
    cases same
    rw [map_cons, map_cons, ih evaluatedOthers]

theorem evalColumns_ok (each : ∀ col ∈ cols, ∃ cell, col.1.eval store place = .ok cell) :
    ∃ cells, evalColumns store place cols = .ok cells := by
  induction cols with
  | nil => exact ⟨[], rfl⟩
  | cons col cols ih =>
    rw [forall_mem_cons] at each
    obtain ⟨cell, evaluated⟩ := each.1
    obtain ⟨cells, evaluatedOthers⟩ := ih each.2
    refine ⟨(col.2, cell) :: cells, ?_⟩
    rw [evalColumns, evaluated, evaluatedOthers]
    rfl

theorem mem_evalColumns {col : Expr × Option String}
    (evaluated : evalColumns store place cols = .ok cells) (mem : col ∈ cols)
    (value : col.1.eval store place = .ok cell) : (col.2, cell) ∈ cells := by
  induction cols generalizing cells with
  | nil => cases mem
  | cons first cols ih =>
    obtain ⟨firstCell, evaluatedFirst, rest⟩ := bind_eq_ok.mp evaluated
    obtain ⟨others, evaluatedOthers, same⟩ := bind_eq_ok.mp rest
    cases same
    rcases mem_cons.mp mem with rfl | later
    · cases evaluatedFirst.symm.trans value
      exact mem_cons_self
    · exact mem_cons_of_mem _ (ih evaluatedOthers later)

theorem evalMembers_append {members others : List (String × Expr)}
    {first second : List (String × Json)} (evaluated : evalMembers store place members = .ok first)
    (evaluatedOthers : evalMembers store place others = .ok second) :
    evalMembers store place (members ++ others) = .ok (first ++ second) := by
  induction members generalizing first with
  | nil =>
    cases evaluated
    exact evaluatedOthers
  | cons member members ih =>
    obtain ⟨cell, evaluatedMember, rest⟩ := bind_eq_ok.mp evaluated
    obtain ⟨jsons, evaluatedMembers, same⟩ := bind_eq_ok.mp rest
    cases same
    rw [cons_append, evalMembers, evaluatedMember, ih evaluatedMembers]
    rfl

theorem evalMembers_single {value : Expr} (evaluated : value.eval store place = .ok cell)
    (key : String) : evalMembers store place [(key, value)] = .ok [(key, cell.toJson)] := by
  rw [evalMembers, evaluated]
  rfl

theorem evalMembers_map {α : Type} {items : List α} {key : α → String} {value : α → Expr}
    {json : α → Json} (each : ∀ item ∈ items, ∃ cell, (value item).eval store place = .ok cell ∧
      cell.toJson = json item) :
    evalMembers store place (items.map fun item => (key item, value item)) =
      .ok (items.map fun item => (key item, json item)) := by
  induction items with
  | nil => rfl
  | cons item items ih =>
    rw [forall_mem_cons] at each
    obtain ⟨⟨cell, evaluated, same⟩, others⟩ := each
    rw [map_cons, evalMembers, evaluated, ih others, ok_bind, same]
    rfl

end Columns

/-! ## Places -/

section Places

variable {store : Store} {α : Type} {items : List α} {scopeOf : α → Scope store}

/-- Where a query that does not aggregate evaluates its columns for an item. -/
def itemPlace (store : Store) (items : List α) (scopeOf : α → Scope store)
    (item : α × Nat) : Place store where
  scope := scopeOf item.1
  group? := none
  size := items.length
  number := rowNumber store (items.map scopeOf) item.2

theorem rowPlaces_map :
    rowPlaces store (items.map scopeOf) = items.zipIdx.map (itemPlace store items scopeOf) := by
  rw [rowPlaces, zipIdx_map, map_map, length_map]
  rfl

theorem mapM_rowPlaces {β : Type} {step : Place store → Except Failure β} {value : α → β}
    (each : ∀ item ∈ items, ∀ place, place.scope = scopeOf item → step place = .ok (value item)) :
    (rowPlaces store (items.map scopeOf)).mapM step = .ok (items.map value) := by
  rw [rowPlaces_map, mapM_map]
  refine (mapM_eq_map fun item mem => each item.1 (fst_mem_of_mem_zipIdx mem) _ rfl).trans ?_
  nth_rewrite 2 [← zipIdx_map_fst 0 items]
  rw [map_map]
  rfl

theorem resultPlaces_plain {scope : Scope store} {source : String}
    {scopes : List (Scope store)} {order : Option (List OrderTerm)}
    (plain : cols.any (·.1.aggregates) = false) :
    resultPlaces store scope source scopes cols order =
      arrange store (rowPlaces store scopes) order := by
  rw [resultPlaces, plain]
  rfl

/-- Places of items are arranged as the items are by their sort keys. -/
theorem arrange_items (order : List OrderTerm) (placeOf : α → Place store) (items : List α) :
    arrange store (items.map placeOf) (some order) = (do
      let keyed ← items.mapM fun item => return (← (placeOf item).scope.key order, item)
      return (store.ordering.sort (order.map OrderTerm.direction) Prod.fst keyed).map
        (placeOf ∘ Prod.snd)) := by
  let keyOf (item : α) : Except Failure (List (Cell store) × α) :=
    return (← (placeOf item).scope.key order, item)
  have keyed : (items.map placeOf).mapM (fun place => do
        return (← place.scope.key order, place)) =
      (items.mapM keyOf).map (map (Prod.map id placeOf)) := by
    induction items with
    | nil => rfl
    | cons item items ih =>
      rw [map_cons, mapM_cons, mapM_cons, ih]
      cases items.mapM keyOf <;> simp only [keyOf] <;> cases (placeOf item).scope.key order <;> rfl
  rw [arrange, keyed]
  change _ = items.mapM keyOf >>= _
  cases items.mapM keyOf with
  | error failure => rfl
  | ok pairs =>
    simp only [Except.map, ok_bind, Arrangement.sort_map, map_map]
    rfl

theorem arrange_map {order : List OrderTerm} {placeOf : α → Place store}
    {key : α → List (Cell store)}
    (keys : ∀ item ∈ items, (placeOf item).scope.key order = .ok (key item)) :
    arrange store (items.map placeOf) (some order) =
      .ok ((store.ordering.sort (order.map OrderTerm.direction) key items).map placeOf) := by
  have keyed : items.mapM (fun item => do return (← (placeOf item).scope.key order, item)) =
      .ok (items.map fun item => (key item, item)) := by
    refine mapM_eq_map fun item mem => ?_
    simp [keys item mem]
  rw [arrange_items, keyed, ok_bind, Arrangement.sort_map, map_map]
  rfl

end Places

/-! ## Conditions and what they decide -/

namespace Predicate

variable {store : Store} {scope : Scope store} {pred part : Predicate}

/-- A condition decides a fact if it has a truth value that is true exactly when the fact holds. -/
def Decides (store : Store) (scope : Scope store) (pred : Predicate)
    (fact : Prop) : Prop :=
  ∃ truth, pred.eval store scope = .ok truth ∧ (truth = some true ↔ fact)

theorem Decides.iff (decides : Decides store scope pred fact) (same : fact ↔ other) :
    Decides store scope pred other := by
  obtain ⟨truth, evaluated, decided⟩ := decides
  exact ⟨truth, evaluated, decided.trans same⟩

theorem Decides.unique (decides : Decides store scope pred fact)
    (decidesOther : Decides store scope pred other) : fact ↔ other := by
  obtain ⟨truth, evaluated, decided⟩ := decides
  obtain ⟨truth', evaluated', decided'⟩ := decidesOther
  cases evaluated.symm.trans evaluated'
  exact decided.symm.trans decided'

theorem evalParts_append {first second : List Truth}
    (evaluated : evalParts store scope parts = .ok first)
    (evaluatedOthers : evalParts store scope others = .ok second) :
    evalParts store scope (parts ++ others) = .ok (first ++ second) := by
  induction parts generalizing first with
  | nil =>
    cases evaluated
    exact evaluatedOthers
  | cons part parts ih =>
    obtain ⟨truth, evaluatedPart, rest⟩ := bind_eq_ok.mp evaluated
    obtain ⟨truths, evaluatedParts, same⟩ := bind_eq_ok.mp rest
    cases same
    rw [cons_append, evalParts, evaluatedPart, ih evaluatedParts]
    rfl

theorem decides_all_iff :
    Decides store scope (.all parts) fact ↔
      ∃ truths, evalParts store scope parts = .ok truths ∧
        ((∀ truth ∈ truths, truth = some true) ↔ fact) := by
  constructor
  · rintro ⟨_, evaluated, decided⟩
    obtain ⟨truths, evaluatedParts, same⟩ := bind_eq_ok.mp evaluated
    cases same
    exact ⟨truths, evaluatedParts, Truth.all_eq_true.symm.trans decided⟩
  · rintro ⟨truths, evaluated, decided⟩
    exact ⟨.all _, by rw [Predicate.eval, evaluated]; rfl,
      Truth.all_eq_true.trans decided⟩

theorem decides_any_iff :
    Decides store scope (.any parts) fact ↔
      ∃ truths, evalParts store scope parts = .ok truths ∧ (some true ∈ truths ↔ fact) := by
  constructor
  · rintro ⟨_, evaluated, decided⟩
    obtain ⟨truths, evaluatedParts, same⟩ := bind_eq_ok.mp evaluated
    cases same
    exact ⟨truths, evaluatedParts, Truth.any_eq_true.symm.trans decided⟩
  · rintro ⟨truths, evaluated, decided⟩
    exact ⟨.any _, by rw [Predicate.eval, evaluated]; rfl,
      Truth.any_eq_true.trans decided⟩

theorem decides_all_nil : Decides store scope (.all []) True :=
  decides_all_iff.mpr ⟨[], rfl, by simp⟩

theorem decides_any_nil : Decides store scope (.any []) False :=
  decides_any_iff.mpr ⟨[], rfl, by simp⟩

theorem Decides.all_single (decides : Decides store scope part fact) :
    Decides store scope (.all [part]) fact := by
  obtain ⟨truth, evaluated, decided⟩ := decides
  refine decides_all_iff.mpr ⟨[truth], ?_, by simp [decided]⟩
  rw [evalParts, evaluated]
  rfl

theorem Decides.any_single (decides : Decides store scope part fact) :
    Decides store scope (.any [part]) fact := by
  obtain ⟨truth, evaluated, decided⟩ := decides
  refine decides_any_iff.mpr ⟨[truth], ?_, by simp [eq_comm, decided]⟩
  rw [evalParts, evaluated]
  rfl

theorem Decides.all_append (decides : Decides store scope (.all parts) fact)
    (decidesOthers : Decides store scope (.all others) other) :
    Decides store scope (.all (parts ++ others)) (fact ∧ other) := by
  obtain ⟨first, evaluated, decided⟩ := decides_all_iff.mp decides
  obtain ⟨second, evaluatedOthers, decidedOthers⟩ := decides_all_iff.mp decidesOthers
  refine decides_all_iff.mpr ⟨first ++ second, evalParts_append evaluated evaluatedOthers, ?_⟩
  rw [forall_mem_append, decided, decidedOthers]

theorem Decides.any_append (decides : Decides store scope (.any parts) fact)
    (decidesOthers : Decides store scope (.any others) other) :
    Decides store scope (.any (parts ++ others)) (fact ∨ other) := by
  obtain ⟨first, evaluated, decided⟩ := decides_any_iff.mp decides
  obtain ⟨second, evaluatedOthers, decidedOthers⟩ := decides_any_iff.mp decidesOthers
  refine decides_any_iff.mpr ⟨first ++ second, evalParts_append evaluated evaluatedOthers, ?_⟩
  rw [mem_append, decided, decidedOthers]

end Predicate

/-! ## Reading a table -/

section Table

variable {store : Store} {scope : Scope store} {table aliasName : String}
  {conds : List Predicate} {test : Row store → Bool}

def rowScope (scope : Scope domain) (aliasName : String) (row : Row domain) : Scope domain :=
  scope.enter aliasName (.ofRow row)

/-- The rows of a table on which conditions are true. -/
def keptRows (store : Store) (scope : Scope store) (table aliasName : String)
    (conds : List Predicate) : Except Failure (List (Row store)) :=
  keep (fun row => (evalParts store (rowScope scope aliasName row) conds).map Truth.hold)
    (store.rows table)

/-- A query that reads a table computes its columns for the rows it keeps. -/
theorem eval_table (cols : Columns) (order : Option (List OrderTerm)) (limit : Option Nat) :
    Query.eval store scope (.select none cols (.table table aliasName) conds order limit) =
      (keptRows store scope table aliasName conds >>= fun rows =>
        resultPlaces store scope aliasName (rows.map (rowScope scope aliasName)) cols order >>=
          fun places => (cut limit places).mapM fun place => evalColumns store place cols) := by
  rw [Query.eval]
  simp only [pure_eq_ok, ok_bind, Source.records, Source.name, map_map]
  rw [show scope.enter _ ∘ .ofRow = rowScope _ _ from rfl, keep_map, keptRows]
  cases keep (fun row => (evalParts _ _ _).map _) _ <;> rfl

/-- A query for ones has a row for each row kept. -/
theorem eval_probe :
    Query.eval store scope
        (.select none [(.one, none)] (.table table aliasName) conds none none) =
      (keptRows store scope table aliasName conds).map (map fun _ => [(none, .number 1)]) := by
  rw [eval_table]
  cases keptRows _ _ _ _ _ with
  | error failure => rfl
  | ok rows => exact mapM_rowPlaces fun _ _ _ _ => rfl

/-- A query for the number of rows has one row. -/
theorem eval_count :
    Query.eval store scope
        (.select none [(.countRows, none)] (.table table aliasName) conds none none) =
      (keptRows store scope table aliasName conds).map
        fun rows => [[(none, .number rows.length)]] := by
  rw [eval_table]
  cases keptRows _ _ _ _ _ with
  | error failure => rfl
  | ok rows => simp [resultPlaces, Expr.aggregates, cut, groupPlace, Place.group, Except.map]

/-- Whether conditions single out the rows of a table that pass a test. -/
def Selects (store : Store) (scope : Scope store) (aliasName : String)
    (conds : List Predicate) (test : Row store → Bool) : Prop :=
  ∀ row, Predicate.Decides store (rowScope scope aliasName row) (.all conds) (test row = true)

theorem Selects.keptRows (selects : Selects store scope aliasName conds test) :
    keptRows store scope table aliasName conds = .ok ((store.rows table).filter test) := by
  refine keep_eq_filter fun row _ => ?_
  obtain ⟨truths, evaluated, decided⟩ := Predicate.decides_all_iff.mp (selects row)
  rw [evaluated, Except.map, Truth.hold_eq decided]

theorem Selects.decides_existsRow (selects : Selects store scope aliasName conds test) :
    Predicate.Decides store scope
      (.existsRow (.select none [(.one, none)] (.table table aliasName) conds none none))
      ((store.rows table).any test = true) := by
  refine ⟨_, by rw [Predicate.eval, eval_probe, selects.keptRows]; rfl, ?_⟩
  simp

end Table

/-! ## Reading a common table expression -/

section Definition

variable {store : Store} {scope : Scope store} {body : Query} {name : String}
  {results : List (Result store)}

/-- The scope in which a common table expression is read. -/
def defining (scope : Scope domain) (name : String) (results : List (Result domain)) :
    Scope domain :=
  scope.define name (results.map Record.ofResult)

/-- The scope of a row of a common table expression. -/
def definedScope (scope : Scope domain) (name : String) (results : List (Result domain))
    (result : Result domain) : Scope domain :=
  (defining scope name results).enter name (.ofResult result)

/-- A query without conditions reads all rows of a common table expression. -/
theorem eval_rows {records : List (Record store)}
    (defined : scope.defined.lookup name = some records) (cols : Columns)
    (order : Option (List OrderTerm)) (limit : Option Nat) :
    Query.eval store scope (.select none cols (.rows name) [] order limit) =
      (resultPlaces store scope name (records.map (scope.enter name)) cols order >>= fun places =>
        (cut limit places).mapM fun place => evalColumns store place cols) := by
  have all (scopes : List _) :
      keep (fun each => (evalParts store each []).map Truth.hold) scopes = .ok scopes := by
    simpa using @keep_eq_filter _ (fun each => (evalParts store each []).map Truth.hold)
      (fun _ => true) scopes fun _ _ => rfl
  rw [Query.eval]
  simp only [ok_bind, pure_eq_ok, Source.records, defined, all]
  rfl

/-- A query with a definition is read where the definition has been made. -/
theorem eval_select_some (name : String) (cols : Columns) (source : Source)
    (conds : List Predicate) (order : Option (List OrderTerm)) (limit : Option Nat) :
    Query.eval store scope (.select (some (name, body)) cols source conds order limit) =
      (body.eval store scope >>= fun results =>
        Query.eval store (defining scope name results)
          (.select none cols source conds order limit)) := by
  rw [Query.eval]
  cases body.eval _ _ with
  | error failure => rfl
  | ok results =>
    simp only
    rfl

theorem eval_defined_error (name : String) (col : Expr) (alias? : Option String)
    {failure : Failure} (evaluated : body.eval store scope = .error failure) :
    Query.eval store scope
      (.select (some (name, body)) [(col, alias?)] (.rows name) [] none none) =
        .error failure := by
  rw [eval_select_some, evaluated]
  rfl

theorem eval_defined (name : String) (col : Expr) (alias? : Option String)
    (evaluated : body.eval store scope = .ok results) :
    Query.eval store scope
        (.select (some (name, body)) [(col, alias?)] (.rows name) [] none none) =
      (resultPlaces store (defining scope name results) name
        (results.map (definedScope scope name results)) [(col, alias?)] none >>= fun places =>
          places.mapM fun place => evalColumns store place [(col, alias?)]) := by
  have defined : (defining scope name _).defined.lookup name =
      some (results.map _) := lookup_cons_self
  rw [eval_select_some, evaluated, ok_bind, eval_rows defined, map_map]
  rfl

/-- The place of a query that aggregates the rows of a common table expression. -/
def definedGroup (scope : Scope domain) (name : String) (results : List (Result domain)) :
    Place domain :=
  groupPlace (defining scope name results) name (results.map (definedScope scope name results))

/-- An aggregate of a common table expression has one value or fails. -/
theorem eval_defined_group (name : String) (alias? : Option String)
    (evaluated : body.eval store scope = .ok results) (aggregates : col.aggregates = true) :
    Query.eval store scope
        (.select (some (name, body)) [(col, alias?)] (.rows name) [] none none) =
      (col.eval store (definedGroup scope name results)).map fun cell => [[(alias?, cell)]] := by
  rw [eval_defined name _ _ evaluated]
  simp only [resultPlaces, any_cons, aggregates, Bool.true_or, if_true, ok_bind,
    mapM_cons, evalColumns]
  rw [definedGroup]
  cases col.eval _ _ <;> rfl

/-- An aggregate of a common table expression has one value. -/
theorem eval_defined_aggregate (name : String) (alias? : Option String)
    (evaluated : body.eval store scope = .ok results) (aggregates : col.aggregates = true)
    {cell : Cell store}
    (value : col.eval store (definedGroup scope name results) = .ok cell) :
    Query.eval store scope
        (.select (some (name, body)) [(col, alias?)] (.rows name) [] none none) =
      .ok [[(alias?, cell)]] := by
  rw [eval_defined_group name _ evaluated aggregates, value]
  rfl

/-- A column that does not aggregate has a value for each row of a common table expression. -/
theorem eval_defined_rows (name : String) (alias? : Option String) {α : Type} {items : List α}
    {result : α → Result store}
    (evaluated : body.eval store scope = .ok (items.map result))
    (plain : col.aggregates = false) {cell : α → Cell store}
    (values : ∀ item ∈ items, ∀ place,
      place.scope = definedScope scope name (items.map result) (result item) →
        col.eval store place = .ok (cell item)) :
    Query.eval store scope
        (.select (some (name, body)) [(col, alias?)] (.rows name) [] none none) =
      .ok (items.map fun item => [(alias?, cell item)]) := by
  rw [eval_defined name _ _ evaluated]
  rw [map_map, resultPlaces_plain (by simp [plain]), arrange]
  refine mapM_rowPlaces fun item mem place inside => ?_
  rw [evalColumns, values item mem _ inside]
  rfl

/-- The JSON array over the rows of a group. -/
theorem arrayOf_eval {place : Place store} {item : Expr} {α : Type} {items : List α}
    {scopeOf : α → Scope store} {json : α → Json}
    (grouped : place.group? = some (items.map scopeOf))
    (each : ∀ entry ∈ items, ∀ inner, inner.scope = scopeOf entry →
      ∃ cell, item.eval store inner = .ok cell ∧ cell.toJson = json entry) :
    (Expr.arrayOf item).eval store place = .ok (.document (.list (items.map json))) := by
  have values : (items.map scopeOf).mapM (fun inner => do
        return (← item.eval _ (place.inside inner)).toJson) = .ok (items.map json) := by
    rw [mapM_map]
    refine mapM_eq_map fun entry mem => ?_
    obtain ⟨cell, evaluated, same⟩ := each _ mem (place.inside _) rfl
    rw [← same]
    exact bind_eq_ok.mpr ⟨cell, evaluated, rfl⟩
  rw [Expr.eval, Place.group, grouped]
  exact bind_eq_ok.mpr ⟨_, rfl, bind_eq_ok.mpr ⟨_, values, rfl⟩⟩

theorem compareKeys_descending (a b : Nat) :
    compareKeys [.descending] [(.number a : Cell domain)] [.number b] = Ord.compare b a := by
  simp only [compareKeys, compareFirst, headD_cons, Ordering.then_eq]
  exact OrientedCmp.eq_swap.symm

/-- The row with the greatest number is found by falling ones. -/
theorem eval_greatest {col : String} {α : Type} {items : List α}
    {record : α → Record store}
    (defined : scope.defined.lookup name = some (items.map record)) {rank : α → Nat}
    (ranks : ∀ item ∈ items, (scope.enter name (record item)).bare col =
      .ok (.number (rank item))) {value : Expr} (plain : value.aggregates = false)
    {cell : α → Cell store} (values : ∀ item ∈ items, ∀ place,
      place.scope = scope.enter name (record item) → value.eval store place = .ok (cell item)) :
    ∃ item?, (item? = none → items = []) ∧
      (∀ item ∈ item?, item ∈ items ∧ ∀ other ∈ items, rank other ≤ rank item) ∧
      Query.eval store scope (.select none [(value, none)] (.rows name) []
          (some [⟨none, col, .descending⟩]) (some 1)) =
        .ok (item?.toList.map fun item => [(none, cell item)]) := by
  let key (item : α × Nat) : List (Cell store) := [.number (rank item.1)]
  have keys : ∀ item ∈ items.zipIdx,
      (itemPlace _ items (scope.enter name ∘ record) item).scope.key
        [⟨none, col, .descending⟩] = .ok (key item) := by
    intro item mem
    have found := ranks item.1 (fst_mem_of_mem_zipIdx mem)
    simp [itemPlace, Scope.key, found, key]
  rw [eval_rows defined, map_map, resultPlaces_plain (by simp [plain]), rowPlaces_map,
    arrange_map keys, ok_bind, map_singleton, cut, ← map_take]
  have perm := store.ordering.sort_perm [.descending] key items.zipIdx
  have falling := store.ordering.sort_pairwise [.descending] key items.zipIdx
  cases arranged : store.ordering.sort [.descending] key _ with
  | nil =>
    rw [arranged] at perm
    have empty : items = [] := by simpa using perm.symm.eq_nil
    exact ⟨none, fun _ => empty, nofun, rfl⟩
  | cons first rest =>
    rw [arranged] at perm falling
    have mem := fst_mem_of_mem_zipIdx (perm.mem_iff.mp mem_cons_self)
    refine ⟨some first.1, nofun, ?_, ?_⟩
    · rintro _ ⟨⟩
      refine ⟨mem, fun other otherMem => ?_⟩
      rw [← zipIdx_map_fst 0 items] at otherMem
      obtain ⟨item, listed, rfl⟩ := mem_map.mp otherMem
      rcases mem_cons.mp (perm.mem_iff.mpr listed) with rfl | later
      · exact le_rfl
      · have below := (pairwise_cons.mp falling).1 _ later
        rw [compareKeys_descending] at below
        exact Nat.isLE_compare.mp below
    · have evaluated := values first.1 mem (itemPlace _ items (scope.enter name ∘ record)
        _) rfl
      simp [evaluated]

end Definition

end SelectGraph.Sql
