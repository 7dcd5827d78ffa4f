import SelectGraph.Proofs.Sql.Store

/-!
# Evaluation of queries

The rows a query yields in a store.  Names are resolved in a scope: the row each source stands
for, innermost first, and the rows of the common table expressions defined so far.  A query keeps
the rows on which all its conditions are true, arranges and cuts them, and then computes its
columns; if a column aggregates, the rows kept make up one group and there is one result.
Aggregates take the rows of their source in sequence.
-/

namespace SelectGraph.Sql

open List

variable {domain : Domain}

inductive Failure where
  | severalRows
  | severalColumns
  | unknownSource (name : String)
  | unknownColumn (name : String)
  | misplacedAggregate
  deriving DecidableEq

@[simp] theorem ok_bind {ε α β : Type} (value : α) (next : α → Except ε β) :
    (Except.ok value >>= next) = next value := rfl

@[simp] theorem error_bind {ε α β : Type} (failure : ε) (next : α → Except ε β) :
    (Except.error failure >>= next) = .error failure := rfl

@[simp] theorem pure_eq_ok {ε α : Type} (value : α) :
    (pure value : Except ε α) = .ok value := rfl

@[simp] theorem map_ok {ε α β : Type} (image : α → β) (value : α) :
    image <$> (Except.ok value : Except ε α) = .ok (image value) := rfl

theorem bind_eq_ok {ε α β : Type} {step : Except ε α} {next : α → Except ε β} {result : β} :
    (step >>= next) = .ok result ↔ ∃ value, step = .ok value ∧ next value = .ok result := by
  cases step with
  | ok value => simp
  | error failure => simp

/-- Whether a computation has no faults but those described. -/
def FailsOnly {ε α : Type} (described : ε → Prop) (outcome : Except ε α) : Prop :=
  ∀ fault, outcome = .error fault → described fault

namespace FailsOnly

variable {ε α β : Type} {described : ε → Prop}

theorem ok (value : α) : FailsOnly described (.ok value) := by
  rintro _ ⟨⟩

theorem error {fault : ε} (known : described fault) :
    FailsOnly described (.error fault : Except ε α) := by
  rintro _ ⟨⟩
  exact known

theorem bind {step : Except ε α} {next : α → Except ε β} (first : FailsOnly described step)
    (rest : ∀ value, FailsOnly described (next value)) : FailsOnly described (step >>= next) := by
  cases step with
  | ok value => exact rest _
  | error fault => exact error (first _ rfl)

theorem map {outcome : Except ε α} (only : FailsOnly described outcome) (image : α → β) :
    FailsOnly described (outcome.map image) := by
  cases outcome with
  | ok value => exact ok _
  | error fault => exact error (only _ rfl)

theorem mapM {step : α → Except ε β} (each : ∀ item, FailsOnly described (step item))
    (items : List α) : FailsOnly described (items.mapM step) := by
  induction items with
  | nil => exact ok []
  | cons item items ih =>
    rw [mapM_cons]
    exact (each item).bind fun _ => ih.bind fun _ => ok _

theorem forM {step : α → Except ε PUnit} (each : ∀ item, FailsOnly described (step item))
    (items : List α) : FailsOnly described (items.forM step) := by
  induction items with
  | nil => exact ok _
  | cons item items ih => exact (each item).bind fun _ => ih

theorem foldlM {step : β → α → Except ε β} (each : ∀ value item, FailsOnly described (step value item))
    (items : List α) (start : β) : FailsOnly described (items.foldlM step start) := by
  induction items generalizing start with
  | nil => exact ok _
  | cons item items ih =>
    rw [foldlM_cons]
    exact (each start item).bind ih

end FailsOnly

/-- Whether two computations correspond: both fail with one fault, of those they may share, or both
succeed with related values. -/
inductive Corresponds {ε α β : Type} (shared : ε → Prop) (related : α → β → Prop) :
    Except ε α → Except ε β → Prop
  | ok {value : α} {other : β} (holds : related value other) :
      Corresponds shared related (.ok value) (.ok other)
  | error {fault : ε} (both : shared fault) :
      Corresponds shared related (.error fault) (.error fault)

/-- Whether two computations fail with one fault, whichever it is, or have related values. -/
abbrev Parallel {ε α β : Type} (related : α → β → Prop) : Except ε α → Except ε β → Prop :=
  Corresponds (fun _ => True) related

namespace Corresponds

variable {ε α β γ δ : Type} {shared : ε → Prop} {related : α → β → Prop} {linked : γ → δ → Prop}
  {step : Except ε α} {other : Except ε β}

theorem refl (step : Except ε α) : Parallel (· = ·) step step := by
  cases step with
  | ok value => exact .ok rfl
  | error fault => exact .error trivial

theorem bind (same : Corresponds shared related step other) {next : α → Except ε γ}
    {next' : β → Except ε δ} (rest : ∀ value value', related value value' →
      Corresponds shared linked (next value) (next' value')) :
    Corresponds shared linked (step >>= next) (other >>= next') := by
  cases same with
  | ok holds => exact rest _ _ holds
  | error both => exact .error both

theorem map (same : Corresponds shared related step other) {image : α → γ} {image' : β → δ}
    (images : ∀ value value', related value value' → linked (image value) (image' value')) :
    Corresponds shared linked (step.map image) (other.map image') := by
  cases same with
  | ok holds => exact .ok (images _ _ holds)
  | error both => exact .error both

theorem imp {stronger : α → β → Prop} (same : Corresponds shared stronger step other)
    (implied : ∀ value value', stronger value value' → related value value') :
    Corresponds shared related step other := by
  cases same with
  | ok holds => exact .ok (implied _ _ holds)
  | error both => exact .error both

theorem mapM {step : γ → Except ε α} {step' : γ → Except ε β} {items : List γ}
    (each : ∀ item ∈ items, Corresponds shared related (step item) (step' item)) :
    Corresponds shared (List.Forall₂ related) (items.mapM step) (items.mapM step') := by
  induction items with
  | nil => exact .ok .nil
  | cons item items ih =>
    rw [forall_mem_cons] at each
    rw [mapM_cons, mapM_cons]
    refine each.1.bind fun value value' first => (ih each.2).bind fun values values' rest => ?_
    exact .ok (.cons first rest)

theorem eq {other : Except ε α} (same : Corresponds shared (· = ·) step other) : step = other := by
  cases same with
  | ok holds => rw [holds]
  | error both => rfl

theorem failsOnly (same : Corresponds shared related step other) : FailsOnly shared step := by
  cases same with
  | ok holds => exact .ok _
  | error both => exact .error both

theorem outcomes (same : Corresponds shared related step other) :
    (∃ fault, step = .error fault ∧ other = .error fault) ∨
      ∃ value value', step = .ok value ∧ other = .ok value' ∧ related value value' := by
  cases same with
  | ok holds => exact .inr ⟨_, _, rfl, rfl, holds⟩
  | error both => exact .inl ⟨_, rfl, rfl⟩

theorem error_iff (same : Corresponds shared related step other) (fault : ε) :
    step = .error fault ↔ other = .error fault := by
  cases same with
  | ok holds => simp
  | error both => simp

theorem of_ok (same : Corresponds shared related step other) {value : α}
    (done : step = .ok value) : ∃ value', other = .ok value' ∧ related value value' := by
  cases same with
  | ok holds =>
    cases done
    exact ⟨_, rfl, holds⟩
  | error both => cases done

end Corresponds

/-- Whether a computation succeeds wherever another one does, with related values. -/
def Follows {ε α β : Type} (related : α → β → Prop) (step : Except ε α) (other : Except ε β) : Prop :=
  ∀ value, step = .ok value → ∃ value', other = .ok value' ∧ related value value'

namespace Follows

variable {ε α β γ δ : Type} {related : α → β → Prop} {linked : γ → δ → Prop}
  {step : Except ε α} {other : Except ε β}

theorem ok {value : α} {value' : β} (holds : related value value') :
    Follows related (.ok value : Except ε α) (.ok value') := by
  rintro _ ⟨⟩
  exact ⟨value', rfl, holds⟩

theorem error {fault : ε} : Follows related (.error fault) other := by
  rintro _ ⟨⟩

theorem refl {related : α → α → Prop} (self : ∀ value, related value value) (step : Except ε α) :
    Follows related step step :=
  fun value done => ⟨value, done, self value⟩

theorem bind (follows : Follows related step other) {next : α → Except ε γ} {next' : β → Except ε δ}
    (rest : ∀ value value', related value value' → Follows linked (next value) (next' value')) :
    Follows linked (step >>= next) (other >>= next') := by
  cases step with
  | ok value =>
    obtain ⟨value', rfl, holds⟩ := follows value rfl
    exact rest _ _ holds
  | error fault => exact error

end Follows

theorem toOption_eq_some {ε α : Type} {outcome : Except ε α} {value : α} :
    outcome.toOption = some value ↔ outcome = .ok value := by
  cases outcome <;> simp [Except.toOption]

theorem forall_mem_of_forall₂ {α β : Type} {related : α → β → Prop} {property : α → Prop}
    {values : List α} {others : List β} (alike : List.Forall₂ related values others)
    (implies : ∀ value, ∀ other ∈ others, related value other → property value) :
    ∀ value ∈ values, property value := by
  induction alike with
  | nil => simp
  | cons first rest ih =>
    rw [forall_mem_cons]
    exact ⟨implies _ _ mem_cons_self first,
      ih fun value other mem => implies _ _ (mem_cons_of_mem _ mem)⟩

theorem mapM_eq_map {ε α β : Type} {step : α → Except ε β} {image : α → β} {items : List α}
    (each : ∀ item ∈ items, step item = .ok (image item)) :
    items.mapM step = .ok (items.map image) := by
  induction items with
  | nil => rfl
  | cons item items ih =>
    rw [forall_mem_cons] at each
    rw [mapM_cons, each.1, ih each.2]
    rfl

theorem lookup_of_mem {α β : Type} [BEq α] [LawfulBEq α] {entries : List (α × β)} {name : α}
    {value : β} (distinct : (entries.map Prod.fst).Nodup) (mem : (name, value) ∈ entries) :
    entries.lookup name = some value := by
  obtain ⟨before, later, rfl⟩ := append_of_mem mem
  refine lookup_eq_some_iff.mpr ⟨before, later, rfl, ?_⟩
  intro entry earlier
  rw [map_append, nodup_append] at distinct
  have different := distinct.2.2 entry.1 (mem_map_of_mem earlier) name (by simp)
  simpa [bne_iff_ne] using different.symm

/-- What a row of a source holds in each column it has. -/
abbrev Record (domain : Domain) := String → Option (Cell domain)

def Record.ofRow (row : Row domain) : Record domain :=
  fun col => some (.ofStored (row col))

/-- One row of the result of a query, with the names of its columns. -/
abbrev Result (domain : Domain) := List (Option String × Cell domain)

def Record.ofResult (result : Result domain) : Record domain :=
  fun col => result.lookup (some col)

/-- What names mean in a place of a statement. -/
structure Scope (domain : Domain) where
  sources : List (String × Record domain)
  defined : List (String × List (Record domain))

namespace Scope

def empty : Scope domain := ⟨[], []⟩

def enter (scope : Scope domain) (name : String) (record : Record domain) : Scope domain :=
  { scope with sources := (name, record) :: scope.sources }

def define (scope : Scope domain) (name : String) (records : List (Record domain)) : Scope domain :=
  { scope with defined := (name, records) :: scope.defined }

def column (scope : Scope domain) (ref : ColumnRef) : Except Failure (Cell domain) :=
  match scope.sources.lookup ref.source with
  | none => .error (.unknownSource ref.source)
  | some record =>
    match record ref.column with
    | none => .error (.unknownColumn ref.column)
    | some cell => .ok cell

/-- The cell of a column of the innermost source. -/
def bare (scope : Scope domain) (name : String) : Except Failure (Cell domain) :=
  match scope.sources.head? with
  | none => .error (.unknownColumn name)
  | some (source, _) => scope.column ⟨source, name⟩

/-- The sort key of a row in an order. -/
def key (scope : Scope domain) (order : List OrderTerm) : Except Failure (List (Cell domain)) :=
  order.mapM fun term =>
    match term.source with
    | some source => scope.column ⟨source, term.column⟩
    | none => scope.bare term.column

/-- Whether an order puts one row strictly before another. -/
def Precedes (order : List OrderTerm) (earlier later : Scope domain) : Prop :=
  ∃ first second, earlier.key order = .ok first ∧ later.key order = .ok second ∧
    compareKeys (order.map OrderTerm.direction) first second = .lt

/-- Whether a name stands for a row of a table. -/
def Binds (scope : Scope domain) (name : String) (row : Row domain) : Prop :=
  scope.sources.lookup name = some (Record.ofRow row)

variable {scope : Scope domain} {name other : String} {row : Row domain}

theorem Binds.column (binds : scope.Binds name row) (field : String) :
    scope.column ⟨name, field⟩ = .ok (.ofStored (row field)) := by
  simp only [Scope.column]
  rw [binds]
  rfl

theorem binds_enter (scope : Scope domain) (name : String) (row : Row domain) :
    (scope.enter name (Record.ofRow row)).Binds name row := by
  simp [Binds, enter]

theorem Binds.enter (binds : scope.Binds name row) (apart : name ≠ other)
    (record : Record domain) : (scope.enter other record).Binds name row := by
  simpa [Binds, Scope.enter, lookup_cons, beq_eq_false_iff_ne.mpr apart] using binds

end Scope

/-- Where an expression is evaluated: the scope, the rows of the group if the query aggregates, the
number of rows before the limit, and the number of the row in an order. -/
structure Place (domain : Domain) where
  scope : Scope domain
  group? : Option (List (Scope domain))
  size : Nat
  number : List OrderTerm → Except Failure Nat

namespace Place

/-- The rows an aggregate ranges over. -/
def group (place : Place domain) : Except Failure (List (Scope domain)) :=
  match place.group? with
  | some scopes => .ok scopes
  | none => .error .misplacedAggregate

def inside (place : Place domain) (scope : Scope domain) : Place domain :=
  { place with scope, group? := none }

end Place

mutual

/-- Whether an expression aggregates the rows of its query. -/
def Expr.aggregates : Expr → Bool
  | .countRows | .arrayOf _ | .exceeds _ _ => true
  | .object members => membersAggregate members
  | .asText value | .grouped value => value.aggregates
  | _ => false

def membersAggregate : List (String × Expr) → Bool
  | [] => false
  | (_, value) :: members => value.aggregates || membersAggregate members

end

def Source.name : Source → String
  | .table _ aliasName => aliasName
  | .rows name => name

def Source.records (store : Store) (scope : Scope store) :
    Source → Except Failure (List (Record store))
  | .table name _ => .ok ((store.rows name).map Record.ofRow)
  | .rows name =>
    match scope.defined.lookup name with
    | some records => .ok records
    | none => .error (.unknownSource name)

/-- The items that pass a test. -/
def keep {α : Type} (test : α → Except Failure Bool) : List α → Except Failure (List α)
  | [] => .ok []
  | item :: items => do
      let kept ← test item
      let others ← keep test items
      return if kept then item :: others else others

theorem keep_eq_filter {α : Type} {test : α → Except Failure Bool} {verdict : α → Bool}
    {items : List α} (each : ∀ item ∈ items, test item = .ok (verdict item)) :
    keep test items = .ok (items.filter verdict) := by
  induction items with
  | nil => rfl
  | cons item items ih =>
    rw [forall_mem_cons] at each
    rw [keep, each.1, ih each.2]
    cases kept : verdict item <;> simp [kept]

theorem keep_map {α β : Type} (test : β → Except Failure Bool) (image : α → β) (items : List α) :
    keep test (items.map image) = (keep (fun item => test (image item)) items).map (map image) := by
  induction items with
  | nil => rfl
  | cons item items ih =>
    rw [map_cons, keep, keep, ih]
    cases test _ with
    | error failure => rfl
    | ok passes => cases keep (fun item => test _) _ <;> cases passes <;> rfl

/-- The number that the row at an index has in an order. -/
def rowNumber (store : Store) (scopes : List (Scope store)) (index : Nat)
    (order : List OrderTerm) : Except Failure Nat := do
  let keys ← scopes.mapM (·.key order)
  return (store.numbering.places (order.map OrderTerm.direction) keys).idxOf index + 1

/-- The places of the rows of a query that does not aggregate, before they are arranged. -/
def rowPlaces (store : Store) (scopes : List (Scope store)) :
    List (Place store) :=
  scopes.zipIdx.map fun (scope, index) =>
    { scope, group? := none, size := scopes.length, number := rowNumber store scopes index }

/-- Arrange places in an order; without one they stay as they are. -/
def arrange (store : Store) (places : List (Place store)) :
    Option (List OrderTerm) → Except Failure (List (Place store))
  | none => .ok places
  | some order => do
      let keyed ← places.mapM fun place => do return (← place.scope.key order, place)
      return (store.ordering.sort (order.map OrderTerm.direction) Prod.fst keyed).map Prod.snd

/-- The place of a query that aggregates. Its source stands for no single row there. -/
def groupPlace (scope : Scope domain) (source : String) (scopes : List (Scope domain)) :
    Place domain where
  scope := scope.enter source fun _ => none
  group? := some scopes
  size := 1
  number _ := .ok 1

/-- The places for which a query has a result, before they are cut to the limit. -/
def resultPlaces (store : Store) (scope : Scope store) (source : String)
    (scopes : List (Scope store)) (cols : List (Expr × Option String))
    (order : Option (List OrderTerm)) : Except Failure (List (Place store)) :=
  if cols.any (·.1.aggregates) then .ok [groupPlace scope source scopes]
  else arrange store (rowPlaces store scopes) order

/-- The first items up to a limit. -/
def cut {α : Type} (limit : Option Nat) (items : List α) : List α :=
  match limit with
  | some limit => items.take limit
  | none => items

theorem cut_sublist {α : Type} (limit : Option Nat) (items : List α) :
    (cut limit items).Sublist items := by
  cases limit with
  | none => exact .refl _
  | some limit => exact take_sublist _ _

theorem cut_map {α β : Type} (limit : Option Nat) (image : α → β) (items : List α) :
    cut limit (items.map image) = (cut limit items).map image := by
  cases limit with
  | none => rfl
  | some limit => exact map_take.symm

/-- The cell of a result with one column and at most one row; null without a row. -/
def onlyCell : List (Result domain) → Except Failure (Cell domain)
  | [] => .ok .null
  | [[(_, cell)]] => .ok cell
  | [_] => .error .severalColumns
  | _ => .error .severalRows

mutual

/-- The cell an expression computes. -/
def Expr.eval (store : Store) (place : Place store) :
    Expr → Except Failure (Cell store)
  | .column ref => place.scope.column ref
  | .bare name => place.scope.bare name
  | .text value => .ok (.text value)
  | .one => .ok (.number 1)
  | .countRows => do return .number (← place.group).length
  | .countWindow => .ok (.number place.size)
  | .rowNumber order => do return .number (← place.number order)
  | .object members => do return .document (.object (← evalMembers store place members))
  | .arrayOf item => do
      let items ← (← place.group).mapM fun scope => do
        return (← Expr.eval store (place.inside scope) item).toJson
      return .document (.list items)
  | .asText value => do return (← Expr.eval store place value).asText
  | .never => .ok (.document (.bool false))
  | .anyRow query => do
      return .document (.bool (!(← Query.eval store place.scope query).isEmpty))
  | .exceeds col bound => do
      let cells ← (← place.group).mapM fun scope => scope.column col
      return .document (.bool ((Cell.greatest cells).against bound == some .gt))
  | .subquery query => do onlyCell (← Query.eval store place.scope query)
  | .grouped value => Expr.eval store place value

def evalMembers (store : Store) (place : Place store) :
    List (String × Expr) → Except Failure (List (String × Json))
  | [] => .ok []
  | (key, value) :: members => do
      let cell ← Expr.eval store place value
      let others ← evalMembers store place members
      return (key, cell.toJson) :: others

/-- Whether a condition is true of the row in scope. -/
def Predicate.eval (store : Store) (scope : Scope store) :
    Predicate → Except Failure Truth
  | .isNull col => do return some (← scope.column col).isNull
  | .isNotNull col => do return some (!(← scope.column col).isNull)
  | .equals col value => do return ((← scope.column col).against value).map (· == .eq)
  | .lessThan col value => do return ((← scope.column col).against value).map (· == .lt)
  | .greaterThan col value => do return ((← scope.column col).against value).map (· == .gt)
  | .oneOf col values => do
      let cell ← scope.column col
      return Truth.any (values.map fun value => (cell.against value).map (· == .eq))
  | .joined pairs => do
      let parts ← pairs.mapM fun pair => do
        return (← scope.column pair.1).equal? (← scope.column pair.2)
      return Truth.all parts
  | .existsRow query => do return some (!(← Query.eval store scope query).isEmpty)
  | .all parts => do return Truth.all (← evalParts store scope parts)
  | .any parts => do return Truth.any (← evalParts store scope parts)

def evalParts (store : Store) (scope : Scope store) :
    List Predicate → Except Failure (List Truth)
  | [] => .ok []
  | part :: parts => do
      let truth ← Predicate.eval store scope part
      let others ← evalParts store scope parts
      return truth :: others

def evalColumns (store : Store) (place : Place store) :
    List (Expr × Option String) → Except Failure (Result store)
  | [] => .ok []
  | (value, alias?) :: cols => do
      let cell ← Expr.eval store place value
      let others ← evalColumns store place cols
      return (alias?, cell) :: others

/-- The rows a query yields. -/
def Query.eval (store : Store) (scope : Scope store) :
    Query → Except Failure (List (Result store))
  | .select decl cols source conds order limit => do
      let inner ← match decl with
        | none => pure scope
        | some (name, body) => do
            let results ← Query.eval store scope body
            pure (scope.define name (results.map Record.ofResult))
      let records ← source.records store inner
      let kept ← keep (fun each => (evalParts store each conds).map Truth.hold)
        (records.map (inner.enter source.name))
      let places ← resultPlaces store inner source.name kept cols order
      (cut limit places).mapM fun place => evalColumns store place cols

end

end SelectGraph.Sql
