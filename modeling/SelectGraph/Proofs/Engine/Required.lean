import SelectGraph.Proofs.Engine.Inlining

/-!
# Required variables

A variable whose type excludes null has to be given unless it has a default.  Once the variables are
complete it has a value, which is not null, except if null is given in place of the default; and a
request that passes validation has no such default.  A filter by the value of a required variable
tests for null only if the value is a list with null in it.
-/

namespace SelectGraph

open List

open GraphQL (Document Operation VariableDefinition)
open Sql (bind_eq_ok)

/-- Whether the type of a variable excludes null. -/
def GraphQL.VariableDefinition.IsRequired (decl : VariableDefinition) : Prop :=
  ∃ item start, decl.type = .nonNull item start

/-- Whether a variable has no default, or one that is a literal. -/
def GraphQL.VariableDefinition.Converts (decl : VariableDefinition) : Prop :=
  ∀ value, decl.default? = some value →
    ∃ literal, Literal.ofValue [] value = .ok (some literal)

theorem Literal.ofDigits?_ne_null (digits : String) : ofDigits? digits ≠ some .null := by
  rw [ofDigits?]
  split
  · simp
  · split
    · simp
    · simp

/-- Null is not written, so no constant stands for it. -/
theorem Literal.ofValue_ne_null (value : GraphQL.Value) : ofValue [] value ≠ .ok (some .null) := by
  intro read
  cases value with
  | int digits start =>
    rw [ofValue] at read
    split at read
    · rename_i known
      cases read
      exact ofDigits?_ne_null _ known
    · cases read
  | float digits start =>
    rw [ofValue] at read
    split at read <;> cases read
  | list items start =>
    rw [ofValue] at read
    cases given : ofItems [] _ <;> rw [given] at read <;> cases read
  | object fields start =>
    rw [ofValue] at read
    cases given : ofFields [] _ <;> rw [given] at read <;> cases read
  | _ => cases read

/-! ## Completed variables -/

namespace Tree

variable {env other : Environment} {decl : VariableDefinition}
  {decls : List VariableDefinition}

/-- Whether an environment has the values of another one, and beyond them none that is null. -/
structure Completes (env other : Environment) : Prop where
  keeps : ∀ {name literal}, env.lookup name = some literal → other.lookup name = some literal
  adds : ∀ {name literal}, other.lookup name = some literal →
    env.lookup name = some literal ∨ literal ≠ .null

theorem Completes.refl (env : Environment) : Completes env env :=
  ⟨id, .inl⟩

theorem Completes.trans {last : Environment} (first : Completes env other)
    (second : Completes other last) : Completes env last := by
  constructor
  · intro name literal known
    exact second.keeps (first.keeps known)
  · intro name literal known
    rcases second.adds known with earlier | given
    · exact first.adds earlier
    · exact .inr given

theorem Completes.append {name : String} {literal : Literal} (given : literal ≠ .null) :
    Completes env (env ++ [(name, literal)]) := by
  constructor
  · intro key value known
    rw [lookup_append, known]
    rfl
  · intro key value known
    rw [lookup_append] at known
    cases found : env.lookup key with
    | some earlier =>
      rw [found] at known
      exact .inl known
    | none =>
      rw [found, lookup_cons] at known
      split at known
      · cases known
        exact .inr given
      · cases known

theorem completeOne_completes (completed : completeOne env decl = .ok other) :
    Completes env other ∧
      (decl.Converts → decl.default? ≠ none →
        other.lookup decl.name.value ≠ none) := by
  rw [completeOne] at completed
  split at completed
  · rename_i value unset default
    split at completed
    · cases completed
    · rename_i read
      cases completed
      constructor
      · apply Completes.append
        rintro rfl
        exact Literal.ofValue_ne_null _ read
      · simp [lookup_append]
    · rename_i absent
      cases completed
      refine ⟨.refl _, ?_⟩
      intro converts
      obtain ⟨literal, read⟩ := converts _ default
      cases absent.symm.trans read
  · rename_i known
    cases completed
    refine ⟨.refl _, ?_⟩
    intro _ default unset
    obtain ⟨value, given⟩ := Option.ne_none_iff_exists'.mp default
    exact known _ unset given

theorem foldlM_completes (completed : decls.foldlM completeOne env = .ok other) :
    Completes env other ∧
      ∀ decl ∈ decls, decl.Converts → decl.default? ≠ none →
        other.lookup decl.name.value ≠ none := by
  induction decls generalizing env with
  | nil =>
    cases completed
    exact ⟨.refl _, forall_mem_nil _⟩
  | cons first decls ih =>
    obtain ⟨next, completedOne, rest⟩ := bind_eq_ok.mp completed
    obtain ⟨completesOne, firstSet⟩ := completeOne_completes completedOne
    obtain ⟨completes, othersSet⟩ := ih rest
    refine ⟨completesOne.trans completes, forall_mem_cons.mpr ⟨?_, othersSet⟩⟩
    intro converts default
    obtain ⟨literal, known⟩ := Option.ne_none_iff_exists'.mp (firstSet converts default)
    rw [completes.keeps known]
    exact Option.some_ne_none _

theorem exists_completed (converts : ∀ decl ∈ decls, decl.Converts)
    (env : Environment) :
    ∃ other, decls.foldlM completeOne env = .ok other := by
  induction decls generalizing env with
  | nil => exact ⟨env, rfl⟩
  | cons first decls ih =>
    obtain ⟨firstConverts, others⟩ := forall_mem_cons.mp converts
    have step : ∃ next, completeOne env first = .ok next := by
      rw [completeOne]
      split
      · rename_i value _ default
        obtain ⟨literal, read⟩ := firstConverts _ default
        rw [read]
        exact ⟨_, rfl⟩
      · exact ⟨env, rfl⟩
    obtain ⟨next, completed⟩ := step
    rw [foldlM_cons, completed]
    exact ih others next

end Tree

/-! ## Defaults of required variables -/

namespace Validation

variable {schema : Schema}

theorem defaultFaults_ne_nil {decl : VariableDefinition} (required : decl.IsRequired)
    (default : decl.default? ≠ none) : defaultFaults schema decl ≠ [] := by
  obtain ⟨item, start, type⟩ := required
  obtain ⟨value, given⟩ := Option.ne_none_iff_exists'.mp default
  simp [defaultFaults, type, given, resolve?]

theorem variableFaults_eq_nil {seen : List GraphQL.Name} {decls : List VariableDefinition}
    (clean : variableFaults schema seen decls = []) {decl : VariableDefinition}
    (mem : decl ∈ decls) : defaultFaults schema decl = [] := by
  induction decls generalizing seen with
  | nil => cases mem
  | cons first decls ih =>
    simp only [variableFaults, append_eq_nil_iff] at clean
    rcases mem_cons.mp mem with rfl | later
    · exact clean.1.1.1.1.1
    · exact ih clean.2 later

theorem definitionsFaults_eq_nil {doc : Document} {alone : Bool} {met : Met}
    {decls : List GraphQL.Definition} {progress : Progress}
    (clean : ((definitionsFaults schema doc alone met decls).run progress).1 = [])
    {op : Operation} (mem : .operation op ∈ decls) :
    variableFaults schema [] op.variableDefinitions = [] := by
  induction decls generalizing met progress with
  | nil => cases mem
  | cons first decls ih =>
    cases first with
    | operation own =>
      obtain ⟨front, rest⟩ := append_eq_nil_iff.mp clean
      obtain ⟨-, front⟩ := append_eq_nil_iff.mp front
      rcases mem_cons.mp mem with same | later
      · cases same
        simp only [append_eq_nil_iff] at front
        exact front.1.1.1
      · exact ih rest later
    | fragment frag =>
      rcases mem_cons.mp mem with same | later
      · cases same
      · exact ih (append_eq_nil_iff.mp clean).2 later
    | _ =>
      rcases mem_cons.mp mem with same | later
      · cases same
      · exact ih (append_eq_nil_iff.mp clean).2 later

/-- A document without faults gives no default to a required variable. -/
theorem default_of_required {doc : Document} (clean : faults schema doc = [])
    {op : Operation} (mem : op ∈ doc.operations) {decl : VariableDefinition}
    (declared : decl ∈ op.variableDefinitions) (required : decl.IsRequired) :
    decl.default? = none := by
  have listed : .operation op ∈ doc.definitions := by
    obtain ⟨entry, listed, same⟩ := mem_filterMap.mp mem
    split at same <;> cases same
    exact listed
  have found := definitionsFaults_eq_nil (append_eq_nil_iff.mp clean).1 listed
  by_contra default
  exact defaultFaults_ne_nil required default (variableFaults_eq_nil found declared)

end Validation

/-! ## Tests for null -/

namespace Plan

theorem isNull_not_mem_arguments (values : List Literal) :
    .code " IS NULL" ∉ Sql.separated "," (values.map fun value => [.argument value]) := by
  induction values with
  | nil => simp [Sql.separated]
  | cons value values ih =>
    cases values with
    | nil => simp [Sql.separated]
    | cons next values => simpa [Sql.separated] using ih

theorem isNull_not_mem_oneOf (col : Sql.ColumnRef) (values : List Literal) :
    .code " IS NULL" ∉ (Sql.Predicate.oneOf col values).pieces := by
  cases values with
  | nil => simp [Sql.Predicate.pieces]
  | cons value values =>
    rw [Sql.pieces_oneOf (cons_ne_nil _ _)]
    simp [Sql.ColumnRef.pieces, isNull_not_mem_arguments _, - map_cons]

theorem isNull_mem_isNull (col : Sql.ColumnRef) :
    .code " IS NULL" ∈ (Sql.Predicate.isNull col).pieces := by
  simp [Sql.Predicate.pieces]

/-- The condition of a filter tests for null just if it asks for null, alone or in a list. -/
theorem filterPredicate_isNull_iff {col : Sql.ColumnRef} {name : String} {value : Literal}
    {pred : Sql.Predicate} (built : filterPredicate col name value = .ok pred) :
    .code " IS NULL" ∈ pred.pieces ↔
      value = .null ∨ ∃ items, value = .list items ∧ .null ∈ items := by
  have listed (items : List _) : .null ∈ items ↔ items.any Literal.isNull = true := by
    simp [isNull_iff]
  obtain ⟨rfl, rfl⟩ | ⟨scalar, rfl⟩ | ⟨items, scalars, rfl, -, cases⟩ :=
    filterPredicate_eq_ok built
  · exact iff_of_true (isNull_mem_isNull _) (.inl rfl)
  · refine iff_of_false ?_ ?_
    · simp [Sql.Predicate.pieces, Sql.comparison, Sql.ColumnRef.pieces]
    · rintro (rfl | ⟨items, rfl, -⟩) <;> cases scalar
  · simp only [reduceCtorEq, false_or, Literal.list.injEq, exists_eq_left', listed]
    obtain ⟨noNull, rfl⟩ | ⟨someNull, -, rfl⟩ | ⟨someNull, -, rfl⟩ := cases
    · simp [noNull, isNull_not_mem_oneOf]
    · exact iff_of_true (isNull_mem_isNull _) someNull
    · refine iff_of_true ?_ someNull
      rw [Sql.Predicate.pieces]
      · simp [Sql.predicatePieces, Sql.separated, isNull_mem_isNull]
      · exact cons_ne_nil _ _

end Plan

/-! ## Accepted requests -/

namespace Engine

theorem check_eq_ok {model : Model} {analysis : Request.Analysis} {doc : Document}
    {op : Operation} {supplied : Environment}
    (checked : check model analysis doc op = .ok supplied) :
    Validation.faults model.schema doc = [] := by
  unfold check at checked
  simp only at checked
  split at checked
  · cases checked
  · split at checked
    · cases checked
    · rename_i sound
      simpa using sound

theorem lookup_of_required {op : Operation} {supplied : Environment}
    (accepted : missingVariable? op supplied = none) {decl : VariableDefinition}
    (declared : decl ∈ op.variableDefinitions) (required : decl.IsRequired)
    (noDefault : decl.default? = none) :
    ∃ literal, supplied.lookup decl.name.value = some literal ∧ literal ≠ .null := by
  obtain ⟨item, start, type⟩ := required
  have given := find?_eq_none.mp accepted _ declared
  cases found : supplied.lookup _ with
  | none => simp [type, noDefault, found] at given
  | some literal =>
    refine ⟨literal, rfl, ?_⟩
    rintro rfl
    simp [type, noDefault, found] at given

/-- If the required variables are accepted and the defaults are literals, the variables can be
completed.  Each required variable then has a value, which is not null unless null was given in place
of a default.  In a request that has been checked it is never null, and a filter by it tests for null
just if it is a list with null in it. -/
theorem required_variables_given (operation : Operation) (supplied : Environment)
    (accepted : missingVariable? operation supplied = none) :
    ((∀ definition ∈ operation.variableDefinitions, definition.Converts) →
      ∃ environment, Tree.completeVariables operation supplied = .ok environment) ∧
    ∀ environment, Tree.completeVariables operation supplied = .ok environment →
      ∀ definition ∈ operation.variableDefinitions, definition.IsRequired → definition.Converts →
        ∃ literal, environment.lookup definition.name.value = some literal ∧
          ((definition.default? ≠ none → supplied.lookup definition.name.value ≠ some .null) →
            literal ≠ .null) ∧
          ∀ model analysis document, operation ∈ document.operations →
            check model analysis document operation = .ok supplied →
            literal ≠ .null ∧ ∀ column argument predicate,
              Plan.filterPredicate column argument literal = .ok predicate →
                (.code " IS NULL" ∈ predicate.pieces ↔
                  ∃ items, literal = .list items ∧ .null ∈ items) := by
  refine ⟨fun converts => Tree.exists_completed converts supplied, ?_⟩
  intro environment completed definition declared required converts
  obtain ⟨completes, set⟩ := Tree.foldlM_completes completed
  have given : ∃ literal, environment.lookup definition.name.value = some literal ∧
      ((definition.default? ≠ none → supplied.lookup definition.name.value ≠ some .null) →
        literal ≠ .null) := by
    by_cases noDefault : definition.default? = none
    · obtain ⟨literal, known, notNull⟩ := lookup_of_required accepted declared required noDefault
      exact ⟨literal, completes.keeps known, fun _ => notNull⟩
    · obtain ⟨literal, known⟩ := Option.ne_none_iff_exists'.mp
        (set definition declared converts noDefault)
      refine ⟨literal, known, ?_⟩
      rintro other rfl
      rcases completes.adds known with earlier | notNull
      · exact other noDefault earlier
      · exact notNull rfl
  obtain ⟨literal, known, notNull⟩ := given
  refine ⟨literal, known, notNull, ?_⟩
  intro model analysis document mem checked
  have noDefault := Validation.default_of_required (check_eq_ok checked) mem declared required
  have different := notNull fun default => absurd noDefault default
  refine ⟨different, ?_⟩
  intro column argument predicate built
  rw [Plan.filterPredicate_isNull_iff built]
  simp [different]

def listedModel : Model :=
  { ratedModel with
    schema.types := [
      ⟨"Query", .object [⟨"films", [⟨"id", .list (.named "Int"), none⟩], .list (.named "Film"), none⟩]⟩,
      ⟨"Film", .object [⟨"id", [], .named "Int", none⟩]⟩, ⟨"Int", .scalar⟩] }

def listedFilms (default? : Option GraphQL.Value) : Operation where
  kind := .query
  name? := none
  variableDefinitions := [⟨⟨"ids", 0⟩, .nonNull (.list (.named ⟨"Int", 0⟩) 0) 0, default?, 0⟩]
  directives := []
  selections := [.field none ⟨"films", 0⟩ [⟨⟨"id", 0⟩, variableValue "ids"⟩] []
    [Plan.renamedField "id" "id" []] 0 0]
  start := 0
  setStart := 0

theorem required_variables_given_listed :
    let supplied : Environment := [("ids", .list [.null, .int 1])]
    missingVariable? (listedFilms none) supplied = none ∧
      check listedModel ⟨default, none, none, some supplied, none⟩ ⟨[.operation (listedFilms none)]⟩
        (listedFilms none) = .ok supplied ∧
      ∃ environment literal, Tree.completeVariables (listedFilms none) supplied = .ok environment ∧
        environment.lookup "ids" = some literal ∧ literal ≠ .null ∧ ∀ column argument predicate,
          Plan.filterPredicate column argument literal = .ok predicate →
            (.code " IS NULL" ∈ predicate.pieces ↔ ∃ items, literal = .list items ∧ .null ∈ items) := by
  intro supplied
  have sound : (Validation.faults listedModel.schema
      ⟨[.operation (listedFilms none)]⟩).isEmpty = true := by
    decide +kernel
  have checked : check listedModel ⟨default, none, none, some supplied, none⟩
      ⟨[.operation (listedFilms none)]⟩ (listedFilms none) = .ok supplied := by
    simp only [check, sound]
    rfl
  have converts : ∀ definition ∈ (listedFilms none).variableDefinitions, definition.Converts := by
    simp [listedFilms, GraphQL.VariableDefinition.Converts]
  have given := required_variables_given (listedFilms none) supplied rfl
  obtain ⟨environment, completed⟩ := given.1 converts
  obtain ⟨literal, known, -, never⟩ := given.2 environment completed _ List.mem_cons_self ⟨_, _, rfl⟩
    (converts _ List.mem_cons_self)
  obtain ⟨notNull, tests⟩ := never _ _ _ List.mem_cons_self checked
  exact ⟨rfl, checked, environment, literal, completed, known, notNull, tests⟩

/-- Null in place of a default is kept, and a filter by a list with null in it tests for null. -/
theorem null_for_required_variable :
    missingVariable? (listedFilms (some (.list [] 0))) [("ids", .null)] = none ∧
      Tree.completeVariables (listedFilms (some (.list [] 0))) [("ids", .null)] =
        .ok [("ids", .null)] ∧
      missingVariable? (listedFilms none) [("ids", .list [.null])] = none ∧
      Tree.completeVariables (listedFilms none) [("ids", .list [.null])] =
        .ok [("ids", .list [.null])] ∧
      Plan.filterPredicate ⟨"films-1", "id"⟩ "id" (.list [.null]) = .ok (.isNull ⟨"films-1", "id"⟩) :=
  ⟨rfl, rfl, rfl, rfl, rfl⟩

end Engine

end SelectGraph
