import SelectGraph.Proofs.Sql.Evaluation
import SelectGraph.Schema.Build

/-!
# Types and their uses

Types are used only after every reference between them has been checked, and nothing is reported
where a use fails.  All uses succeed but one: a query type that is defined under the name of a scalar
which needs no definition is taken for the scalar.
-/

namespace SelectGraph.Schema

open List

open GraphQL (Definition Document FieldDefinition InputDefinition TypeRef)
open Sql (FailsOnly bind_eq_ok toOption_eq_some)

variable {types : List TypeDefinition} {name : String}

/-! ## Steps that do not stop -/

/-- A step gives a result or an error that is reported. -/
abbrev Answers {α : Type} (step : Except SchemaError α) : Prop :=
  FailsOnly (fun error => ∀ role name, error ≠ .stopped role name) step

theorem collectTypes_answers (seen : List String) (decls : List Definition) :
    Answers (collectTypes seen decls) := by
  induction decls generalizing seen with
  | nil => exact .ok _
  | cons decl decls ih =>
    rw [collectTypes]
    refine .bind ?_ fun defined => ?_
    · cases decl <;> simp only [definedName] <;> try split
      all_goals simp [FailsOnly]
    · cases defined with
      | none => exact ih seen
      | some name =>
        dsimp only
        split
        · exact .error (by simp)
        · exact (ih _).bind fun _ => .ok _

theorem atPlace_answers {α : Type} (place : String) (checked : Except ReferenceError α) :
    Answers (atPlace place checked) := by
  cases checked <;> simp [atPlace, FailsOnly]

theorem checkType_answers (types : List TypeDefinition) (type : TypeDefinition) :
    Answers (checkType types type) := by
  unfold checkType
  split
  · exact .forM (fun field => (atPlace_answers _ _).bind fun _ =>
      .forM (fun arg => atPlace_answers _ _) _) _
  · exact .forM (fun field => atPlace_answers _ _) _
  · exact .ok _

theorem checkQuery_answers (types : List TypeDefinition) (name : String) :
    Answers (checkQuery types name) := by
  unfold checkQuery
  split <;> simp [FailsOnly]

theorem accept_answers (doc : Document) : Answers (accept doc) :=
  (collectTypes_answers _ _).bind fun _ => (checkQuery_answers _ _).bind fun _ =>
    .bind (.forM (checkType_answers _) _) fun _ => .ok _

theorem allDefaults_answers (types : List TypeDefinition) : Answers (allDefaults types) := by
  refine .bind (.mapM (fun type => ?_) _) fun _ => .ok _
  split
  · refine .mapM (fun field => .bind (.bind (.mapM (fun arg => ?_) _) fun _ => .ok _)
      fun _ => .ok _) _
    split
    · exact .ok _
    · split
      · exact .ok _
      · exact .error (by simp)
  · exact .ok _

/-! ## Uses of checked types -/

theorem use_of_checkReference {isInput : Bool} {reference : TypeRef}
    (checked : checkReference types isInput reference = .ok ()) :
    ∃ type, use types (if isInput then .input else .output) (typeExpr reference).base = .ok type := by
  induction reference with
  | missing => cases checked
  | list item _ ih => exact ih checked
  | nonNull item _ ih => exact ih checked
  | named name =>
    simp only [checkReference] at checked
    change ∃ type, use types _ name.value = _
    unfold use namedType?
    split at checked
    · next builtin =>
      rw [if_pos builtin]
      cases isInput <;> exact ⟨_, rfl⟩
    · next defined =>
      rw [if_neg defined]
      split at checked
      · cases checked
      · next object found =>
        rw [found]
        cases isInput with
        | false => exact ⟨_, rfl⟩
        | true => cases checked
      · next found =>
        rw [found]
        cases isInput with
        | false => cases checked
        | true => exact ⟨_, rfl⟩
      · next decl notObject notInput found =>
        rw [found]
        cases decl <;> cases isInput <;> first | exact ⟨_, rfl⟩ | simp_all

theorem forM_eq_ok_iff {α : Type} {items : List α} {step : α → Except SchemaError PUnit} :
    items.forM step = .ok () ↔ ∀ item ∈ items, step item = .ok () := by
  induction items with
  | nil => simp [List.forM, pure, Except.pure]
  | cons item items ih =>
    rw [List.forall_mem_cons, ← ih, List.forM_eq_forM, List.forM_cons]
    cases step item <;> simp [bind, Except.bind]

theorem atPlace_eq_ok {place : String} {checked : Except ReferenceError Unit}
    (accepted : atPlace place checked = .ok ()) : checked = .ok () := by
  cases checked with
  | error => cases accepted
  | ok => rfl

theorem mem_of_mem_lastNamed {α : Type} {named : α → String} {value : α} {values : List α}
    (mem : value ∈ lastNamed named values) : value ∈ values := by
  induction values with
  | nil => exact mem
  | cons first values ih =>
    rw [lastNamed] at mem
    split at mem
    · exact mem_cons_of_mem _ (ih mem)
    · rcases mem_cons.mp mem with rfl | later
      · exact mem_cons_self
      · exact mem_cons_of_mem _ (ih later)

/-- Where all references have been checked, the fields of every type can be used. -/
theorem useFields_of_checked (checked : ∀ type ∈ types, checkType types type = .ok ())
    {type : NamedType} (found : namedType? types name = some type) :
    useFields types type.shape = .ok () := by
  rw [namedType?] at found
  split at found
  · cases found
    rfl
  obtain ⟨decl, defined, rfl⟩ := Option.map_eq_some_iff.mp found
  obtain ⟨entry, located, rfl⟩ := Option.map_eq_some_iff.mp defined
  have accepted := checked entry (mem_of_find?_eq_some located)
  unfold checkType at accepted
  have used (isInput : Bool) {reference : TypeRef} {place : String}
      (fits : atPlace place (checkReference types isInput reference) = .ok ()) :
      discard (use types (if isInput then .input else .output) (typeExpr reference).base) =
        .ok () := by
    obtain ⟨type, use⟩ := use_of_checkReference (atPlace_eq_ok fits)
    rw [use]
    rfl
  cases kind : entry.definition with
  | object object =>
    rw [kind] at accepted
    refine forM_eq_ok_iff.mpr fun field mem => ?_
    obtain ⟨given, memGiven, rfl⟩ := mem_map.mp (mem_of_mem_lastNamed mem)
    obtain ⟨_, output, inputs⟩ := bind_eq_ok.mp (forM_eq_ok_iff.mp accepted given memGiven)
    refine bind_eq_ok.mpr ⟨(), forM_eq_ok_iff.mpr fun arg memArgument => ?_, used false output⟩
    obtain ⟨own, memOwn, rfl⟩ := mem_map.mp (mem_of_mem_lastNamed memArgument)
    exact used true (forM_eq_ok_iff.mp inputs own memOwn)
  | input _ _ fields =>
    rw [kind] at accepted
    refine forM_eq_ok_iff.mpr fun field mem => ?_
    obtain ⟨given, memGiven, rfl⟩ := mem_map.mp (mem_of_mem_lastNamed mem)
    exact used true (forM_eq_ok_iff.mp accepted given memGiven)
  | _ => rfl

theorem gather_answers (checked : ∀ type ∈ types, checkType types type = .ok ()) (fuel : Nat)
    (found : List NamedType) (name : String) : Answers (gather types fuel found name) := by
  induction fuel generalizing found name with
  | zero => exact .ok _
  | succ fuel ih =>
    rw [gather]
    split
    · exact .ok _
    · split
      · exact .ok _
      · next type known =>
        rw [useFields_of_checked checked known]
        refine .bind (.ok _) fun _ => .bind ?_ fun _ => .foldlM ih _ _
        unfold checkShape
        split
        · exact .error (by simp)
        · exact .error (by simp)
        · split
          · exact .error (by simp)
          · exact .ok _
        · exact .ok _

/-- A query type that is an object is used as one, unless a scalar has its name. -/
theorem use_query_iff (defined : checkQuery types name = .ok ()) :
    (∃ type, use types .query name = .ok type) ↔ name ∉ builtinScalars := by
  unfold checkQuery at defined
  split at defined
  · next object found =>
    unfold use namedType?
    by_cases builtin : name ∈ builtinScalars
    · simp [builtin, Role.admits]
    · simp [builtin, found, shapeOf, Role.admits]
  · cases defined

theorem accept_eq_ok {doc : Document} (accepted : accept doc = .ok types) :
    checkQuery types (queryTypeName doc) = .ok () ∧
      ∀ type ∈ types, checkType types type = .ok () := by
  obtain ⟨found, -, rest⟩ := bind_eq_ok.mp accepted
  obtain ⟨_, query, rest⟩ := bind_eq_ok.mp rest
  obtain ⟨_, checked, same⟩ := bind_eq_ok.mp rest
  cases same
  exact ⟨query, forM_eq_ok_iff.mp checked⟩

theorem use_query_builtin (builtin : name ∈ builtinScalars) :
    use types .query name = .error (.stopped .query name) := by
  simp [use, namedType?, builtin, Role.admits]

theorem addMeta_answers (found : List NamedType) : Answers (addMeta found) := by
  unfold addMeta
  split <;> simp [FailsOnly]

theorem gatherDefined_answers (checked : ∀ type ∈ types, checkType types type = .ok ()) (fuel : Nat)
    (found : List NamedType) (name : String) : Answers (gatherDefined types fuel found name) := by
  unfold gatherDefined
  split
  · exact .error (by simp)
  · split
    · exact .error (by simp)
    · exact gather_answers checked fuel found name

/-- Types that have been accepted are made a schema, or an error is reported, unless the query type
has the name of a scalar. -/
theorem build_stopped_iff {doc : Document} (accepted : accept doc = .ok types)
    (role : Role) (name : String) :
    build types (queryTypeName doc) = .error (.stopped role name) ↔
      (∃ defaults, allDefaults types = .ok defaults) ∧ role = .query ∧
        name = queryTypeName doc ∧ name ∈ builtinScalars := by
  obtain ⟨query, checked⟩ := accept_eq_ok accepted
  unfold build
  cases given : allDefaults types with
  | error error =>
    refine iff_of_false (fun stopped => ?_) (by simp)
    cases stopped
    exact allDefaults_answers types _ given role name rfl
  | ok defaults =>
    by_cases builtin : queryTypeName doc ∈ builtinScalars
    · rw [use_query_builtin builtin]
      constructor
      · intro stopped
        cases stopped
        exact ⟨⟨defaults, rfl⟩, rfl, rfl, builtin⟩
      · rintro ⟨-, rfl, rfl, -⟩
        rfl
    · obtain ⟨type, used⟩ := (use_query_iff query).mpr builtin
      rw [used]
      refine iff_of_false (fun stopped => ?_) ?_
      · refine FailsOnly.bind (gather_answers checked _ _ _) (fun found => ?_) _ stopped role name rfl
        refine (addMeta_answers found).bind fun found => .bind (.foldlM ?_ _ _) fun _ => .ok _
        exact fun found type => gatherDefined_answers checked _ found type.name
      · rintro ⟨-, -, rfl, found⟩
        exact builtin found

/-- Whatever a document defines, the types of the fields of accepted types can be used as what they
are used as, and none of them is missing; the query type is an object unless a scalar has its name.
So a text is made a schema or refused with an error, except where it defines an object type under the
name of a scalar and makes it the query type. -/
theorem parse_stops_iff (text : String) :
    (∀ document types, accept document = .ok types →
        (∀ name type, namedType? types name = some type → useFields types type.shape = .ok ()) ∧
        ((∃ type, use types .query (queryTypeName document) = .ok type) ↔
          queryTypeName document ∉ builtinScalars)) ∧
      ∀ role name, parse text = .error (.stopped role name) ↔
        ∃ document types, (GraphQL.Source.ofText sourceName text).document = .ok document ∧
          accept document = .ok types ∧ (∃ defaults, allDefaults types = .ok defaults) ∧
            role = .query ∧ name = queryTypeName document ∧ name ∈ builtinScalars := by
  constructor
  · intro document types accepted
    obtain ⟨query, checked⟩ := accept_eq_ok accepted
    exact ⟨fun name type found => useFields_of_checked checked found, use_query_iff query⟩
  · intro role name
    rw [parse]
    cases read : (GraphQL.Source.ofText sourceName text).document with
    | error fault => simp
    | ok document =>
      dsimp only
      rw [ofDocument]
      cases accepted : accept document with
      | error error =>
        refine iff_of_false (fun stopped => ?_) (by simp [accepted])
        cases stopped
        exact accept_answers document _ accepted role name rfl
      | ok types =>
        refine (build_stopped_iff accepted role name).trans ?_
        simp [accepted]

/-- An object type under the name of a scalar, which is the query type. -/
def shadowText : String := "schema { query: Int } type Int { a: String }"

theorem parse_stops_iff_shadow : parse shadowText = .error (.stopped .query "Int") := by
  have read : (do
      let document ← (GraphQL.Source.ofText sourceName shadowText).document.toOption
      let types ← (accept document).toOption
      let _ ← (allDefaults types).toOption
      return queryTypeName document) = some "Int" := by
    decide +kernel
  simp only [Option.bind_eq_bind, Option.bind_eq_some_iff] at read
  obtain ⟨document, read, types, accepted, defaults, given, query⟩ := read
  exact ((parse_stops_iff shadowText).2 .query "Int").mpr
    ⟨document, types, toOption_eq_some.mp read, toOption_eq_some.mp accepted,
      ⟨defaults, toOption_eq_some.mp given⟩, rfl, (Option.some.inj query).symm, by decide⟩

end SelectGraph.Schema
