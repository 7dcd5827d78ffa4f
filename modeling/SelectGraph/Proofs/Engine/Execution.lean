import SelectGraph.Engine.Serve
import SelectGraph.Proofs.Database.Flights
import SelectGraph.Proofs.Plan.Keys
import SelectGraph.Proofs.Plan.Simulation
import SelectGraph.Proofs.Response.Body
import SelectGraph.Proofs.Tree.Collected

/-!
# Answering a request with all its data or none

A prepared request is answered with data only if every statement delivers a value that is JSON.  The
body then holds these values under the response names of the request, in the order of its text.
-/

namespace SelectGraph.Engine

open List

open Database (FetchError Reply replies)
open Request (Analysis)
open Response (RootValue cellJson?)
open Sql (bind_eq_ok)
open Telemetry (Journal Observed)

variable {α : Type} {model : Model} {compiled : List Plan.Statement} {answered : List Reply}
  {values : List (Option String)}

/-! ## Runs -/

/-- What a request gets when its values have been fetched or not. -/
def judged (compiled : List Plan.Statement) :
    Except FetchError (List (Option String)) → Except Failure String
  | .error error => .error (.fetch error)
  | .ok values => bodyOf compiled values

/-- The span that a run leaves does not change what the run gives. -/
theorem endSpan_run (outcome : Except Failure String) (failed : Failure → Telemetry.Span)
    (sound : Telemetry.Span) (journal : Journal) :
    ((match outcome with
      | .error failure => do
          Observed.endSpan (failed failure)
          return outcome
      | .ok _ => do
          Observed.endSpan sound
          return outcome : Observed (Except Failure String)).run journal).1 = outcome := by
  cases outcome with
  | error failure => rfl
  | ok body => rfl

/-! ## Prepared requests -/

theorem mapError_eq_ok {ε ε' : Type} {convert : ε → ε'} {step : Except ε α} {value : α} :
    step.mapError convert = .ok value ↔ step = .ok value := by
  cases step with
  | error error => simp [Except.mapError]
  | ok value => simp [Except.mapError]

theorem map_eq_ok {ε β : Type} {image : α → β} {step : Except ε α} {value : β} :
    step.map image = .ok value ↔ ∃ found, step = .ok found ∧ image found = value := by
  cases step with
  | error error => simp [Except.map]
  | ok found => simp [Except.map]

/-- A request is refused, or its document and operation pass the check.  Then it is a question about
the schema or it is compiled, by what its root selects. -/
theorem prepare_cases (model : Model) (analysis : Analysis) :
    (∃ rejection, prepare model analysis = .error (.rejected rejection)) ∨
      ∃ doc selected supplied, analysis.document? = some doc ∧
        analysis.selected? = some selected ∧
        check model analysis doc selected.operation = .ok supplied ∧
        ((rootKinds doc selected.operation.selections).hasMeta = true ∧
            (rootKinds doc selected.operation.selections).hasData = false ∧
            prepare model analysis = .ok (.question doc selected.operation supplied) ∨
          (rootKinds doc selected.operation.selections).hasMeta = false ∧
            prepare model analysis =
              (compileOperation model doc selected.operation supplied).map .statements) := by
  generalize made : prepare _ _ = outcome
  simp only [prepare, Sql.error_bind, throw, throwThe, MonadExceptOf.throw] at made
  split at made
  · exact .inl ⟨_, made.symm⟩
  · split at made
    · exact .inl ⟨_, made.symm⟩
    · split at made
      · exact .inl ⟨_, made.symm⟩
      · exact .inl ⟨_, made.symm⟩
      · split at made
        · next doc selected shown chosen =>
            cases checked : check _ _ _ _ with
            | error rejection =>
              rw [checked] at made
              exact .inl ⟨rejection, made.symm⟩
            | ok supplied =>
              rw [checked] at made
              simp only [Except.mapError, Sql.ok_bind] at made
              split at made
              · exact .inl ⟨_, made.symm⟩
              · next apart =>
                  refine .inr ⟨doc, selected, supplied, shown, chosen, checked, ?_⟩
                  split at made
                  · next asks => exact .inl ⟨asks, by simpa [asks] using apart, made.symm⟩
                  · next tables =>
                      refine .inr ⟨by simpa using tables, made.symm.trans ?_⟩
                      cases compileOperation _ _ _ _ with
                      | error failure => rfl
                      | ok compiled => rfl
        · exact .inl ⟨_, made.symm⟩

theorem prepare_statements {analysis : Analysis}
    (prepared : prepare model analysis = .ok (.statements compiled)) :
    ∃ doc selected supplied, analysis.document? = some doc ∧
      analysis.selected? = some selected ∧
      compileOperation model doc selected.operation supplied = .ok compiled := by
  rcases prepare_cases _ _ with ⟨rejection, refused⟩ |
    ⟨doc, selected, supplied, shown, chosen, -, ⟨-, -, asked⟩ | ⟨-, compiles⟩⟩
  · cases prepared.symm.trans refused
  · cases prepared.symm.trans asked
  · obtain ⟨found, made, same⟩ := map_eq_ok.mp (compiles.symm.trans prepared)
    cases same
    exact ⟨doc, selected, supplied, shown, chosen, made⟩

theorem prepare_eq_ok {analysis : Analysis} {doc : GraphQL.Document}
    {selected : Request.Selected} {supplied : Environment} (sound : analysis.failure? = none)
    (filled : analysis.isEmpty = false) (shown : analysis.document? = some doc)
    (chosen : analysis.selected? = some selected)
    (checked : check model analysis doc selected.operation = .ok supplied)
    (tables : (rootKinds doc selected.operation.selections).hasMeta = false)
    (made : compileOperation model doc selected.operation supplied = .ok compiled) :
    prepare model analysis = .ok (.statements compiled) := by
  simp [prepare, sound, filled, shown, chosen, checked, tables, made, Except.mapError]

theorem mapM_compile_names {src : Plan.Sources} {roots : List Tree.Root}
    (made : roots.mapM (Plan.compile src) = .ok compiled) :
    compiled.map Plan.Statement.responseName = roots.map fun root => root.head.responseName := by
  induction roots generalizing compiled with
  | nil =>
    cases made
    rfl
  | cons root roots ih =>
    rw [mapM_cons] at made
    obtain ⟨stmt, first, rest⟩ := bind_eq_ok.mp made
    obtain ⟨others, later, same⟩ := bind_eq_ok.mp rest
    obtain ⟨rel, -, built⟩ := bind_eq_ok.mp first
    cases same
    cases built
    rw [map_cons, map_cons, ih later]

theorem compileOperation_names {doc : GraphQL.Document} {op : GraphQL.Operation}
    {supplied : Environment}
    (made : compileOperation model doc op supplied = .ok compiled) :
    ∃ env names, Tree.completeVariables op supplied = .ok env ∧
      Tree.Lists doc env op.selections names ∧
      compiled.map Plan.Statement.responseName = names.eraseDups ∧
      (compiled.map Plan.Statement.responseName).Nodup := by
  obtain ⟨env, completed, built⟩ := bind_eq_ok.mp made
  obtain ⟨roots, trees, compiles⟩ := bind_eq_ok.mp built
  rw [mapError_eq_ok] at completed trees compiles
  obtain ⟨fields, collected, sameNames, -⟩ := Tree.build_keys trees
  obtain ⟨names, listed, order⟩ := Tree.collect_responseNames collected
  have shown := (mapM_compile_names compiles).trans sameNames
  refine ⟨env, names, completed, listed, shown.trans order, ?_⟩
  rw [shown]
  exact Tree.collect_responseNames_nodup collected

/-! ## Replies to the statements of a request -/

/-- The reply delivers a value that is JSON. -/
def DeliversJson (reply : Reply) (json : Json) : Prop :=
  ∃ value, reply.Delivers value ∧ cellJson? value = some json

theorem DeliversJson.unique {reply : Reply} {json other : Json} (delivers : DeliversJson reply json)
    (again : DeliversJson reply other) : json = other := by
  obtain ⟨value, delivers, isJson⟩ := delivers
  obtain ⟨same, again, isOther⟩ := again
  have fetched := (delivers.outcome_eq "").symm.trans (again.outcome_eq "")
  cases fetched
  exact Option.some.inj (isJson.symm.trans isOther)

theorem forall_exists_iff {β : Type} {linked : α → β → Prop} {items : List α} :
    (∀ item ∈ items, ∃ image, linked item image) ↔ ∃ images, List.Forall₂ linked items images := by
  induction items with
  | nil => simp
  | cons item items ih =>
    rw [forall_mem_cons, ih]
    constructor
    · rintro ⟨⟨image, first⟩, images, rest⟩
      exact ⟨image :: images, .cons first rest⟩
    · rintro ⟨images, linkedAll⟩
      cases linkedAll with
      | cons first rest => exact ⟨⟨_, first⟩, _, rest⟩

theorem exists_deliversJson {reply : Reply} :
    (∃ json, DeliversJson reply json) ↔
      ∃ value, reply.Delivers value ∧ (cellJson? value).isSome := by
  constructor
  · rintro ⟨json, value, delivers, isJson⟩
    exact ⟨value, delivers, by rw [isJson]; rfl⟩
  · rintro ⟨value, delivers, isJson⟩
    obtain ⟨json, found⟩ := Option.isSome_iff_exists.mp isJson
    exact ⟨json, value, delivers, found⟩

/-- Why a request gets no data: a statement fails in the database, or all of them deliver and a value
is no JSON. -/
inductive Refused (compiled : List Plan.Statement) (answered : List Reply) : Failure → Prop
  | database {index : Nat} {stmt : Plan.Statement} {reply : Reply} {error : FetchError}
      (asked : compiled[index]? = some stmt) (given : answered[index]? = some reply)
      (fails : reply.Fails stmt.responseName error) : Refused compiled answered (.fetch error)
  | invalid {index : Nat} {stmt : Plan.Statement} {reply : Reply} {value : Option String}
      (all : ∀ other ∈ answered, ∃ value, other.Delivers value)
      (asked : compiled[index]? = some stmt) (given : answered[index]? = some reply)
      (delivers : reply.Delivers value) (noJson : cellJson? value = none) :
      Refused compiled answered (.invalidValue stmt.responseName)

theorem Refused.not_delivered {failure : Failure} (refused : Refused compiled answered failure) :
    ¬ ∃ jsons, List.Forall₂ DeliversJson answered jsons := by
  rintro ⟨jsons, all⟩
  have each : ∀ (index : Nat) reply, answered[index]? = some reply →
      ∃ json, DeliversJson reply json := by
    intro index reply given
    obtain ⟨inside, rfl⟩ := List.getElem?_eq_some_iff.mp given
    exact ⟨_, (List.forall₂_iff_get.mp all).2 _ _ (all.length_eq ▸ inside)⟩
  cases refused with
  | @database index stmt reply error asked given fails =>
    obtain ⟨json, value, delivers, -⟩ := each _ _ given
    have fetched := delivers.outcome_eq stmt.responseName
    rw [fails.outcome_eq] at fetched
    cases fetched
  | @invalid index stmt reply value all asked given delivers noJson =>
    obtain ⟨json, other, again, isJson⟩ := each _ _ given
    cases (delivers.outcome_eq "").symm.trans (again.outcome_eq "")
    rw [noJson] at isJson
    cases isJson

/-- Fetched values are those the replies deliver. -/
theorem delivers_of_fetched {commands : List Database.Command}
    (length : answered.length = commands.length)
    (fetched : ((commands.zip answered).map fun (command, reply) => reply.outcome command.field) =
      values.map .ok) : List.Forall₂ Reply.Delivers answered values := by
  induction commands generalizing answered values with
  | nil =>
    cases eq_nil_of_length_eq_zero length
    cases map_eq_nil_iff.mp fetched.symm
    exact .nil
  | cons command commands ih =>
    obtain ⟨reply, answered, rfl⟩ := exists_cons_of_length_eq_add_one length
    cases values with
    | nil => cases fetched
    | cons value values =>
      simp only [zip_cons_cons, map_cons, cons.injEq] at fetched
      simp only [length_cons, Nat.add_right_cancel_iff] at length
      exact .cons (Reply.outcome_eq_ok.mp fetched.1) (ih length fetched.2)

theorem refused_of_failure {index : Nat} {error : FetchError}
    (failed : (((compiled.map commandOf).zip answered).map fun (command, reply) =>
      reply.outcome command.field)[index]? = some (.error error)) :
    Refused compiled answered (.fetch error) := by
  rw [getElem?_map, Option.map_eq_some_iff] at failed
  obtain ⟨⟨command, reply⟩, found, outcome⟩ := failed
  rw [getElem?_zip_eq_some, getElem?_map, Option.map_eq_some_iff] at found
  obtain ⟨⟨stmt, asked, rfl⟩, given⟩ := found
  exact .database asked given (Reply.outcome_eq_error.mp outcome)

/-- The root values that statements deliver. -/
def rootValues (compiled : List Plan.Statement) (values : List (Option String)) : List RootValue :=
  (compiled.zip values).map fun (stmt, value) => ⟨stmt.responseName, value⟩

theorem rootValues_names (length : values.length = compiled.length) :
    (rootValues compiled values).map RootValue.name =
      compiled.map Plan.Statement.responseName := by
  rw [rootValues, map_map]
  change (compiled.zip _).map (Plan.Statement.responseName ∘ Prod.fst) = _
  rw [← map_map, map_fst_zip length.ge]

theorem exists_jsons (values : List RootValue) :
    (∃ jsons, List.Forall₂ (fun value json => value.json? = some json) values jsons) ∨
      ∃ value ∈ values, value.json? = none := by
  by_cases invalid : ∃ value ∈ values, value.json? = none
  · exact .inr invalid
  · left
    simp only [not_exists, not_and] at invalid
    apply forall_exists_iff.mp
    intro value mem
    exact Option.ne_none_iff_exists'.mp (invalid _ mem)

section

variable (delivered : List.Forall₂ Reply.Delivers answered values)

include delivered

theorem deliversJson_of_roots {jsons : List Json} (length : answered.length = compiled.length)
    (valid : List.Forall₂ (fun value json => value.json? = some json) (rootValues compiled values)
      jsons) : List.Forall₂ DeliversJson answered jsons := by
  induction delivered generalizing compiled jsons with
  | nil =>
    simp only [rootValues, zip_nil_right, map_nil, forall₂_nil_left_iff] at valid
    subst valid
    exact .nil
  | cons delivers others ih =>
    obtain ⟨stmt, compiled, rfl⟩ := exists_cons_of_length_eq_add_one length.symm
    cases valid with
    | cons first rest =>
      simp only [length_cons, Nat.add_right_cancel_iff] at length
      exact .cons ⟨_, delivers, first⟩ (ih length rest)

theorem refused_of_root {value : RootValue} (mem : value ∈ rootValues compiled values)
    (noJson : value.json? = none) : Refused compiled answered (.invalidValue value.name) := by
  obtain ⟨⟨stmt, cell⟩, inside, rfl⟩ := List.mem_map.mp mem
  obtain ⟨index, found⟩ := List.mem_iff_getElem?.mp inside
  rw [List.getElem?_zip_eq_some] at found
  obtain ⟨within, same⟩ := List.getElem?_eq_some_iff.mp found.2
  have answers : index < answered.length := delivered.length_eq ▸ within
  have delivers := (List.forall₂_iff_get.mp delivered).2 _ answers within
  have all : ∀ other ∈ answered, ∃ value, other.Delivers value := by
    intro other otherMem
    obtain ⟨place, placed, rfl⟩ := List.mem_iff_getElem.mp otherMem
    exact ⟨_, (List.forall₂_iff_get.mp delivered).2 _ _ (delivered.length_eq ▸ placed)⟩
  simp only [List.get_eq_getElem, same] at delivers
  exact .invalid all found.1 (List.getElem?_eq_getElem _) delivers noJson

/-- Delivered values make a body that stands for all of them, or one of them is no JSON. -/
theorem bodyOf_delivered (length : answered.length = compiled.length) :
    (∃ jsons body, List.Forall₂ DeliversJson answered jsons ∧ bodyOf compiled values = .ok body ∧
      Json.Denotes body (.object [("data",
        .object ((compiled.map Plan.Statement.responseName).zip jsons))])) ∨
      ∃ failure, Refused compiled answered failure ∧ bodyOf compiled values = .error failure := by
  have made : bodyOf _ _ =
      (Response.dataBody (rootValues compiled values)).mapError _ := rfl
  rcases exists_jsons _ with ⟨jsons, valid⟩ | invalid
  · obtain ⟨body, written, denotes⟩ := Response.dataBody_of_json valid
    rw [rootValues_names (delivered.length_eq.symm.trans length)] at denotes
    refine .inl ⟨jsons, body, deliversJson_of_roots delivered length valid, ?_, denotes⟩
    rw [made, written]
    rfl
  · obtain ⟨value, mem, noJson, reported⟩ := Response.dataBody_of_none invalid
    refine .inr ⟨_, refused_of_root delivered mem noJson, ?_⟩
    rw [made, reported]
    rfl

end

/-- Running the statements of a request gives a body that stands for what all of them deliver, or the
reason why one of them does not. -/
theorem run_statements (model : Model) {store : Store} {executor : Database.Executor}
    (available : store.executor? = some executor) (able : store.limit? ≠ some 0)
    (observer : Observer) (analysis : Analysis) (compiled : List Plan.Statement)
    (journal : Journal) :
    let answered := replies store.backend executor store.isCancelled (compiled.map commandOf)
      journal.events
    let outcome := ((run model store observer analysis (.statements compiled)).run journal).1
    (∃ jsons body, List.Forall₂ DeliversJson answered jsons ∧ outcome = .ok body ∧
      Json.Denotes body (.object [("data",
        .object ((compiled.map Plan.Statement.responseName).zip jsons))])) ∨
      ∃ failure, Refused compiled answered failure ∧ outcome = .error failure := by
  intro answered outcome
  have ran : outcome = judged compiled ((Database.fetchAll store.backend executor store.isCancelled
      store.limit? store.schedule (compiled.map commandOf)).run journal.events).1.outcome := by
    simp only [outcome, run, available]
    exact endSpan_run _ _ _ _
  have length : answered.length = (compiled.map _).length := Database.length_inTurn ..
  rw [ran]
  rcases Database.fetchAll_outcome _ _ _ _ _
      _ _ able with
    ⟨values, all, fetched, -⟩ | ⟨flight, error, failure, failed⟩
  · rw [fetched]
    rw [Database.inTurn_fetch] at all
    rw [length_map] at length
    exact bodyOf_delivered (delivers_of_fetched (by rwa [length_map]) all) length
  · rw [failed]
    have own := failure.own
    rw [Database.inTurn_fetch] at own
    exact .inr ⟨_, refused_of_failure own, rfl⟩

/-! ## All or nothing -/

/-- A request is answered with data if and only if every statement runs without a fault and yields at
most one row, whose cell is null or JSON.  The body then is a JSON text for an object with the
response names of the request, each once and in the order of the text, and the values of their
statements.  Otherwise one of the statements says why there is no data at all. -/
theorem execution_all_or_nothing {model : Model} {analysis : Analysis}
    {compiled : List Plan.Statement}
    (prepared : prepare model analysis = .ok (.statements compiled)) {store : Store}
    {executor : Database.Executor} (available : store.executor? = some executor)
    (able : store.limit? ≠ some 0) (observer : Observer) (journal : Journal) :
    let answered := replies store.backend executor store.isCancelled (compiled.map commandOf)
      journal.events
    let outcome := ((run model store observer analysis (.statements compiled)).run journal).1
    let names := compiled.map Plan.Statement.responseName
    ((∃ body, outcome = .ok body) ↔
      ∀ reply ∈ answered, ∃ value, reply.Delivers value ∧ (cellJson? value).isSome) ∧
      (∀ body, outcome = .ok body → ∃ jsons, List.Forall₂ DeliversJson answered jsons ∧
        Json.Denotes body (.object [("data", .object (names.zip jsons))])) ∧
      (names.Nodup ∧ ∃ document selected supplied environment listed,
        analysis.document? = some document ∧ analysis.selected? = some selected ∧
        Tree.completeVariables selected.operation supplied = .ok environment ∧
        Tree.Lists document environment selected.operation.selections listed ∧
        names = listed.eraseDups) ∧
      ∀ failure, outcome = .error failure → Refused compiled answered failure := by
  intro answered outcome names
  have named : names.Nodup ∧ ∃ document selected supplied environment listed,
      analysis.document? = some document ∧ analysis.selected? = some selected ∧
      Tree.completeVariables selected.operation supplied = .ok environment ∧
      Tree.Lists document environment selected.operation.selections listed ∧
      names = listed.eraseDups := by
    obtain ⟨document, selected, supplied, shown, chosen, made⟩ := prepare_statements prepared
    obtain ⟨environment, listed, completed, lists, order, distinct⟩ := compileOperation_names made
    exact ⟨distinct, document, selected, supplied, environment, listed, shown, chosen, completed,
      lists, order⟩
  have delivered_iff : (∀ reply ∈ answered, ∃ value, reply.Delivers value ∧
      (cellJson? value).isSome) ↔ ∃ jsons, List.Forall₂ DeliversJson answered jsons := by
    rw [← forall_exists_iff]
    simp only [exists_deliversJson]
  rw [delivered_iff]
  rcases run_statements model available able observer analysis compiled journal with
    ⟨jsons, body, delivered, given, denotes⟩ | ⟨failure, refused, failed⟩
  · refine ⟨⟨fun _ => ⟨jsons, delivered⟩, fun _ => ⟨body, given⟩⟩, ?_, named, ?_⟩
    · intro other again
      cases given.symm.trans again
      exact ⟨jsons, delivered, denotes⟩
    · intro failure impossible
      cases given.symm.trans impossible
  · refine ⟨⟨?_, fun all => absurd all refused.not_delivered⟩, ?_, named, ?_⟩
    · rintro ⟨body, impossible⟩
      cases failed.symm.trans impossible
    · intro body impossible
      cases failed.symm.trans impossible
    · intro other again
      cases failed.symm.trans again
      exact refused

def shelfModel : Model where
  schema := {
    queryType := "Query"
    types := [
      ⟨"Query", .object [⟨"film", [], .named "Film", none⟩,
        ⟨"films", [], .list (.named "Film"), none⟩]⟩,
      ⟨"Film", .object [⟨"id", [], .named "Int", none⟩]⟩, ⟨"Int", .scalar⟩]
    defaults := [] }
  sources := {
    catalog := {
      tables := [⟨"film", [⟨"id", "int", false⟩], ["id"], [], []⟩]
      typeTables := [("Film", "film")] }
    registry := .empty }

/-- The films, one film, and the films again under the name they had. -/
def shelfOperation : GraphQL.Operation where
  kind := .query
  name? := none
  variableDefinitions := []
  directives := []
  selections := [
    Plan.renamedField "all" "films" [Plan.renamedField "id" "id" []],
    Plan.renamedField "film" "film" [Plan.renamedField "id" "id" []],
    Plan.renamedField "all" "films" [Plan.renamedField "id" "id" []]]
  start := 0
  setStart := 0

def shelfAnalysis : Analysis where
  envelope := { (default : Request.Envelope) with query := "\x7b all: films \x7b id \x7d \x7d" }
  document? := some ⟨[.operation shelfOperation]⟩
  selected? := some (Request.selectedOf ⟨[.operation shelfOperation]⟩ shelfOperation)
  variables? := some []

/-- A database that answers the first query with an empty list and finds no row later. -/
def shelfStore : Store where
  backend := {
    connect? := fun _ => none
    ping? := fun _ => none
    exec? := fun _ _ => none
    query := fun past _ _ =>
      .ok { columns := 1, rows := if past.length ≤ 1 then [[.text "[]"]] else [] } }
  executor? := some .plain
  limit? := some 2

theorem shelf_compile (field name aliasName : String) (isList : Bool) :
    ∃ stmt, Plan.compile shelfModel.sources ⟨⟨field, name, aliasName, ⟨"Film", isList⟩, [], none⟩,
      [.attribute "id" "id"]⟩ = .ok stmt ∧ stmt.responseName = name := by
  obtain ⟨frame, made, id⟩ : ∃ frame,
      Plan.frameOf shelfModel.sources none ⟨field, name, aliasName, ⟨"Film", isList⟩, [], none⟩ =
        .ok frame ∧ frame.column "id" = .ok _ := by
    cases isList with
    | false => exact ⟨_, rfl, rfl⟩
    | true => exact ⟨_, rfl, rfl⟩
  obtain ⟨slots, nodes⟩ : ∃ slots, Plan.compileNodes _ frame []
      [.attribute "id" "id"] = .ok slots := by
    simp [Plan.compileNodes, Plan.compileNode, id, Except.map]
  exact ⟨_, bind_eq_ok.mpr ⟨_, Plan.compileRelation_eq_ok.mpr ⟨frame, slots, made, nodes, rfl⟩, rfl⟩,
    rfl⟩

theorem shelf_prepare : ∃ first second,
    prepare shelfModel shelfAnalysis = .ok (.statements [first, second]) ∧
      first.responseName = "all" ∧ second.responseName = "film" := by
  obtain ⟨first, madeFirst, named⟩ := shelf_compile "films" "all" "films-1" true
  obtain ⟨second, madeSecond, alsoNamed⟩ := shelf_compile "film" "film" "film-2" false
  have sound : (Validation.faults shelfModel.schema ⟨[.operation shelfOperation]⟩).isEmpty = true := by
    decide +kernel
  have checked : check shelfModel shelfAnalysis ⟨[.operation shelfOperation]⟩ shelfOperation =
      .ok [] := by
    simp only [check, sound]
    rfl
  have trees : Tree.build ⟨shelfModel.schema, ⟨[.operation shelfOperation]⟩, []⟩
      shelfOperation.selections = .ok [
        ⟨⟨"films", "all", "films-1", ⟨"Film", true⟩, [], none⟩, [.attribute "id" "id"]⟩,
        ⟨⟨"film", "film", "film-2", ⟨"Film", false⟩, [], none⟩, [.attribute "id" "id"]⟩] := rfl
  have made : compileOperation shelfModel ⟨[.operation shelfOperation]⟩ shelfOperation [] =
      .ok [first, second] := by
    have completed : Tree.completeVariables shelfOperation [] = .ok [] := rfl
    simp only [compileOperation, completed, trees, Except.mapError, Sql.ok_bind, mapM_cons,
      madeFirst, madeSecond]
    rfl
  exact ⟨first, second, prepare_eq_ok rfl rfl rfl rfl checked rfl made, named, alsoNamed⟩

theorem execution_all_or_nothing_shelf : ∃ compiled body,
    prepare shelfModel shelfAnalysis = .ok (.statements compiled) ∧
      ((run shelfModel shelfStore {} shelfAnalysis (.statements compiled)).run {}).1 = .ok body ∧
      Json.Denotes body (.object [("data", .object [("all", .list []), ("film", .null)])]) := by
  obtain ⟨first, second, prepared, named, alsoNamed⟩ := shelf_prepare
  have available : shelfStore.executor? = some .plain := rfl
  obtain ⟨answers, bodies, -, -⟩ :=
    execution_all_or_nothing prepared available (by decide) {} {}
  have answered : replies shelfStore.backend .plain shelfStore.isCancelled
      ([first, second].map commandOf) [] =
        [.ok { columns := 1, rows := [[.text "[]"]] }, .ok { columns := 1, rows := [] }] := rfl
  have brackets : Json.tokens "[]" = [.openBracket, .closeBracket] := by decide
  have empty : DeliversJson (.ok { columns := 1, rows := [[.text "[]"]] }) (.list []) := by
    refine ⟨_, .cell rfl rfl rfl, ?_⟩
    change Json.parse? "[]" = _
    rw [Json.parse?, brackets]
    rfl
  have nothing : DeliversJson (.ok { columns := 1, rows := [] }) .null :=
    ⟨_, .nothing rfl rfl, rfl⟩
  simp only [answered, List.forall_mem_cons, ← exists_deliversJson] at answers bodies
  obtain ⟨body, given⟩ := answers.mpr ⟨⟨_, empty⟩, ⟨_, nothing⟩, by simp⟩
  obtain ⟨jsons, delivered, denotes⟩ := bodies body given
  refine ⟨_, body, prepared, given, ?_⟩
  cases delivered with
  | cons isEmpty rest =>
    cases rest with
    | cons isNull rest =>
      cases rest
      rw [isEmpty.unique empty, isNull.unique nothing] at denotes
      simpa [named, alsoNamed] using denotes

end SelectGraph.Engine
