import SelectGraph.Engine.Prepare
import SelectGraph.Telemetry.Instrument

/-!
# Serving a request

A request is prepared and then run: its statements are fetched and their values joined to one
body, or its questions about the schema are answered. Both steps leave a span.
-/

namespace SelectGraph.Engine

open Request (Analysis)
open Response (RootValue)
open Telemetry (Observed Attribute)

/-- What observes a request: the logger of the request, and whether measurements are taken. -/
structure Observer where
  logger? : Option Log.Logger := none
  measures : Bool := false

def Observer.log (observer : Observer) (level : Log.Level) (message : String)
    (fields : Log.Fields := []) : Observed Unit :=
  match observer.logger? with
  | some logger => Observed.log logger level message fields
  | none => pure ()

def Observer.measure (observer : Observer) (instrument : Telemetry.Instrument)
    (attributes : List Attribute := []) (amount : Int := 0) : Observed Unit :=
  if observer.measures then Observed.measure instrument attributes amount else pure ()

/-- The means to run statements. The schedule tells when they start and in which order they land. -/
structure Store where
  backend : Database.Backend
  executor? : Option Database.Executor
  limit? : Option Nat
  schedule : List Database.Move := []
  isCancelled : Bool := false

def failureAttribute (failure : Failure) : Attribute :=
  ⟨"graphql.error.code", .text failure.code.name⟩

def prepareObserved (model : Model) (observer : Observer) (analysis : Analysis) :
    Observed (Except Failure Prepared) := do
  match prepare model analysis with
  | .error failure =>
    Observed.endSpan ⟨"graphql.compile", [failureAttribute failure], .failed⟩
    return .error failure
  | .ok prepared =>
    let compiled := prepared.statementList
    observer.measure Telemetry.compileDuration
    observer.measure Telemetry.compileRoots [] compiled.length
    let kind := analysis.selected?.elim "" (·.kind)
    observer.measure Telemetry.queryDepth [⟨"operation_type", .text kind⟩]
      (analysis.selected?.elim 0 (·.depth))
    for stmt in compiled do
      let rendered := stmt.rendered
      observer.log .debug "compiled root field"
        [("root", .text stmt.responseName), ("sql_alias", .text stmt.aliasName),
          ("args", .integer rendered.arguments.length), ("sql", .text rendered.sql)]
    Observed.endSpan ⟨"graphql.compile",
      [⟨"graphql.compile.statements", .int compiled.length⟩,
        ⟨"graphql.compile.introspection", .bool prepared.isQuestion⟩], .unset⟩
    return .ok prepared

def commandOf (stmt : Plan.Statement) : Database.Command :=
  let rendered := stmt.rendered
  { field := stmt.responseName, sql := rendered.sql, arguments := rendered.arguments }

def shapeOf (stmt : Plan.Statement) : String :=
  if stmt.isSingle then "singleton" else "aggregate"

def reportFlight (observer : Observer) (compiled : List Plan.Statement) (flight : Database.Flight) :
    Observed Unit := do
  let failure? := Database.failureOf? flight.outcome
  let shape := (compiled[flight.index]?).elim "" shapeOf
  observer.measure Telemetry.statementDuration
    [⟨"shape", .text shape⟩, ⟨"failed", .bool failure?.isSome⟩]
  match failure? with
  | some failure =>
    let fields : Log.Fields :=
      [("root", .text flight.command.field), ("error", .text failure.message)]
    if failure.isCancellation then pure ()
    else observer.log .error "root field statement failed" fields
  | none => pure ()

def bodyOf (compiled : List Plan.Statement) (values : List (Option String)) :
    Except Failure String :=
  let roots := (compiled.zip values).map fun (stmt, value) =>
    RootValue.mk stmt.responseName value
  (Response.dataBody roots).mapError Failure.invalidValue

def runStatements (store : Store) (executor : Database.Executor) (observer : Observer)
    (compiled : List Plan.Statement) : Observed (Except Failure String) := do
  let result ← Observed.session (Database.fetchAll store.backend executor store.isCancelled
    store.limit? store.schedule (compiled.map commandOf))
  for flight in result.landed do
    reportFlight observer compiled flight
  let outcome := match result.outcome with
    | .error error => .error (Failure.fetch error)
    | .ok values => bodyOf compiled values
  let count : Attribute := ⟨"graphql.execute.statements", .int compiled.length⟩
  match outcome with
  | .error failure =>
    Observed.endSpan ⟨"graphql.execute", [count, failureAttribute failure], .failed⟩
  | .ok _ => Observed.endSpan ⟨"graphql.execute", [count], .unset⟩
  return outcome

def run (model : Model) (store : Store) (observer : Observer) (analysis : Analysis) :
    Prepared → Observed (Except Failure String)
  | .question doc op supplied =>
    return answerQuestion model analysis doc op supplied
  | .statements compiled =>
    match store.executor? with
    | none => return .error .noExecutor
    | some executor => runStatements store executor observer compiled

def serve (model : Model) (store : Store) (observer : Observer) (analysis : Analysis) :
    Observed (Except Failure String) := do
  match ← prepareObserved model observer analysis with
  | .error failure => return .error failure
  | .ok prepared => run model store observer analysis prepared

end SelectGraph.Engine
