import SelectGraph.App.Basic
import SelectGraph.Setup.Await

/-!
# Initialising an application

An application is initialised step by step. Each step may acquire a component and may fail. When a
step fails, everything acquired so far is released and the application stays as it was.
-/

namespace SelectGraph.App

open Telemetry (Observed)

inductive InitError where
  | metrics (fault : String)
  | tracing (cause : Telemetry.ExportError)
  | databaseName (cause : Config.DatabaseNameError)
  | opening (cause : Config.DatabaseSettings.OpenError)
  | connecting (cause : Setup.AwaitError)
  | sources (cause : Setup.SourceError)
  | handler (cause : Auth.ProviderError)

def InitError.message : InitError → String
  | .metrics fault => "failed to initialize OpenTelemetry metrics: " ++ fault
  | .tracing cause => "failed to initialize OpenTelemetry tracing: " ++ cause.message
  | .databaseName cause => "failed to resolve database name: " ++ cause.message
  | .opening cause => "failed to open database: " ++ cause.message
  | .connecting cause => "failed to connect to database: " ++ cause.message
  | .sources cause => "failed to load compiler sources: " ++ cause.message
  | .handler cause => "failed to initialize GraphQL handler: " ++ cause.message

/-- A step of an initialisation, which changes what is held. -/
abbrev Step := ExceptT InitError (StateT Holdings Observed)

namespace Step

def observe {α : Type} (action : Observed α) : Step α :=
  ExceptT.lift (StateT.lift action)

def given {α ε : Type} (outcome : Except ε α) (wrap : ε → InitError) : Step α :=
  ExceptT.mk (pure (outcome.mapError wrap))

def acquire (component : Component) : Step Unit :=
  ExceptT.lift (modify fun (holdings : Holdings) => holdings.acquire component)

def log (app : App) (level : Log.Level) (message : String) (fields : Log.Fields := []) : Step Unit :=
  observe (Observed.log app.logger level message fields)

end Step

def World.setUp (world : World) (part : MetricsPart) : Step Unit :=
  match world.metricsFault? part with
  | some fault => throw (InitError.metrics fault)
  | none => return

/-- Set up the metrics. Where they are kept has to be released even if an instrument fails. -/
def setUpMetrics (app : App) (world : World) : Step Unit := do
  if app.settings.observability.measures then
    world.setUp .provider
    Step.acquire .meterProvider
    world.setUp .requests
    Step.log app .info "custom GraphQL metrics initialized"
    world.setUp .tokens
    Step.log app .info "OpenTelemetry metrics initialized" [("exporter", .text "prometheus")]

def setUpTracing (app : App) (world : World) : Step Unit := do
  let observability := app.settings.observability
  if observability.traces then
    let cfg := observability.traceExport
    Step.log app .info "initializing OpenTelemetry tracing"
      [("otlp_endpoint", .text cfg.endpoint), ("otlp_protocol", .text cfg.protocol),
       ("sample_ratio", .double observability.sampleRatio)]
    let _ ← Step.given (cfg.exporter world.files) InitError.tracing
    Step.acquire .tracerProvider

/-- The name of the database. Without a name there has to be a catalog. -/
def databaseName (app : App) : Step String := do
  match app.settings.database.name with
  | .ok name => return name
  | .error cause =>
    if app.settings.sources.catalogFile.isEmpty then throw (InitError.databaseName cause)
    else return ""

/-- Whether statements carry a comment that names their trace. -/
def commentsStatements (cfg : Config.ObservabilitySettings) : Bool :=
  cfg.traces && cfg.commentsStatements

def wireOf (cfg : Config.Settings) (world : World) :
    Except Config.DatabaseSettings.OpenError Database.Wire := do
  let address ← cfg.database.openAddress world.files
  let trace? := if commentsStatements cfg.observability then some world.freshTrace else none
  return { address, trace? }

def openDatabase (app : App) (world : World) : Step Database.Backend := do
  let observability := app.settings.observability
  let wire ← Step.given (wireOf app.settings world) InitError.opening
  if observability.measures || observability.traces then
    if observability.commentsStatements && !observability.traces then
      Step.log app .debug "sqlcommenter needs tracing; statements go out without trace comments"
    Step.log app .info "database instrumentation enabled"
      [("metrics", .boolean observability.measures), ("tracing", .boolean observability.traces),
       ("sqlcommenter", .boolean (commentsStatements observability))]
  Step.acquire .database
  return world.dial wire

def connect (app : App) (backend : Database.Backend) (name : String) (isCancelled : Bool) :
    Step Unit := do
  let settings := app.settings.database
  Step.log app .info "connecting to database"
    [("database", .text name), ("dsn_present", .boolean !settings.dsn.isEmpty),
     ("tls_mode", .text settings.encryption.mode)]
  let patience : Setup.Patience := ⟨settings.connectionTimeout, settings.retryInterval⟩
  let outcome ← Step.observe (Setup.await patience app.logger backend isCancelled)
  Step.given outcome InitError.connecting
  Step.log app .info "connected to database"
    [("pool_max_open", .integer settings.pool.maxOpen), ("pool_max_idle", .integer settings.pool.maxIdle),
     ("pool_max_lifetime", .duration settings.pool.maxLifetime)]

def loadModel (app : App) (world : World) (backend : Database.Backend) (name : String) :
    Step Engine.Model := do
  let outcome ← Step.observe
    (Setup.loadSources app.settings.sources world.files app.logger (some ⟨backend, name⟩)).run
  Step.given outcome InitError.sources

def serviceOf (app : App) (world : World) (model : Engine.Model) (backend : Database.Backend)
    (name : String) : Service.Service :=
  let settings := app.settings
  let store : Engine.Store :=
    { backend, executor? := some (.scoped name)
      limit? := Database.limitOf settings.server.maxConcurrent }
  { endpoint := { model, store, showsPage := settings.server.showsPage }
    options :=
      { measures := settings.observability.measures
        listsMeasurements := settings.observability.measures
        tracesRequests := settings.observability.measures || settings.observability.traces
        cors := settings.server.cors }
    logger := app.logger
    fresh := world.freshRequest }

def setUpService (app : App) (world : World) (service : Service.Service) : Step Unit := do
  Step.observe service.announcePage
  Step.given (app.settings.server.provider.connect world.files) InitError.handler
  Step.observe service.announceRoutes
  Step.acquire .server

def steps (app : App) (world : World) (isCancelled : Bool) : Step Ready := do
  if app.exportsLogs then Step.acquire .loggerProvider
  setUpMetrics app world
  setUpTracing app world
  let name ← databaseName app
  let backend ← openDatabase app world
  connect app backend name isCancelled
  let model ← loadModel app world backend name
  let service := serviceOf app world model backend name
  setUpService app world service
  return { service, port := app.settings.server.port
           isMeasured := app.settings.observability.measures }

/-- Initialise an application. Once it is ready, nothing is done. -/
def init (app : App) (world : World) (isCancelled : Bool) :
    Observed (Except InitError Unit × App) := do
  if app.ready?.isSome then return (.ok (), app)
  let (outcome, holdings) ← (steps app world isCancelled).run.run
    { changes := app.changes, serial := app.serial }
  match outcome with
  | .ok ready =>
    return (.ok (), { app with
      ready? := some ready
      cleanup := holdings.stack
      changes := holdings.changes
      serial := holdings.serial })
  | .error cause =>
    let changes ← releaseAll app.logger world.releaseFault? holdings.stack holdings.changes
    return (.error cause, { app with changes, serial := holdings.serial })

end SelectGraph.App
