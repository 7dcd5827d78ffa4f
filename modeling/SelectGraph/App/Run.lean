import SelectGraph.App.Init

/-!
# Running an application

An application that is ready can be started. It runs until it is told to stop or its server fails,
and releases what it holds once, when it is shut down.
-/

namespace SelectGraph.App

open Telemetry (Observed)

inductive StartError where
  | notReady
  deriving DecidableEq

def StartError.message : StartError → String
  | .notReady => "app is not initialized"

def World.listenFault? (world : World) (port : Int) : Option String :=
  if port < 0 ∨ 65535 < port then some ("listen tcp: address " ++ toString port ++ ": invalid port")
  else if world.busyPorts.contains port then
    some ("listen tcp :" ++ toString port ++ ": bind: address already in use")
  else none

/-- Start an application. One that is running keeps running. After a shutdown its server does not
listen again. -/
def start (app : App) (world : World) : Observed (Except StartError Unit × App) := do
  match app.ready? with
  | none => return (.error .notReady, app)
  | some ready =>
    if app.isStarted then return (.ok (), app)
    let fields : Log.Fields :=
      [("address", .text (":" ++ toString ready.port)), ("graphql_endpoint", .text "/graphql"),
       ("health_endpoint", .text "/health"), ("graphiql", .boolean app.settings.server.showsPage),
       ("max_concurrent_statements", .integer app.settings.server.maxConcurrent)]
    let more : Log.Fields :=
      if ready.isMeasured then [("metrics_endpoint", .text "/metrics")] else []
    Observed.log app.logger .info "server starting" (fields ++ more)
    let failures := match if ready.isOpen then world.listenFault? ready.port else none with
      | some fault => Failures.pending fault
      | none => Failures.silent
    return (.ok (), { app with isStarted := true, failures? := some failures })

/-- What a stop can be waited for: a signal that comes or does not come. -/
inductive Stop where
  | silent
  | signal (name : String)
  deriving DecidableEq

inductive Report where
  | silent
  | ended
  | failed (fault : String)
  deriving DecidableEq

inductive Ending where
  | nothingToWaitFor
  | unexpected
  | failed (fault : String)
  | signalled
  | never
  deriving DecidableEq

def Ending.reason : Ending → String
  | .nothingToWaitFor | .never => ""
  | .unexpected | .failed _ => "server_error"
  | .signalled => "signal"

def Ending.error? : Ending → Option String
  | .nothingToWaitFor => some "nothing to wait for: stop and serverErrors are both nil"
  | .unexpected => some "server stopped unexpectedly"
  | .failed fault => some ("server failed: " ++ fault)
  | .signalled | .never => none

/-- Wait for a stop or for the end of the server. Without a report to listen to, that of the
application's own server is taken, which it makes once. A report comes before a signal. -/
def wait (app : App) (stop? : Option Stop) (report? : Option Report) : Observed (Ending × App) := do
  let own : Option Report := app.failures?.map fun
    | .silent => .silent
    | .pending fault => .failed fault
  let heard := report?.orElse fun _ => own
  let after := if report?.isNone && app.failures?.isSome then { app with failures? := some .silent }
    else app
  match stop?, heard with
  | none, none => return (.nothingToWaitFor, app)
  | _, some .ended => return (.unexpected, after)
  | _, some (.failed fault) => return (.failed fault, after)
  | some (.signal name), _ =>
    Observed.log app.logger .info "received shutdown signal" [("signal", .text name)]
    return (.signalled, app)
  | _, _ => return (.never, app)

/-- Shut an application down. Only the first time anything is released. -/
def shutdown (app : App) (world : World) : Observed App := do
  if app.isShutDown then return app
  let changes ← releaseAll app.logger world.releaseFault? app.cleanup app.changes
  return { app with
    changes
    ready? := app.ready?.map fun ready => { ready with isOpen := false }
    isStarted := false
    isShutDown := true }

end SelectGraph.App
