import SelectGraph.App.Run
import SelectGraph.Config.Check
import SelectGraph.Config.Load

/-!
# The command that serves

The command loads and checks its settings, initialises an application and runs it until it is told
to stop. Findings about the settings are logged before the command has a logger of its own.
-/

namespace SelectGraph.CommandLine

open Telemetry (Observed Journal)

inductive ServeError where
  | load (cause : Config.LoadError)
  | invalid (findings : List Config.Finding)
  | logging (cause : Telemetry.ExportError)
  | init (cause : App.InitError)
  | start (cause : App.StartError)
  | ended (message : String)

def ServeError.message : ServeError → String
  | .load cause => "failed to load configuration: " ++ cause.message
  | .invalid findings => "configuration validation failed: " ++ Config.errorText findings
  | .logging cause => "failed to initialize logging: " ++ cause.message
  | .init cause => cause.message
  | .start cause => cause.message
  | .ended message => message

/-- The version of the program and the state it was built from. -/
structure Build where
  version : String := "dev"
  commit : String := "none"

/-- What a run of the command leaves: lines that it printed, records from before it had a logger,
and the settings and the journal of the run. -/
structure ServeResult where
  printed : List String := []
  early : List Log.Record := []
  settings? : Option Config.Settings := none
  journal : Journal := {}
  error? : Option ServeError := none

def serveFlags : List Flag :=
  { name := "version", kind := .switch } :: Config.flags

def findingRecord (finding : Config.Finding) : Log.Record :=
  let (level, message) : Log.Level × String := match finding.severity with
    | .warning => (.warn, "configuration warning")
    | .error => (.error, "configuration error")
  { level, message, groups := []
    fields := [("field", .text finding.field), ("message", .text finding.message),
      ("hint", .text finding.hint)] }

/-- The records that report findings: the warnings, then the errors. -/
def findingRecords (findings : List Config.Finding) : List Log.Record :=
  (Config.warnings findings ++ Config.errors findings).map findingRecord

def prepareLogExport (cfg : Config.Settings) (logger : Log.Logger) (files : Files) :
    Observed (Except ServeError Unit) := do
  if cfg.observability.exportsLogs then
    let exporting := cfg.observability.logExport
    Observed.log logger .info "initializing OpenTelemetry log export"
      [("otlp_endpoint", .text exporting.endpoint), ("otlp_protocol", .text exporting.protocol),
       ("insecure", .boolean exporting.insecure)]
    match exporting.exporter files with
    | .ok _ => return .ok ()
    | .error cause => return .error (.logging cause)
  else return .ok ()

def runApp (app : App) (world : App.World) (stop : App.Stop) : Observed (Except ServeError Unit) := do
  let (outcome, app) ← app.init world false
  match outcome with
  | .error cause => return .error (.init cause)
  | .ok () =>
    let (outcome, app) ← app.start world
    match outcome with
    | .error cause => return .error (.start cause)
    | .ok () =>
      let (ending, app) ← app.wait (some stop) none
      Observed.log app.logger .info "shutting down server gracefully"
      let app ← app.shutdown world
      match ending.error? with
      | some message => return .error (.ended message)
      | none =>
        Observed.log app.logger .info "server stopped gracefully"
        return .ok ()

def serveSettings (settings : Config.Settings) (world : App.World) (stop : App.Stop) :
    Observed (Except ServeError Unit) := do
  let logger : Log.Logger := { threshold := .ofName settings.logging.level }
  match ← prepareLogExport settings logger world.files with
  | .error cause => return .error cause
  | .ok () =>
    runApp { settings, logger, exportsLogs := settings.observability.exportsLogs } world stop

def serve (build : Build) (flags : Parsed) (around : Config.Surroundings) (world : App.World)
    (stop : App.Stop) : ServeResult :=
  match Config.load flags around with
  | .error cause => { error? := some (.load cause) }
  | .ok loaded =>
    if flags.switchOf "version" false then
      { printed := ["gql2sql " ++ build.version ++ " (" ++ build.commit ++ ")"] }
    else
      let observability := loaded.observability
      let version := Telemetry.filled observability.serviceVersion build.version
      let cfg := { loaded with observability := { observability with serviceVersion := version } }
      let findings := cfg.findings around.files
      let early := findingRecords findings
      if (Config.errors findings).isEmpty then
        let (outcome, journal) := (serveSettings cfg world stop).run {}
        { early, settings? := some cfg, journal
          error? := match outcome with
            | .ok () => none
            | .error cause => some cause }
      else { early, error? := some (.invalid findings) }

end SelectGraph.CommandLine
