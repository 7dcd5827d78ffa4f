import SelectGraph.Config.Connection
import SelectGraph.Database.Wire
import SelectGraph.Service.Router

/-!
# Applications

An application holds what a server needs while it runs. Whatever it acquires is put on a stack and
released in the opposite order. Every acquisition has a number of its own, so that the changes of an
application tell what was released, and how often.
-/

namespace SelectGraph

open Telemetry (Observed)

namespace App

/-- What an application can hold. A step stands for anything else that has to be released, which may
fail. -/
inductive Component where
  | loggerProvider
  | meterProvider
  | tracerProvider
  | database
  | server
  | step (name : String) (fault? : Option String)
  deriving DecidableEq

def Component.name : Component → String
  | .loggerProvider => "logger provider"
  | .meterProvider => "meter provider"
  | .tracerProvider => "tracer provider"
  | .database => "database"
  | .server => "HTTP server"
  | .step name _ => name

structure Holding where
  component : Component
  serial : Nat
  deriving DecidableEq

inductive Change where
  | acquired (holding : Holding)
  | released (holding : Holding)
  deriving DecidableEq

/-- The components held, the newest first, and the changes so far. -/
structure Holdings where
  stack : List Holding := []
  changes : List Change := []
  serial : Nat := 0

def Holdings.acquire (holdings : Holdings) (component : Component) : Holdings :=
  let holding : Holding := ⟨component, holdings.serial⟩
  { stack := holding :: holdings.stack
    changes := holdings.changes ++ [.acquired holding]
    serial := holdings.serial + 1 }

def Component.release (logger : Log.Logger) (fault? : Component → Option String)
    (component : Component) (isAgain : Bool) : Observed (Option String) :=
  match component with
  | .loggerProvider => Telemetry.shutDown logger .logs isAgain
  | .meterProvider => Telemetry.shutDown logger .metrics isAgain
  | .tracerProvider => Telemetry.shutDown logger .traces isAgain
  | .database | .server => return fault? component
  | .step _ fault? => return fault?

/-- Release what is held, in order, and log it. A failure does not keep the others from being
released. -/
def releaseAll (logger : Log.Logger) (fault? : Component → Option String) :
    (held : List Holding) → (changes : List Change) → Observed (List Change)
  | [], changes => return changes
  | holding :: rest, changes => do
      let name := holding.component.name
      Observed.log logger .debug ("releasing " ++ name)
      match ← holding.component.release logger fault? (changes.contains (.released holding)) with
      | some fault =>
        Observed.log logger .warn "cleanup error" [("component", .text name), ("error", .text fault)]
      | none => pure ()
      releaseAll logger fault? rest (changes ++ [.released holding])

/-- What is set up for metrics, in this order: where they are kept, and the instruments for requests
and for their tokens. -/
inductive MetricsPart where
  | provider
  | requests
  | tokens
  deriving DecidableEq

/-- What a server finds around it: files, databases, what cannot be set up or released, ports that
are taken, and fresh names for requests and traces. -/
structure World where
  files : Files := {}
  dial : Database.Wire → Database.Backend
  metricsFault? : MetricsPart → Option String := fun _ => none
  releaseFault? : Component → Option String := fun _ => none
  busyPorts : List Int := []
  freshRequest : String
  freshTrace : String

/-- What a start of the server needs. It is closed once its components have been released. -/
structure Ready where
  service : Service.Service
  port : Int
  isMeasured : Bool
  isOpen : Bool := true

/-- The channel on which a running server reports that it failed. -/
inductive Failures where
  | silent
  | pending (fault : String)
  deriving DecidableEq

end App

structure App where
  settings : Config.Settings
  logger : Log.Logger
  exportsLogs : Bool := false
  ready? : Option App.Ready := none
  cleanup : List App.Holding := []
  changes : List App.Change := []
  serial : Nat := 0
  isStarted : Bool := false
  isShutDown : Bool := false
  failures? : Option App.Failures := none

namespace App

inductive NewError where
  | noSettings
  | noLogger
  deriving DecidableEq

def NewError.message : NewError → String
  | .noSettings => "config is required"
  | .noLogger => "logger is required"

def new (settings? : Option Config.Settings) (logger? : Option Log.Logger) : Except NewError App :=
  match settings?, logger? with
  | none, _ => .error .noSettings
  | some _, none => .error .noLogger
  | some settings, some logger => .ok { settings, logger }

/-- Put something on the stack of what is to be released. -/
def push (app : App) (name : String) (fault? : Option String) : App :=
  let holding : Holding := ⟨.step name fault?, app.serial⟩
  { app with
    cleanup := holding :: app.cleanup
    changes := app.changes ++ [.acquired holding]
    serial := app.serial + 1 }

/-- Answer requests, once the application is ready. A service whose database has been released
finds it closed, and has no measurements left. -/
def handler? (app : App) : Option (Http.Request → Observed Http.Reply) :=
  app.ready?.map fun ready =>
    if ready.isOpen then ready.service.answer
    else
      let endpoint := ready.service.endpoint
      let store := { endpoint.store with backend := endpoint.store.backend.closed }
      let service := { ready.service with endpoint := { endpoint with store } }
      fun request => do
        modify fun journal => { journal with measurements := [] }
        service.answer request

end App

end SelectGraph
