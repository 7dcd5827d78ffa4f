import SelectGraph.App.Run

/-!
# Sessions of an application

A session is a list of steps on one application, each of which has an outcome.
-/

namespace SelectGraph.App

open Telemetry (Observed)

inductive Action where
  | make (hasSettings hasLogger : Bool)
  | push (name : String) (fault? : Option String)
  | attach
  | init (isCancelled : Bool)
  | start
  | shutdown
  | handler
  | request (request? : Option Http.Request)
  | wait (stop? : Option Stop) (report? : Option Report)

inductive Outcome where
  | done
  | flag (value : Bool)
  | failed (message : String)
  | reply (reply : Http.Reply)
  | noHandler
  | noRequest
  | ended (ending : Ending)

def Action.ofJson (input : Json) : Action :=
  let name := input.textAt "name"
  match input.textAt "do" with
  | "new" => .make (Text.contains name "config") (Text.contains name "logger")
  | "push" => .push name ((input.textAt? "error").filter (!·.isEmpty))
  | "attach" => .attach
  | "init" => .init !(input.boolAt "live")
  | "start" => .start
  | "shutdown" => .shutdown
  | "request" => .request (Http.Request.ofJson? (input.objectAt "request"))
  | "wait" =>
    .wait ((input.boolAt? "stop").map fun comes => if comes then .signal "terminated" else .silent)
      ((input.textAt? "fail").map fun
        | "" => .ended
        | "never" => .silent
        | fault => .failed fault)
  | _ => .handler

def Outcome.ofResult {ε : Type} (message : ε → String) : Except ε Unit → Outcome
  | .ok () => .done
  | .error cause => .failed (message cause)

def act (app : App) (world : World) : Action → Observed (Outcome × App)
  | .make hasSettings hasLogger =>
    let settings? := if hasSettings then some app.settings else none
    let logger? := if hasLogger then some app.logger else none
    match App.new settings? logger? with
    | .ok _ => return (.flag true, app)
    | .error cause => return (.failed cause.message, app)
  | .push name fault? => return (.done, app.push name fault?)
  | .attach => return (.done, { app with exportsLogs := true })
  | .init isCancelled => do
      let (outcome, next) ← app.init world isCancelled
      return (.ofResult InitError.message outcome, next)
  | .start => do
      let (outcome, next) ← app.start world
      return (.ofResult StartError.message outcome, next)
  | .shutdown => do return (.done, ← app.shutdown world)
  | .handler => return (.flag app.handler?.isSome, app)
  | .request request? =>
    match app.handler?, request? with
    | none, _ => return (.noHandler, app)
    | some _, none => return (.noRequest, app)
    | some handler, some request => do return (.reply (← handler request), app)
  | .wait stop? report? => do
      let (ending, next) ← app.wait stop? report?
      return (.ended ending, next)

end SelectGraph.App
