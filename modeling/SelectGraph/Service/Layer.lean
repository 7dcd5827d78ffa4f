import SelectGraph.Service.Endpoint

/-!
# Layers around the endpoint

Each layer observes a request on its way in and its reply on the way out: it is logged, analysed,
traced and measured.
-/

namespace SelectGraph.Service

open Telemetry (Observed Attribute)

abbrev Handler := Visit → Observed Http.Reply

/-- Count a request and how it ended. A request without a query is not counted, unless it could
not even be decoded. -/
def measured (next : Handler) : Handler := fun visit => do
  let analysis := visit.analysis
  let isUndecoded := match analysis.failure? with
    | some (.decode _) => true
    | _ => false
  let visit := { visit with analysis? := some analysis }
  if analysis.isEmpty && !isUndecoded then next visit
  else
    let visit := { visit with
      observer := { visit.observer with measures := true }, isRecorded := true }
    let kind := analysis.selected?.elim "unknown" fun selected =>
      if selected.kind = "" then "unknown" else selected.kind
    visit.observer.measure Telemetry.activeRequests [] 1
    let reply ← next visit
    let failed := 400 ≤ reply.status || Response.hasErrors reply.body
    let attributes : List Attribute :=
      [⟨"operation_type", .text kind⟩, ⟨"has_errors", .bool failed⟩]
    visit.observer.measure Telemetry.requestDuration attributes
    visit.observer.measure Telemetry.requestTotal attributes 1
    visit.observer.measure Telemetry.activeRequests [] (-1)
    return reply

def traced (next : Handler) : Handler := fun visit => do
  let analysis := visit.analysis
  if analysis.isEmpty then next visit
  else
    let reply ← next { visit with isRecorded := true }
    Observed.endSpan
      { name := "graphql.request"
        attributes := Telemetry.spanAttributes analysis ++
          [⟨"http.response.status_code", .int reply.status⟩]
        status := if 500 ≤ reply.status then .failed else .unset }
    return reply

/-- Analyse a request; what is found is added to all its log records. -/
def analysed (next : Handler) : Handler := fun visit => do
  let analysis := visit.analysis
  let fields : Log.Fields := (Telemetry.logFields analysis).map fun (name, value) =>
    (name, .text value)
  let logger? := visit.observer.logger?.map fun logger => logger.withFields fields
  next { visit with analysis? := some analysis, observer := { visit.observer with logger? } }

def requestIdField : String := "X-Request-ID"

def levelOf (status : Nat) : Log.Level :=
  if 500 ≤ status then .error else if 400 ≤ status then .warn else .info

/-- Log a request under its identification; `fresh` identifies one that brings none. -/
def logged (logger : Log.Logger) (fresh : String) (next : Handler) : Handler := fun visit => do
  let given := visit.request.headers.get requestIdField
  let id := if given = "" then fresh else given
  let logger := logger.withFields [("request_id", .text id), ("component", .text "http")]
  let observer := { visit.observer with logger? := some logger }
  let reply ← next { visit with observer, isRecorded := true }
  Observed.log logger (levelOf reply.status) "request completed"
    [("method", .text visit.request.method), ("path", .text visit.request.url.path),
      ("remote_addr", .text Http.remoteAddress), ("status", .integer reply.status),
      ("bytes", .integer (Text.byteLength reply.body))]
  return { reply with headers := (Http.Headers.set {} requestIdField id).merge reply.headers }

end SelectGraph.Service
