import SelectGraph.Http.Cors
import SelectGraph.Service.Layer

/-!
# Routes

The endpoint for queries has its route; the root leads there. One route tells whether the database
can be reached, one lists measurements. A path that is not in its shortest form is led to that
form, and any other path leads nowhere.
-/

namespace SelectGraph.Service

open Telemetry (Observed)

structure Options where
  measures : Bool := false
  listsMeasurements : Bool := false
  tracesRequests : Bool := false
  cors : Http.CorsSettings := {}

/-- A service. `fresh` identifies a request that brings no identification. -/
structure Service where
  endpoint : Endpoint
  options : Options
  logger : Log.Logger
  fresh : String

/-- Drop the segments of a path that lead nowhere: empty ones and dots, and those that a double dot
takes back. -/
def shortestSegments (segments : List String) : List String :=
  (segments.foldl (fun kept segment =>
    if segment = "" ∨ segment = "." then kept
    else if segment = ".." then kept.drop 1
    else segment :: kept) []).reverse

/-- The shortest form of a path. A slash at the end is kept. -/
def shortestPath (path : String) : String :=
  let short := "/" ++ Text.join "/" (shortestSegments (Text.split path '/'))
  if Text.endsWith path "/" && short ≠ "/" then short ++ "/" else short

def redirect (status : Nat) (phrase : String) (request : Http.Request) (target : String) :
    Http.Reply :=
  let shows := request.method == "GET" || request.method == "HEAD"
  let headers := Http.Headers.set {} "Location" (Url.encodeAboveAscii target)
  { status
    headers := if shows then headers.set "Content-Type" "text/html; charset=utf-8" else headers
    body := if request.method = "GET" then
      "<a href=\"" ++ target ++ "\">" ++ phrase ++ "</a>.\n\n" else "" }

def notFound : Http.Reply :=
  { status := 404
    headers := Http.Headers.ofList
      [("Content-Type", "text/plain; charset=utf-8"), ("X-Content-Type-Options", "nosniff")]
    body := "404 page not found\n" }

/-- Tell whether the database can be reached. What failed is not told. -/
def health (backend : Database.Backend) : Observed Http.Reply := do
  let fault? ← Observed.session (Database.Session.ping backend false)
  let headers := Http.Headers.ofList [("Content-Type", "application/json")]
  let body (status database : String) : String :=
    (Json.object [("status", .text status), ("database", .text database)]).compact
  return match fault? with
    | some _ => { status := 503, headers, body := body "unhealthy" "failed" }
    | none => { status := 200, headers, body := body "healthy" "ok" }

def measurements : Observed Http.Reply := do
  let journal ← get
  return { status := 200
           headers := Http.Headers.ofList [("Content-Type", "text/plain; charset=utf-8")]
           body := Text.join "\n" (Telemetry.expositions journal.measurements) }

namespace Service

def queries (service : Service) : Handler :=
  let inner : Handler := service.endpoint.answer
  let counted := if service.options.measures then measured inner else inner
  logged service.logger service.fresh (analysed (traced counted))

def route (service : Service) (request : Http.Request) : Observed Http.Reply := do
  let written := request.url.escapedPath
  let short := shortestPath (if Text.startsWith written "/" then written else "/" ++ written)
  if short ≠ written then
    let query := if request.url.query = "" then "" else "?" ++ request.url.query
    return redirect 301 "Moved Permanently" request (Url.encodePath short ++ query)
  match request.url.path with
  | "/graphql" => service.queries { request }
  | "/health" => health service.endpoint.store.backend
  | "/" => return redirect 302 "Found" request "/graphql"
  | "/metrics" => if service.options.listsMeasurements then measurements else return notFound
  | _ => return notFound

def observed (service : Service) (request : Http.Request) : Observed Http.Reply := do
  let reply ← service.route request
  if service.options.tracesRequests then
    Observed.endSpan
      { name := Http.spanName request.method request.url.path
        status := if 500 ≤ reply.status then .failed else .unset }
  return reply

def announcePage (service : Service) : Observed Unit := do
  if service.endpoint.showsPage then
    Observed.log service.logger .warn "GraphiQL enabled on GET /graphql"

def announceRoutes (service : Service) : Observed Unit := do
  if service.options.listsMeasurements then
    Observed.log service.logger .info "metrics endpoint enabled" [("path", .text "/metrics")]
  if service.options.tracesRequests then
    Observed.log service.logger .info "HTTP instrumentation enabled"

def announce (service : Service) : Observed Unit := do
  service.announcePage
  service.announceRoutes

/-- Answer a request. Requests from other origins are judged first. -/
def answer (service : Service) (request : Http.Request) : Observed Http.Reply :=
  service.options.cors.wrap request (service.observed request)

end Service

end SelectGraph.Service
