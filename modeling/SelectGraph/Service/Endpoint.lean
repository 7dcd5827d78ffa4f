import SelectGraph.Engine.Preview
import SelectGraph.Engine.Serve
import SelectGraph.Request.Decode
import SelectGraph.Service.Page

/-!
# The endpoint for queries

The endpoint answers a request with a body, always in JSON. A browser that asks for a page gets
the page for trying queries, if that is enabled.
-/

namespace SelectGraph.Service

open Engine (Observer)
open Telemetry (Observed)

/-- An endpoint: what requests are answered from. -/
structure Endpoint where
  model : Engine.Model
  store : Engine.Store
  showsPage : Bool := false

/-- A request on its way through the service. `isRecorded` says that a layer around announces the
status of the reply before its body. -/
structure Visit where
  request : Http.Request
  observer : Observer := {}
  analysis? : Option Request.Analysis := none
  isRecorded : Bool := false

/-- The analysis of the request, made now unless it is known. -/
def Visit.analysis (visit : Visit) : Request.Analysis :=
  visit.analysis?.getD (Request.decode visit.request).analyze

def jsonType : String := "application/json; charset=utf-8"

def jsonReply (status : Nat) (body : String) : Http.Reply :=
  { status, headers := Http.Headers.ofList [("Content-Type", jsonType)], body }

/-- The variables of a page, normalized; what is no object gives none. -/
def pageMembers (text : String) : List (String × Json) :=
  match (Json.parse? text).map (Engine.normalized Json.maxDepth) with
  | some (.object members) => members
  | _ => []

/-- The text of the variables a page starts with: an object, or nothing for null. -/
def pageVariables (text : String) : String :=
  match Json.parse? text with
  | some .null => ""
  | _ => (Json.object (pageMembers text)).pretty "  " 0

/-- The answer to a browser: the page, or the answer of the schema alone when the browser takes
that. -/
def Endpoint.pageReply (endpoint : Endpoint) (visit : Visit) : Http.Reply :=
  let url := visit.request.url
  let query := Url.textOf (url.parameter "query")
  let asked := query ≠ ""
  let operationName := if asked then Url.textOf (url.parameter "operationName") else ""
  let supplied := Url.textOf (url.parameter "variables")
  let answer := Engine.preview endpoint.model query operationName (pageMembers supplied)
  let isRaw := (Url.parameters url.query).any (·.1 == "raw") ||
    Text.contains (visit.request.headers.get "Accept") "application/json"
  if isRaw then jsonReply 200 (answer.pretty "\t" 0)
  else
    let parameters : PageParameters :=
      { query, operationName
        response := if asked then answer.pretty "  " 0 else ""
        variablesText := if asked then pageVariables supplied else "" }
    { status := 200
      headers := if visit.isRecorded then {}
        else Http.Headers.ofList [("Content-Type", "text/html; charset=utf-8")]
      body := parameters.page }

def asksForPage (request : Http.Request) : Bool :=
  request.method == "GET" && Text.contains (request.headers.get "Accept") "text/html"

def failureReply (observer : Observer) (failure : Engine.Failure) : Observed Http.Reply := do
  for entry in failure.entries do
    observer.measure Telemetry.errorTotal [⟨"code", .text entry.code⟩] 1
  let code := failure.code
  let fields : Log.Fields := [("code", .text code.name), ("error", .text failure.message)]
  if code = .internal ∨ code = .backingStore then
    observer.log .error "graphql request failed" fields
  else observer.log .info "graphql request rejected" fields
  let reply := jsonReply failure.status (Response.errorsBody failure.entries)
  return if failure.status = 405 then
    { reply with headers := reply.headers.set "Allow" "GET, POST" }
  else reply

def Endpoint.answer (endpoint : Endpoint) (visit : Visit) : Observed Http.Reply := do
  if endpoint.showsPage && asksForPage visit.request then return endpoint.pageReply visit
  match ← Engine.serve endpoint.model endpoint.store visit.observer visit.analysis with
  | .error failure => failureReply visit.observer failure
  | .ok body =>
    visit.observer.measure Telemetry.responseSize [] (Text.byteLength body)
    return jsonReply 200 body

end SelectGraph.Service
