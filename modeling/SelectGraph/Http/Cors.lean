import SelectGraph.Http.Message
import SelectGraph.Json.Access

/-!
# Requests from other origins

A policy says which origins may read replies. A preflight request from any origin is answered
here; other requests go on, and the reply to an allowed origin carries the permission.
-/

namespace SelectGraph.Http

structure CorsSettings where
  enabled : Bool := false
  origins : List String := []
  methods : List String := []
  headers : List String := []
  exposed : List String := []
  credentials : Bool := false
  maxAge : Int := 0
  deriving DecidableEq

namespace CorsSettings

/-- The origins named, without blanks around them. -/
def named (cfg : CorsSettings) : List String :=
  (cfg.origins.map Text.trim).filter (· != "")

def admitsAny (cfg : CorsSettings) : Bool :=
  cfg.named.contains "*"

def admits (settings : CorsSettings) (origin : String) : Bool :=
  settings.admitsAny || settings.named.contains origin

/-- What every reply to an allowed origin carries. A policy for every origin never repeats the
origin and never allows credentials. -/
def permission (cfg : CorsSettings) (origin : String) : Headers :=
  let base : Headers :=
    if cfg.admitsAny then Headers.set {} "Access-Control-Allow-Origin" "*"
    else
      let echoed := (Headers.set {} "Access-Control-Allow-Origin" origin).add "Vary" "Origin"
      if cfg.credentials then echoed.set "Access-Control-Allow-Credentials" "true"
      else echoed
  base.setPresent "Access-Control-Expose-Headers" (Text.join ", " cfg.exposed)

/-- What the answer to a preflight request from an allowed origin carries besides. -/
def preflight (cfg : CorsSettings) (headers : Headers) : Headers :=
  let headers := headers.setPresent "Access-Control-Allow-Methods" (Text.join ", " cfg.methods)
  let headers := headers.setPresent "Access-Control-Allow-Headers" (Text.join ", " cfg.headers)
  headers.setPresent "Access-Control-Max-Age"
    (if 0 < cfg.maxAge then toString cfg.maxAge else "")

/-- Answer a request under the settings; `next` answers those that go on. -/
def wrap {m : Type → Type} [Monad m] (settings : CorsSettings) (request : Request)
    (next : m Reply) : m Reply := do
  let origin := request.headers.get "Origin"
  if !settings.enabled || origin == "" then next
  else
    let allowed := settings.admits origin
    let granted := if allowed then settings.permission origin else {}
    if request.method = "OPTIONS" then
      return { status := 204, headers := if allowed then settings.preflight granted else granted }
    else
      let reply ← next
      return { reply with headers := granted.merge reply.headers }

end CorsSettings

/-! ## Requests and replies as JSON -/

/-- The request an object describes, unless its method or target is malformed. -/
def Request.ofJson? (input : Json) : Option Request :=
  let content? := (input.textAt? "body").map fun text =>
    match input.textAt "read_error" with
    | "" => Content.text text
    | cause => Content.broken cause
  Request.make? (input.textAt "method") ((input.textAt? "target").getD "/graphql")
    (Headers.ofList (input.textMapAt "headers")) content?

def Headers.toJson (headers : Headers) : Json :=
  .object (headers.fields.map fun (name, values) => (name, Json.texts values))

def Reply.toJson (reply : Reply) : Json :=
  .object [("status", .ofNat reply.status), ("headers", reply.headers.toJson),
    ("body", .text reply.body)]

def CorsSettings.ofJson (input : Json) : CorsSettings where
  enabled := input.boolAt "enabled"
  origins := input.textsAt "origins"
  methods := input.textsAt "methods"
  headers := input.textsAt "headers"
  exposed := input.textsAt "expose"
  credentials := input.boolAt "credentials"
  maxAge := input.intAt "max_age"

end SelectGraph.Http
