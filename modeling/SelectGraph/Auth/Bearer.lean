import SelectGraph.Engine.Serve
import SelectGraph.Http.Message

/-!
# Bearer tokens

A request is let in when it carries a token that a verifier accepts and whose time claims hold, up
to a leeway. Who was let in, or why not, is reported.
-/

namespace SelectGraph.Auth

open Engine (Observer)
open Telemetry (Observed Attribute)

abbrev Claims := List (String × Json)

/-- What says whether a token is genuine, and what it claims. -/
abbrev Verifier := String → Except String Claims

structure Identity where
  subject : String
  issuer : String
  audience : List String
  claims : Claims

inductive Refusal where
  | missingToken
  | unverified (cause : String)
  | badTime (cause : String)
  deriving DecidableEq

def Refusal.reason : Refusal → String
  | .missingToken => "missing_token"
  | .unverified _ => "verification_failed"
  | .badTime _ => "time_validation_failed"

def Refusal.message : Refusal → String
  | .missingToken => "missing bearer token"
  | .unverified _ | .badTime _ => "invalid token"

def Refusal.cause? : Refusal → Option String
  | .missingToken => none
  | .unverified cause | .badTime cause => some cause

/-- The token in the value of an authorization field; empty for none. -/
def tokenOf (header : String) : String :=
  match Text.cut? header " " with
  | some (scheme, token) => if Text.equalFold scheme "Bearer" then Text.trim token else ""
  | none => ""

/-- The second that a number names. A number beyond what a clock of 64 bits counts names its start. -/
def secondOf (value : Double) : Int :=
  let whole := value.truncate?.getD (-Word.signedLimit)
  if -Word.signedLimit ≤ whole ∧ whole < Word.signedLimit - 62135596800 then whole
  else -Word.signedLimit

/-- The moment a claim names, in whole seconds. Zero names none. -/
def momentOf (claims : Claims) (name : String) : Except String (Option Int) :=
  match claims.lookup name with
  | none => .ok none
  | some (.number digits) =>
    match Double.read digits with
    | .ok value => .ok (if value.magnitude.1 = 0 then none else some (secondOf value))
    | .error _ => .ok none
  | some _ => .error (name ++ " is invalid: invalid type for claim")

/-- Check that a token has not expired and is in force. It must say when it expires. -/
def checkTime (claims : Claims) (now leeway : Int) : Except String Unit := do
  match ← momentOf claims "exp" with
  | none => throw "exp claim is required"
  | some expiry => if expiry + leeway ≤ now then throw "token is expired"
  match ← momentOf claims "nbf" with
  | none => return ()
  | some start => if now < start - leeway then throw "token is not valid yet"

def audienceOf (claims : Claims) : List String :=
  match claims.lookup "aud" with
  | some (.text value) => [value]
  | some (.list values) => (values.mapM Json.asText?).getD []
  | _ => []

/-- The settings for tokens: who issues them and how far clocks may differ, in seconds. -/
structure BearerSettings where
  issuer : String
  skew : Int

/-- The leeway used when none is set: two minutes. -/
def defaultSkew : Int := 120

def BearerSettings.leeway (cfg : BearerSettings) : Int :=
  if cfg.skew = 0 then defaultSkew else cfg.skew

/-- Whom the value of an authorization field lets in at a time. -/
def identify (cfg : BearerSettings) (verify : Verifier) (now : Int) (header : String) :
    Except Refusal Identity := do
  let token := tokenOf header
  if token = "" then throw Refusal.missingToken
  let claims ← (verify token).mapError Refusal.unverified
  (checkTime claims now cfg.leeway).mapError Refusal.badTime
  return {
    subject := ((claims.lookup "sub").bind Json.asText?).getD ""
    issuer := cfg.issuer
    audience := audienceOf claims
    claims }

def Refusal.reply (refusal : Refusal) : Http.Reply :=
  { status := 401
    headers := Http.Headers.ofList
      [("WWW-Authenticate", "Bearer"), ("Content-Type", "application/json; charset=utf-8")]
    body := (Json.object [("error", .text refusal.message)]).compact ++ "\n" }

def Identity.attributes (identity : Identity) : List Attribute :=
  [⟨"auth.subject", .text identity.subject⟩, ⟨"auth.authenticated", .bool true⟩]

def letIn (cfg : BearerSettings) (verify : Verifier) (now : Int) (observer : Observer)
    (request : Http.Request) : Observed (Except Http.Reply Identity) := do
  let endpoint : Attribute := ⟨"endpoint", .text request.url.path⟩
  match identify cfg verify now (request.headers.get "Authorization") with
  | .ok identity =>
    observer.measure Telemetry.authAttempts [endpoint, ⟨"outcome", .text "accepted"⟩] 1
    return .ok identity
  | .error refusal =>
    observer.measure Telemetry.authAttempts [endpoint, ⟨"outcome", .text "rejected"⟩] 1
    observer.measure Telemetry.authFailures [endpoint, ⟨"reason", .text refusal.reason⟩] 1
    let cause : Log.Fields := match refusal.cause? with
      | some text => [("error", .text text)]
      | none => []
    observer.log .warn "authentication failed"
      ([("reason", .text refusal.reason), ("endpoint", .text request.url.path)] ++ cause)
    return .error refusal.reply

end SelectGraph.Auth
