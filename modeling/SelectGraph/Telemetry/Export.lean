import SelectGraph.Certificate.Trust
import SelectGraph.Telemetry.Journal
import SelectGraph.Url.Basic

/-!
# Exporting telemetry

Traces and logs are exported over OTLP. Settings for one of them are laid over the settings for
both; what they leave empty stays as it is, except that each says for itself whether its connection
is secured.
-/

namespace SelectGraph.Telemetry

structure ExportSettings where
  endpoint : String := ""
  protocol : String := ""
  insecure : Bool := false
  trust : Certificate.TrustFiles := {}
  headers : List (String × String) := []
  timeout : Duration := ⟨0⟩
  compression : String := ""
  retries : Bool := false
  attempts : Int := 0
  deriving DecidableEq

def filled (text other : String) : String :=
  if text.isEmpty then other else text

/-- Lay the settings for one kind of telemetry over those for all kinds. -/
def ExportSettings.overlay (base : ExportSettings) : Option ExportSettings → ExportSettings
  | none => base
  | some own =>
    { endpoint := filled own.endpoint base.endpoint
      protocol := filled own.protocol base.protocol
      insecure := own.insecure
      trust :=
        { authorities := filled own.trust.authorities base.trust.authorities
          certificate := filled own.trust.certificate base.trust.certificate
          key := filled own.trust.key base.trust.key }
      headers := own.headers ++ base.headers.filter fun entry => !own.headers.any (·.1 == entry.1)
      timeout := if own.timeout.nanoseconds = 0 then base.timeout else own.timeout
      compression := filled own.compression base.compression
      retries := if own.attempts = 0 then base.retries else own.retries
      attempts := if own.attempts = 0 then base.attempts else own.attempts }

inductive ExportProtocol where
  | grpc
  | http
  deriving DecidableEq

def ExportProtocol.name : ExportProtocol → String
  | .grpc => "grpc"
  | .http => "http/protobuf"

/-- The protocol that a text names; blanks around it and case do not matter. -/
def ExportProtocol.ofName? (text : String) : Option ExportProtocol :=
  match Text.toLower (Text.trim text) with
  | "" | "grpc" => some .grpc
  | "http" | "http/protobuf" => some .http
  | _ => none

inductive ExportError where
  | protocol (name : String)
  | trust (cause : Certificate.TrustError)
  deriving DecidableEq

def ExportError.message : ExportError → String
  | .protocol name =>
    "unsupported OTLP protocol " ++ Text.quote name ++ " (use grpc or http/protobuf)"
  | .trust (.authoritiesFile _ cause) => "failed to read OTLP TLS CA file: " ++ cause.message
  | .trust (.noAuthorities _) => "failed to parse OTLP TLS CA file"
  | .trust .halfPair => "OTLP TLS client cert and key must both be set"
  | .trust cause => "failed to load OTLP TLS client certificate: " ++ cause.pairCause

structure Exporter where
  protocol : ExportProtocol
  toUrl : Bool
  secured : Bool
  compresses : Bool
  retries : Bool
  deriving DecidableEq

/-- Set up an exporter. Only a secured connection looks at its files. -/
def ExportSettings.exporter (settings : ExportSettings) (files : Files) :
    Except ExportError Exporter := do
  let some protocol := ExportProtocol.ofName? settings.protocol
    | throw (ExportError.protocol settings.protocol)
  if !settings.insecure then (settings.trust.check files).mapError ExportError.trust
  return {
    protocol
    toUrl := Text.startsWith settings.endpoint "http://" || Text.startsWith settings.endpoint "https://"
    secured := !settings.insecure
    compresses := settings.compression == "gzip"
    retries := settings.retries && decide (0 < settings.attempts) }

/-- Whether an endpoint can be reached over HTTP: a URL with a host, or a host with a port. -/
def isHttpEndpoint (endpoint : String) : Bool :=
  if endpoint.isEmpty then false
  else if Text.contains endpoint "://" then
    match Url.parse endpoint with
    | .ok url => !url.host.isEmpty
    | .error _ => false
  else (Net.splitHostPort? endpoint).isSome

/-! ## Providers of telemetry

Metrics are kept for scraping; traces and logs are exported. Each kind has a provider that is set up
once and shut down in the end. A provider of metrics that has been shut down complains when it is
shut down again, the others do not. -/

/-- The kinds of telemetry. -/
inductive Signal where
  | metrics
  | traces
  | logs
  deriving DecidableEq

/-- What the provider of a kind of telemetry is called. -/
def Signal.provider : Signal → String
  | .metrics => "meter provider"
  | .traces => "tracer provider"
  | .logs => "logger provider"

inductive Sampler where
  | never
  | always
  | some (ratio : Double)
  deriving DecidableEq

def Sampler.ofRatio (ratio : Double) : Sampler :=
  if !(Double.ofInt 0).less ratio && !ratio.isNaN then .never
  else if !ratio.less (Double.ofInt 1) && !ratio.isNaN then .always
  else .some ratio

/-- The name of a sampler. With a ratio between the extremes, a request follows the decision that
was made for the one it belongs to. -/
def Sampler.name : Sampler → String
  | .never => "AlwaysOffSampler"
  | .always => "AlwaysOnSampler"
  | .some _ => "ParentBased"

/-- How a service is described to those who collect its telemetry. -/
structure Identity where
  name : String := ""
  version : String := ""
  environment : String := ""
  deriving DecidableEq

def Identity.attributes (identity : Identity) : List (String × String) :=
  [("service.name", identity.name), ("service.version", identity.version),
   ("deployment.environment", identity.environment)]

/-- The headers in which traces travel from service to service. -/
def propagatedFields : List String := ["baggage", "traceparent", "tracestate"]

def shutDown (logger : Log.Logger) (signal : Signal) (isAgain : Bool) :
    Observed (Option String) := do
  if signal = .metrics ∧ isAgain = true then
    let fault := "reader is shutdown"
    Observed.log logger .error ("failed to shutdown " ++ signal.provider) [("error", .text fault)]
    return some fault
  else
    Observed.log logger .info (signal.provider ++ " shutdown successfully")
    return none

end SelectGraph.Telemetry
