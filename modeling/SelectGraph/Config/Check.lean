import SelectGraph.Config.Connection

/-!
# Checking settings

Settings are checked before a server starts. An error keeps it from starting, a warning does not.
-/

namespace SelectGraph.Config

inductive Severity where
  | error
  | warning
  deriving DecidableEq

/-- Something about a setting that is wrong or doubtful, with a hint that may be empty. -/
structure Finding where
  severity : Severity
  field : String
  message : String
  hint : String := ""
  deriving DecidableEq

namespace Finding

def text (finding : Finding) : String :=
  finding.field ++ ": " ++ finding.message ++
    if finding.hint.isEmpty then "" else " (hint: " ++ finding.hint ++ ")"

def errorIf (condition : Bool) (field message : String) (hint : String := "") : List Finding :=
  if condition then [{ severity := .error, field, message, hint }] else []

def warningIf (condition : Bool) (field message hint : String) : List Finding :=
  if condition then [{ severity := .warning, field, message, hint }] else []

end Finding

open Finding (errorIf warningIf)

def isBadPort (port : Int) : Bool :=
  port < 1 || 65535 < port

def portFindings (field : String) (port : Int) : List Finding :=
  errorIf (isBadPort port) field ("port " ++ toString port ++ " is out of valid range (1-65535)")

/-- What is wrong with how a connection to the database is secured. -/
def EncryptionSettings.findings (cfg : EncryptionSettings) : List Finding :=
  (if cfg.mode = "verify-ca" then
    errorIf cfg.trust.authorities.isEmpty "database.tls.ca_file" "verify-ca requires a CA file"
  else
    errorIf (!(["", "off", "skip-verify", "verify-full"].contains cfg.mode)) "database.tls.mode"
      ("invalid TLS mode " ++ Text.quote cfg.mode)
      "valid values are: off, skip-verify, verify-ca, verify-full") ++
  errorIf (cfg.trust.certificate.isEmpty != cfg.trust.key.isEmpty) "database.tls.cert_file"
    "cert_file and key_file must be set together"

def PoolSettings.findings (cfg : PoolSettings) : List Finding :=
  errorIf (cfg.maxOpen < 0) "database.pool.max_open" "max_open cannot be negative" ++
  errorIf (cfg.maxIdle < 0) "database.pool.max_idle" "max_idle cannot be negative" ++
  warningIf (0 < cfg.maxOpen && cfg.maxOpen < cfg.maxIdle) "database.pool.max_idle"
    "max_idle is greater than max_open" "idle connections will be limited to max_open"

/-- What is wrong with how the database is reached. Without a need for a database, only an address
that is given has to be readable. -/
def DatabaseSettings.findings (cfg : DatabaseSettings) (isNeeded : Bool) : List Finding :=
  (if cfg.dsn.isEmpty then portFindings "database.port" cfg.port
  else
    match cfg.address with
    | .ok _ => []
    | .error cause =>
      errorIf true "database.dsn" (addressMessage cause) "use user:pass@tcp(host:port)/db") ++
  (match cfg.name with
    | .ok _ => []
    | .error cause => errorIf isNeeded "database.database" cause.message) ++
  cfg.encryption.findings ++ cfg.pool.findings ++
  errorIf (cfg.connectionTimeout.nanoseconds < 0) "database.connection_timeout"
    "connection_timeout cannot be negative"

/-- What is wrong with the origins that may call the server. -/
def corsFindings (settings : Http.CorsSettings) : List Finding :=
  let allowsAll := settings.origins.any fun origin => Text.trim origin == "*"
  if settings.enabled then
    errorIf settings.origins.isEmpty "server.cors.allowed_origins"
      "CORS enabled but no allowed origins configured" "set allowed_origins or disable CORS" ++
    errorIf (allowsAll && settings.credentials) "server.cors.allowed_origins"
      "wildcard origin (*) cannot be used with credentials"
      "list origins explicitly when allowing credentials" ++
    warningIf (allowsAll && !settings.credentials) "server.cors.allowed_origins"
      "CORS wildcard origin enabled" "use specific origins in production"
  else []

/-- Whether an issuer is reached over a secured connection. -/
def isSecureIssuer (issuer : String) : Bool :=
  match Url.parse issuer with
  | .ok url => url.scheme == "https"
  | .error _ => false

def providerFindings (cfg : Auth.ProviderSettings) : List Finding :=
  if cfg.enabled then
    (if cfg.issuer.isEmpty then
      errorIf true "server.auth.oidc.issuer_url" "issuer URL is required when OIDC is enabled"
    else
      errorIf (!isSecureIssuer cfg.issuer) "server.auth.oidc.issuer_url"
        "issuer URL must be an https URL") ++
    errorIf cfg.audience.isEmpty "server.auth.oidc.audience"
      "audience is required when OIDC is enabled" ++
    warningIf cfg.skipsVerification "server.auth.oidc.skip_tls_verify"
      "TLS verification of the issuer is disabled" "set ca_file instead"
  else []

def ServerSettings.findings (cfg : ServerSettings) : List Finding :=
  portFindings "server.port" cfg.port ++
  errorIf (cfg.maxConcurrent < 0) "server.max_concurrent_statements"
    "max_concurrent_statements cannot be negative" "use 0 to run every root field at once" ++
  warningIf cfg.showsPage "server.graphiql" "GraphiQL is enabled" "disable it outside development" ++
  corsFindings cfg.cors ++ providerFindings cfg.provider

/-- An error for a file that is named and is not there. -/
def fileFindings (files : Files) (field name : String) : List Finding :=
  errorIf (!name.isEmpty && !files.has name) field ("cannot read " ++ name)

def sourceFindings (settings : Setup.SourceSettings) (files : Files) : List Finding :=
  errorIf settings.sdlFile.isEmpty "schema.sdl_file" "a GraphQL SDL file is required" ++
  fileFindings files "schema.sdl_file" settings.sdlFile ++
  fileFindings files "schema.catalog_file" settings.catalogFile ++
  fileFindings files "schema.relationships_file" settings.relationsFile ++
  warningIf (!settings.derives && settings.relationsFile.isEmpty) "schema.relationships_file"
    "no relationships configured" "nested relation fields will fail to resolve"

def LoggingSettings.findings (cfg : LoggingSettings) : List Finding :=
  errorIf (!(["debug", "info", "warn", "error"].contains cfg.level)) "logging.level"
    ("invalid log level " ++ Text.quote cfg.level) "valid values are: debug, info, warn, error" ++
  errorIf (!(["json", "text"].contains cfg.format)) "logging.format"
    ("invalid log format " ++ Text.quote cfg.format) "valid values are: json, text"

def exportFindings (group : String) (cfg : Telemetry.ExportSettings) : List Finding :=
  (if cfg.protocol = "http/protobuf" then
    errorIf (!Telemetry.isHttpEndpoint cfg.endpoint) (group ++ ".endpoint")
      ("invalid OTLP endpoint " ++ Text.quote cfg.endpoint ++ " for http/protobuf")
      "use host:port or a full URL"
  else
    errorIf (!(["", "grpc"].contains cfg.protocol)) (group ++ ".protocol")
      ("invalid OTLP protocol " ++ Text.quote cfg.protocol) "valid values are: grpc, http/protobuf") ++
  errorIf (!(["", "none", "gzip"].contains cfg.compression)) (group ++ ".compression")
    ("invalid OTLP compression " ++ Text.quote cfg.compression) "valid values are: none, gzip" ++
  errorIf (cfg.attempts < 0) (group ++ ".retry_max_attempts")
    "retry_max_attempts cannot be negative"

def ObservabilitySettings.findings (cfg : ObservabilitySettings) : List Finding :=
  errorIf (cfg.sampleRatio.less (Double.ofInt 0) || (Double.ofInt 1).less cfg.sampleRatio)
    "observability.trace_sample_ratio" "trace_sample_ratio must be between 0 and 1" ++
  (if cfg.traces then exportFindings "observability.traces" cfg.traceExport else []) ++
  (if cfg.exportsLogs then exportFindings "observability.logs" cfg.logExport else [])

def Settings.findings (cfg : Settings) (files : Files) : List Finding :=
  cfg.database.findings cfg.sources.catalogFile.isEmpty ++ cfg.server.findings ++
    sourceFindings cfg.sources files ++ cfg.logging.findings ++ cfg.observability.findings

def errors (findings : List Finding) : List Finding :=
  findings.filter (·.severity == .error)

def warnings (findings : List Finding) : List Finding :=
  findings.filter (·.severity == .warning)

def errorText (findings : List Finding) : String :=
  Text.join "; " ((errors findings).map Finding.text)

end SelectGraph.Config
