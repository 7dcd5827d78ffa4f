import SelectGraph.Config.Check

/-!
# Settings as JSON

Durations are counts of nanoseconds, and the sample ratio is given by the digits of its bits.
-/

namespace SelectGraph.Telemetry

def ExportSettings.toJson (cfg : ExportSettings) : Json :=
  .object [
    ("endpoint", .text cfg.endpoint),
    ("protocol", .text cfg.protocol),
    ("insecure", .bool cfg.insecure),
    ("tls_cert_file", .text cfg.trust.authorities),
    ("tls_client_cert_file", .text cfg.trust.certificate),
    ("tls_client_key_file", .text cfg.trust.key),
    ("headers", Json.textMap cfg.headers),
    ("timeout_ns", .number (toString cfg.timeout.nanoseconds)),
    ("compression", .text cfg.compression),
    ("retry_enabled", .bool cfg.retries),
    ("retry_max_attempts", .number (toString cfg.attempts))]

def ExportSettings.ofJson (input : Json) : ExportSettings :=
  { endpoint := input.textAt "endpoint"
    protocol := input.textAt "protocol"
    insecure := input.boolAt "insecure"
    trust := {
      authorities := input.textAt "tls_cert_file"
      certificate := input.textAt "tls_client_cert_file"
      key := input.textAt "tls_client_key_file" }
    headers := input.textMapAt "headers"
    timeout := ⟨input.intAt "timeout_ns"⟩
    compression := input.textAt "compression"
    retries := input.boolAt "retry_enabled"
    attempts := input.intAt "retry_max_attempts" }

def Exporter.toJson (exporter : Exporter) : Json :=
  .object [
    ("protocol", .text exporter.protocol.name),
    ("url", .bool exporter.toUrl),
    ("tls", .bool exporter.secured),
    ("gzip", .bool exporter.compresses),
    ("retry", .bool exporter.retries)]

end SelectGraph.Telemetry

namespace SelectGraph.Config

def integerJson (value : Int) : Json :=
  .number (toString value)

def durationJson (value : Duration) : Json :=
  integerJson value.nanoseconds

def DatabaseSettings.toJson (cfg : DatabaseSettings) : Json :=
  .object [
    ("dsn", .text cfg.dsn),
    ("host", .text cfg.host),
    ("port", integerJson cfg.port),
    ("user", .text cfg.user),
    ("password", .text cfg.password),
    ("password_file", .text cfg.passwordFile),
    ("password_prompt", .bool cfg.passwordPrompt),
    ("database", .text cfg.database),
    ("tls", .object [
      ("mode", .text cfg.encryption.mode),
      ("ca_file", .text cfg.encryption.trust.authorities),
      ("cert_file", .text cfg.encryption.trust.certificate),
      ("key_file", .text cfg.encryption.trust.key),
      ("server_name", .text cfg.encryption.serverName)]),
    ("pool", .object [
      ("max_open", integerJson cfg.pool.maxOpen),
      ("max_idle", integerJson cfg.pool.maxIdle),
      ("max_lifetime_ns", durationJson cfg.pool.maxLifetime)]),
    ("connection_timeout_ns", durationJson cfg.connectionTimeout),
    ("connection_retry_interval_ns", durationJson cfg.retryInterval)]

def corsJson (cfg : Http.CorsSettings) : Json :=
  .object [
    ("enabled", .bool cfg.enabled),
    ("allowed_origins", Json.texts cfg.origins),
    ("allowed_methods", Json.texts cfg.methods),
    ("allowed_headers", Json.texts cfg.headers),
    ("expose_headers", Json.texts cfg.exposed),
    ("allow_credentials", .bool cfg.credentials),
    ("max_age", integerJson cfg.maxAge)]

def providerJson (cfg : Auth.ProviderSettings) : Json :=
  .object [
    ("enabled", .bool cfg.enabled),
    ("issuer_url", .text cfg.issuer),
    ("audience", .text cfg.audience),
    ("clock_skew_ns", durationJson cfg.clockSkew),
    ("ca_file", .text cfg.caFile),
    ("skip_tls_verify", .bool cfg.skipsVerification)]

def ServerSettings.toJson (cfg : ServerSettings) : Json :=
  .object [
    ("port", integerJson cfg.port),
    ("graphiql", .bool cfg.showsPage),
    ("max_concurrent_statements", integerJson cfg.maxConcurrent),
    ("read_timeout_ns", durationJson cfg.readTimeout),
    ("write_timeout_ns", durationJson cfg.writeTimeout),
    ("idle_timeout_ns", durationJson cfg.idleTimeout),
    ("shutdown_timeout_ns", durationJson cfg.shutdownTimeout),
    ("health_check_timeout_ns", durationJson cfg.healthTimeout),
    ("cors", corsJson cfg.cors),
    ("oidc", providerJson cfg.provider)]

def sourcesJson (cfg : Setup.SourceSettings) : Json :=
  .object [
    ("sdl_file", .text cfg.sdlFile),
    ("catalog_file", .text cfg.catalogFile),
    ("relationships_file", .text cfg.relationsFile),
    ("derive_relationships", .bool cfg.derives),
    ("type_tables", Json.textMap cfg.typeTables)]

def ObservabilitySettings.toJson (cfg : ObservabilitySettings) : Json :=
  .object [
    ("service_name", .text cfg.serviceName),
    ("service_version", .text cfg.serviceVersion),
    ("environment", .text cfg.environment),
    ("metrics_enabled", .bool cfg.measures),
    ("tracing_enabled", .bool cfg.traces),
    ("logs_enabled", .bool cfg.exportsLogs),
    ("trace_sample_ratio", .text (String.ofList (Text.hexDigits 16 cfg.sampleRatio.bits.toNat))),
    ("sqlcommenter_enabled", .bool cfg.commentsStatements),
    ("otlp", cfg.exports.toJson),
    ("traces", cfg.traceExport?.elim .null (·.toJson)),
    ("logs", cfg.logExport?.elim .null (·.toJson))]

def Settings.toJson (cfg : Settings) : Json :=
  .object [
    ("database", cfg.database.toJson),
    ("server", cfg.server.toJson),
    ("schema", sourcesJson cfg.sources),
    ("naming", .object [
      ("plural_overrides", Json.textMap cfg.sources.naming.plurals),
      ("singular_overrides", Json.textMap cfg.sources.naming.singulars)]),
    ("logging", .object [
      ("level", .text cfg.logging.level),
      ("format", .text cfg.logging.format)]),
    ("observability", cfg.observability.toJson)]

def Finding.toJson (finding : Finding) : Json :=
  .texts [finding.field, finding.message, finding.hint]

/-- Whether a finding stands before another one when findings are listed: by field, then by message,
then by hint. -/
def Finding.isBefore (left right : Finding) : Bool :=
  let key (finding : Finding) : String :=
    Text.join "\x00" [finding.field, finding.message, finding.hint]
  decide (key left ≤ key right)

/-- An outcome as JSON; a failure is reported by its message. -/
def outcomeJson (outcome : Except String String) : Json :=
  match outcome with
  | .ok value => .text value
  | .error message => .object [("error", .text "ERROR"), ("message", .text message)]

/-- Settings with all that a check of them finds, and the connection that they describe. -/
def Settings.report (cfg : Settings) (files : Files) : Json :=
  let findings := cfg.findings files
  let errors := (errors findings).mergeSort Finding.isBefore
  let alone := match errors with
    | [_] => [("error_text", Json.text (errorText findings))]
    | _ => []
  .object ([
    ("config", cfg.toJson),
    ("errors", .list (errors.map Finding.toJson)),
    ("warnings", .list ((warnings findings).map Finding.toJson)),
    ("has_errors", .bool !errors.isEmpty),
    ("dsn", outcomeJson ((cfg.database.address.map Database.Address.write).mapError addressMessage)),
    ("database_name", outcomeJson (cfg.database.name.mapError DatabaseNameError.message))] ++ alone)

end SelectGraph.Config
