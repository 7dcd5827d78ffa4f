import SelectGraph.Config.Layers
import SelectGraph.Config.Settings

/-!
# Loading settings

Settings come from the command line, the environment and a file, over standard values. A file that
is named must be readable; without a name, a file in the working directory is used if there is one.
The password of the database may stand in a file of its own.
-/

namespace SelectGraph.Config

open CommandLine (Flag Parsed)

def flags : List Flag :=
  let group (kind : CommandLine.FlagKind) (names : List String) : List Flag :=
    names.map fun name => { name, kind }
  { name := "config", kind := .text, letter? := some 'c' } ::
  group .text ["database.dsn", "database.host", "database.user", "database.password",
    "database.password_file", "database.database", "database.tls.mode", "database.tls.ca_file",
    "server.auth.oidc.issuer_url", "server.auth.oidc.audience", "schema.sdl_file",
    "schema.catalog_file", "schema.relationships_file", "logging.level", "logging.format",
    "observability.otlp.endpoint", "observability.otlp.protocol"] ++
  group .integer ["database.port", "database.pool.max_open", "database.pool.max_idle", "server.port",
    "server.max_concurrent_statements"] ++
  group .switch ["database.password_prompt", "server.graphiql", "server.cors.enabled",
    "server.auth.oidc.enabled", "schema.derive_relationships", "observability.metrics_enabled",
    "observability.tracing_enabled", "observability.logs_enabled", "observability.otlp.insecure"] ++
  group .duration ["database.pool.max_lifetime", "database.connection_timeout",
    "server.shutdown_timeout"] ++
  group .double ["observability.trace_sample_ratio"] ++
  group .texts ["server.cors.allowed_origins"]

namespace Reading

def database : Reading DatabaseSettings := do
  return {
    dsn := ← text "database.dsn" ""
    host := ← text "database.host" "localhost"
    port := ← integer "database.port" 4000
    user := ← text "database.user" "root"
    password := ← text "database.password" ""
    passwordFile := ← text "database.password_file" ""
    passwordPrompt := ← switch "database.password_prompt" false
    database := ← text "database.database" ""
    encryption := {
      mode := ← text "database.tls.mode" ""
      trust := {
        authorities := ← text "database.tls.ca_file" ""
        certificate := ← text "database.tls.cert_file" ""
        key := ← text "database.tls.key_file" "" }
      serverName := ← text "database.tls.server_name" "" }
    pool := {
      maxOpen := ← integer "database.pool.max_open" 25
      maxIdle := ← integer "database.pool.max_idle" 5
      maxLifetime := ← duration "database.pool.max_lifetime" (Duration.ofSeconds 300) }
    connectionTimeout := ← duration "database.connection_timeout" (Duration.ofSeconds 60)
    retryInterval := ← duration "database.connection_retry_interval" (Duration.ofSeconds 2) }

/-- Read how pages of other origins may call the server. -/
def cors : Reading Http.CorsSettings := do
  return {
    enabled := ← switch "server.cors.enabled" false
    origins := ← texts "server.cors.allowed_origins" []
    methods := ← texts "server.cors.allowed_methods" ["GET", "POST", "OPTIONS"]
    headers := ← texts "server.cors.allowed_headers" ["Content-Type", "Authorization"]
    exposed := ← texts "server.cors.expose_headers" ["X-Request-ID"]
    credentials := ← switch "server.cors.allow_credentials" false
    maxAge := ← integer "server.cors.max_age" 86400 }

def provider : Reading Auth.ProviderSettings := do
  return {
    enabled := ← switch "server.auth.oidc.enabled" false
    issuer := ← text "server.auth.oidc.issuer_url" ""
    audience := ← text "server.auth.oidc.audience" ""
    caFile := ← text "server.auth.oidc.ca_file" ""
    clockSkew := ← duration "server.auth.oidc.clock_skew" (Duration.ofSeconds 120)
    skipsVerification := ← switch "server.auth.oidc.skip_tls_verify" false }

def server : Reading ServerSettings := do
  return {
    port := ← integer "server.port" 8080
    showsPage := ← switch "server.graphiql" false
    maxConcurrent := ← integer "server.max_concurrent_statements" 4
    readTimeout := ← duration "server.read_timeout" (Duration.ofSeconds 15)
    writeTimeout := ← duration "server.write_timeout" (Duration.ofSeconds 30)
    idleTimeout := ← duration "server.idle_timeout" (Duration.ofSeconds 60)
    shutdownTimeout := ← duration "server.shutdown_timeout" (Duration.ofSeconds 30)
    healthTimeout := ← duration "server.health_check_timeout" (Duration.ofSeconds 2)
    cors := ← cors
    provider := ← provider }

def sources : Reading Setup.SourceSettings := do
  return {
    sdlFile := ← text "schema.sdl_file" ""
    catalogFile := ← text "schema.catalog_file" ""
    relationsFile := ← text "schema.relationships_file" ""
    derives := ← switch "schema.derive_relationships" true
    typeTables := ← textMap "schema.type_tables"
    naming := ⟨← textMap "naming.plural_overrides", ← textMap "naming.singular_overrides"⟩ }

def logging : Reading LoggingSettings := do
  return { level := ← text "logging.level" "info", format := ← text "logging.format" "json" }

def exporting (group : String) (standard : Telemetry.ExportSettings) :
    Reading Telemetry.ExportSettings := do
  return {
    endpoint := ← text (group ++ ".endpoint") standard.endpoint
    protocol := ← text (group ++ ".protocol") standard.protocol
    insecure := ← switch (group ++ ".insecure") standard.insecure
    trust := {
      authorities := ← text (group ++ ".tls_cert_file") standard.trust.authorities
      certificate := ← text (group ++ ".tls_client_cert_file") standard.trust.certificate
      key := ← text (group ++ ".tls_client_key_file") standard.trust.key }
    headers := ← textMap (group ++ ".headers")
    timeout := ← duration (group ++ ".timeout") standard.timeout
    compression := ← text (group ++ ".compression") standard.compression
    retries := ← switch (group ++ ".retry_enabled") standard.retries
    attempts := ← integer (group ++ ".retry_max_attempts") standard.attempts }

/-- Read how one kind of telemetry is exported, if the file says anything about it. -/
def exportingOwn? (group : String) : Reading (Option Telemetry.ExportSettings) := do
  let own ← withinFile (exporting group {})
  return if ← mentions (Text.split group '.') then some own else none

/-- How telemetry is exported when nothing else is said. -/
def standardExport : Telemetry.ExportSettings :=
  { endpoint := "localhost:4317", protocol := "grpc", timeout := Duration.ofSeconds 10
    compression := "gzip", retries := true, attempts := 3 }

def observability : Reading ObservabilitySettings := do
  return {
    serviceName := ← text "observability.service_name" "gql2sql"
    serviceVersion := ← text "observability.service_version" ""
    environment := ← text "observability.environment" "development"
    measures := ← switch "observability.metrics_enabled" true
    traces := ← switch "observability.tracing_enabled" false
    exportsLogs := ← switch "observability.logs_enabled" false
    sampleRatio := ← double "observability.trace_sample_ratio" (Double.ofInt 1)
    commentsStatements := ← switch "observability.sqlcommenter_enabled" true
    exports := ← exporting "observability.otlp" standardExport
    traceExport? := ← exportingOwn? "observability.traces"
    logExport? := ← exportingOwn? "observability.logs" }

def settings : Reading Settings := do
  return {
    database := ← database
    server := ← server
    sources := ← sources
    logging := ← logging
    observability := ← observability }

end Reading

inductive LoadError where
  | missingFile (cause : FileError)
  | unreadableFile
  | passwordFile (cause : FileError)
  | passwordPrompt
  | unfit
  deriving DecidableEq

def LoadError.message : LoadError → String
  | .missingFile cause => "failed to read config file: " ++ cause.message
  | .unreadableFile => "failed to read config file: malformed file"
  | .passwordFile cause => "failed to read database password file: " ++ cause.message
  | .passwordPrompt => "failed to read password: inappropriate ioctl for device"
  | .unfit => "failed to unmarshal config: a setting is unknown or its value does not fit"

/-- The endings that the name of a file of settings may have. -/
def fileEndings : List String :=
  ["", ".json", ".toml", ".yaml", ".yml", ".properties", ".props", ".prop", ".hcl", ".tfvars", ".dotenv",
   ".env", ".ini"]

/-- What the file of settings holds. A file that is named must have an ending that tells its form;
the file in the working directory is used whatever its ending. -/
def readFile (named : String) (files : Files) : Except LoadError Value := do
  if named.isEmpty then
    match fileEndings.findSome? fun ending => (files.read ("gql2sql" ++ ending)).toOption with
    | none => return .group []
    | some content => (Value.ofYaml content).mapError fun _ => LoadError.unreadableFile
  else
    let content ← (files.read named).mapError LoadError.missingFile
    if Text.endsWith named ".json" then
      match Value.readJson? content with
      | some value => return value
      | none => throw LoadError.unreadableFile
    else if [".yaml", ".yml"].any fun ending => Text.endsWith named ending then
      (Value.ofYaml content).mapError fun _ => LoadError.unreadableFile
    else throw LoadError.unreadableFile

def candidateFiles (flags : Parsed) : List String :=
  match flags.textOf "config" "" with
  | "" => fileEndings.map ("gql2sql" ++ ·)
  | named => [named]

/-- The variables of the environment in which settings may stand. -/
def variableNames : List String :=
  match (ReaderT.run Reading.settings {}).run [] with
  | some (_, asked) => asked.map fun setting => Layers.variableName setting.path
  | none => []

structure Surroundings where
  files : Files := {}
  environment : List (String × String) := []
  input : String := ""

/-- The password, if it has to be taken from a file or asked for. There is no terminal to ask at. -/
def findPassword? (layers : Layers) (around : Surroundings) : Except LoadError (Option String) := do
  let written (name : String) : String :=
    (layers.value? ["database", name]).elim "" Value.written
  if written "password" ≠ "" then return none
  let file := written "password_file"
  if file = "@-" then return some (Text.trim around.input)
  else if file ≠ "" then
    let content ← (around.files.read file).mapError LoadError.passwordFile
    return some (Text.trim content)
  else if (layers.value? ["database", "password_prompt"]).any Value.truth then
    throw LoadError.passwordPrompt
  else return none

/-- Load the settings that flags, surroundings and standard values give. -/
def load (flags : Parsed) (around : Surroundings) : Except LoadError Settings := do
  let file ← readFile (flags.textOf "config" "") around.files
  let given := flags.values.filter fun entry => entry.1 ≠ "config" ∧ entry.1 ≠ "version"
  let layers : Layers :=
    { given := given.map fun (name, value) => (name, Layers.ofFlag value)
      environment := around.environment
      file }
  let layers ← match ← findPassword? layers around with
    | none => pure layers
    | some password =>
      pure { layers with given := ("database.password", .text password) :: layers.given }
  match Reading.settings.run layers with
  | some cfg => return cfg
  | none => throw LoadError.unfit

end SelectGraph.Config
