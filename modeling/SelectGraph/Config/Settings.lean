import SelectGraph.Auth.Provider
import SelectGraph.Database.Address
import SelectGraph.Http.Cors
import SelectGraph.Setup.Sources
import SelectGraph.Telemetry.Export

/-!
# Settings

The settings of a server: its database, how it serves, where its sources are, what it logs and what
telemetry it exports.
-/

namespace SelectGraph.Config

structure EncryptionSettings where
  mode : String := ""
  trust : Certificate.TrustFiles := {}
  serverName : String := ""
  deriving DecidableEq

structure PoolSettings where
  maxOpen : Int := 0
  maxIdle : Int := 0
  maxLifetime : Duration := ⟨0⟩
  deriving DecidableEq

structure DatabaseSettings where
  dsn : String := ""
  host : String := ""
  port : Int := 0
  user : String := ""
  password : String := ""
  passwordFile : String := ""
  passwordPrompt : Bool := false
  database : String := ""
  encryption : EncryptionSettings := {}
  pool : PoolSettings := {}
  connectionTimeout : Duration := ⟨0⟩
  retryInterval : Duration := ⟨0⟩
  deriving DecidableEq

structure ServerSettings where
  port : Int := 0
  showsPage : Bool := false
  maxConcurrent : Int := 0
  readTimeout : Duration := ⟨0⟩
  writeTimeout : Duration := ⟨0⟩
  idleTimeout : Duration := ⟨0⟩
  shutdownTimeout : Duration := ⟨0⟩
  healthTimeout : Duration := ⟨0⟩
  cors : Http.CorsSettings := {}
  provider : Auth.ProviderSettings := {}
  deriving DecidableEq

structure LoggingSettings where
  level : String := ""
  format : String := ""
  deriving DecidableEq

structure ObservabilitySettings where
  serviceName : String := ""
  serviceVersion : String := ""
  environment : String := ""
  measures : Bool := false
  traces : Bool := false
  exportsLogs : Bool := false
  sampleRatio : Double := Double.zero false
  commentsStatements : Bool := false
  exports : Telemetry.ExportSettings := {}
  traceExport? : Option Telemetry.ExportSettings := none
  logExport? : Option Telemetry.ExportSettings := none
  deriving DecidableEq

namespace ObservabilitySettings

def traceExport (cfg : ObservabilitySettings) : Telemetry.ExportSettings :=
  cfg.exports.overlay cfg.traceExport?

def logExport (cfg : ObservabilitySettings) : Telemetry.ExportSettings :=
  cfg.exports.overlay cfg.logExport?

end ObservabilitySettings

structure Settings where
  database : DatabaseSettings := {}
  server : ServerSettings := {}
  sources : Setup.SourceSettings := {}
  logging : LoggingSettings := {}
  observability : ObservabilitySettings := {}

def Settings.fileNames (cfg : Settings) : List String :=
  let trust (files : Certificate.TrustFiles) : List String :=
    [files.authorities, files.certificate, files.key]
  let observability := cfg.observability
  ([cfg.sources.sdlFile, cfg.sources.catalogFile, cfg.sources.relationsFile,
      cfg.server.provider.caFile] ++ trust cfg.database.encryption.trust ++
    trust observability.traceExport.trust ++ trust observability.logExport.trust).filter (· ≠ "")

end SelectGraph.Config
