import SelectGraph.Config.Settings

/-!
# The connection that settings describe

The address of the database is given whole, or put together from its parts. Times are read as
times, in universal time. How the connection is secured is taken from the address when it says so.
-/

namespace SelectGraph.Config

/-- The name under which a secured connection is set up. -/
def encryptionName : String := "gql2sql-custom"

inductive DatabaseNameError where
  | address (cause : Database.AddressFault)
  | mismatch (named addressed : String)
  | missing
  deriving DecidableEq

def addressMessage (cause : Database.AddressFault) : String :=
  "database.dsn is invalid: " ++ cause.message

def DatabaseNameError.message : DatabaseNameError → String
  | .address cause => addressMessage cause
  | .mismatch named addressed =>
    "database mismatch: database.database=" ++ Text.quote named ++ " but database.dsn targets " ++
      Text.quote addressed
  | .missing =>
    "no database configured: set database.database or include /<database> in database.dsn"

/-- How an address says that its connection is secured. -/
def EncryptionSettings.option (cfg : EncryptionSettings) : String :=
  match cfg.mode with
  | "off" => "false"
  | "verify-ca" | "verify-full" => encryptionName
  | mode => mode

structure EncryptionError where
  cause : Certificate.TrustError
  deriving DecidableEq

def EncryptionError.message (error : EncryptionError) : String :=
  "failed to build TLS config: " ++
    match error.cause with
    | .authoritiesFile file cause =>
      "failed to read CA file " ++ Text.quote file ++ ": " ++ cause.message
    | .noAuthorities file => "failed to parse CA certificate from " ++ Text.quote file
    | .halfPair =>
      "both cert_file and key_file must be specified for client certificate authentication"
    | cause => "failed to load client certificate: " ++ cause.pairCause

/-- Set up a secured connection. Only the modes that verify the server look at the files. -/
def EncryptionSettings.prepare (cfg : EncryptionSettings) (files : Files) :
    Except EncryptionError Unit :=
  if cfg.mode = "verify-ca" ∨ cfg.mode = "verify-full" then
    (cfg.trust.check files).mapError EncryptionError.mk
  else .ok ()

namespace DatabaseSettings

def givenAddress (cfg : DatabaseSettings) : Except Database.AddressFault Database.Address :=
  if cfg.dsn.isEmpty then
    .ok {
      user := cfg.user
      password := cfg.password
      network := "tcp"
      address := Net.joinHostPort cfg.host (toString cfg.port)
      database := cfg.database }
  else Database.Address.read cfg.dsn

def address (cfg : DatabaseSettings) : Except Database.AddressFault Database.Address := do
  let address ← cfg.givenAddress
  let options := Database.Address.set (Database.Address.set address.options "parseTime" "true") "loc" "UTC"
  let options :=
    if (address.option "tls").isEmpty then
      Database.Address.set options "tls" cfg.encryption.option
    else options
  return { address with options }

inductive OpenError where
  | encryption (cause : EncryptionError)
  | given (cause : Database.AddressFault)
  | used (cause : Database.AddressFault)
  deriving DecidableEq

def OpenError.message : OpenError → String
  | .encryption cause => cause.message
  | .given cause => addressMessage cause
  | .used cause => cause.message

/-- The address under which the database is opened: the one that settings give, written and read
again. -/
def openAddress (cfg : DatabaseSettings) (files : Files) : Except OpenError Database.Address := do
  (cfg.encryption.prepare files).mapError OpenError.encryption
  let address ← cfg.address.mapError OpenError.given
  let names := if cfg.encryption.option = encryptionName then [encryptionName] else []
  (Database.Address.read address.write names).mapError OpenError.used

def name (cfg : DatabaseSettings) : Except DatabaseNameError String := do
  let address ← cfg.address.mapError DatabaseNameError.address
  if cfg.database.isEmpty then
    if address.database.isEmpty then throw DatabaseNameError.missing else return address.database
  else if !address.database.isEmpty && cfg.database != address.database then
    throw (DatabaseNameError.mismatch cfg.database address.database)
  else return cfg.database

end DatabaseSettings

end SelectGraph.Config
