import SelectGraph.Certificate.Basic
import SelectGraph.Files
import SelectGraph.Time.Duration
import SelectGraph.Url.Basic

/-!
# Providers of identities

A provider issues the tokens. Its settings are checked before it is asked for its keys.
-/

namespace SelectGraph.Auth

structure ProviderSettings where
  enabled : Bool := false
  issuer : String := ""
  audience : String := ""
  caFile : String := ""
  clockSkew : Duration := ⟨0⟩
  skipsVerification : Bool := false
  deriving DecidableEq

inductive ProviderError where
  | incomplete
  | issuer (cause : Url.ParseError)
  | insecure
  | caFile (cause : FileError)
  | noCertificates (file : String)
  | unreachable (cause : String)
  deriving DecidableEq

def ProviderError.message : ProviderError → String
  | .incomplete => "oidc auth enabled but issuer/audience not configured"
  | .issuer cause => "invalid oidc issuer url: " ++ cause.message
  | .insecure => "oidc issuer url must use https"
  | .caFile cause => "failed to read oidc CA file: " ++ cause.message
  | .noCertificates file => "oidc CA file " ++ file ++ " contains no certificates"
  | .unreachable cause => "failed to initialize oidc provider: " ++ cause

def ProviderSettings.check (cfg : ProviderSettings) (files : Files) :
    Except ProviderError Unit := do
  if cfg.issuer = "" ∨ cfg.audience = "" then throw ProviderError.incomplete
  let url ← (Url.parse cfg.issuer).mapError ProviderError.issuer
  if url.scheme ≠ "https" then throw ProviderError.insecure
  if cfg.caFile ≠ "" then
    let text ← (files.read cfg.caFile).mapError ProviderError.caFile
    if (Certificate.all text).isEmpty then throw (ProviderError.noCertificates cfg.caFile)

/-- Reach a provider. Here no network is at hand, so a provider that is enabled and well configured
cannot be reached. -/
def ProviderSettings.connect (cfg : ProviderSettings) (files : Files) :
    Except ProviderError Unit := do
  if cfg.enabled then
    cfg.check files
    throw (ProviderError.unreachable "no network")

end SelectGraph.Auth
