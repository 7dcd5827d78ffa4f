import SelectGraph.Certificate.Basic
import SelectGraph.Files

/-!
# Trust

A secured connection is set up from files: certificates of the authorities it trusts, and a
certificate with its private key that the client shows. Each may be left out.
-/

namespace SelectGraph.Certificate

/-- The files of a secured connection; an empty name stands for none. -/
structure TrustFiles where
  authorities : String := ""
  certificate : String := ""
  key : String := ""
  deriving DecidableEq

inductive TrustError where
  | authoritiesFile (file : String) (cause : FileError)
  | noAuthorities (file : String)
  | halfPair
  | pairFile (cause : FileError)
  | noPair
  deriving DecidableEq

def TrustError.pairCause : TrustError → String
  | .pairFile cause => cause.message
  | _ => "the private key does not belong to the certificate"

namespace TrustFiles

def checkAuthorities (trust : TrustFiles) (files : Files) : Except TrustError Unit := do
  if trust.authorities ≠ "" then
    let text ← (files.read trust.authorities).mapError (TrustError.authoritiesFile trust.authorities)
    if (Certificate.all text).isEmpty then throw (TrustError.noAuthorities trust.authorities)

def checkPair (trust : TrustFiles) (files : Files) : Except TrustError Unit := do
  if trust.certificate ≠ "" ∨ trust.key ≠ "" then
    if trust.certificate = "" ∨ trust.key = "" then throw TrustError.halfPair
    let certificate ← (files.read trust.certificate).mapError TrustError.pairFile
    let key ← (files.read trust.key).mapError TrustError.pairFile
    if !Certificate.isPair certificate key then throw TrustError.noPair

/-- Check the files of a secured connection, the authorities first. -/
def check (trust : TrustFiles) (files : Files) : Except TrustError Unit := do
  trust.checkAuthorities files
  trust.checkPair files

end TrustFiles

inductive ChainError where
  | empty
  | malformed
  | untrusted
  deriving DecidableEq

def ChainError.message : ChainError → String
  | .empty => "server presented no certificate"
  | .malformed => "failed to parse server certificate: x509: malformed certificate"
  | .untrusted => "x509: certificate signed by unknown authority"

/-- Check the certificates that a server shows. A chain of well-formed certificates is trusted when
its first one is among the authorities. -/
def checkChain (authorities : List Certificate) (chain : List (List UInt8)) :
    Except ChainError Unit :=
  match chain with
  | [] => .error .empty
  | _ =>
    match chain.mapM ofBytes? with
    | none => .error .malformed
    | some [] => .error .empty
    | some (first :: _) =>
      if authorities.any fun authority => authority.publicKey == first.publicKey then .ok ()
      else .error .untrusted

end SelectGraph.Certificate
