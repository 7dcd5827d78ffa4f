import SelectGraph.Database.Fetch
import SelectGraph.Plan.Statement
import SelectGraph.Response.Body
import SelectGraph.Tree.Build

/-!
# Failures of a request

Why a request is not answered with data, how that is told to the client, and with which status.
Clients learn nothing about failures inside the server.
-/

namespace SelectGraph.Engine

open Response (Code Entry)

/-- A request that was refused before anything was compiled. -/
structure Rejection where
  code : Code
  entries : List Entry
  status : Nat := 200

def Rejection.bad (message : String) (status : Nat := 200) : Rejection :=
  { code := .badRequest, status, entries := [{ message, code := Code.badRequest.name }] }

inductive Failure where
  | rejected (rejection : Rejection)
  | build (error : Tree.BuildError)
  | plan (error : Plan.PlanError)
  | fetch (error : Database.FetchError)
  | invalidValue (field : String)
  | noExecutor

namespace Failure

def code : Failure → Code
  | .rejected rejection => rejection.code
  | .build (.resolution _) | .plan (.resolution _) => .schemaResolution
  | .plan (.relation _) => .relationNotFound
  | .fetch (.cardinality _) => .cardinalityViolation
  | .fetch (.store _ _) => .backingStore
  | .build _ | .invalidValue _ | .noExecutor => .internal

def message : Failure → String
  | .rejected rejection => Text.join "; " (rejection.entries.map Entry.message)
  | .build error => error.message
  | .plan error => error.message
  | .fetch error => error.message
  | .invalidValue field => Response.invalidValue field
  | .noExecutor => "engine has no executor"

def entries (failure : Failure) : List Entry :=
  match failure with
  | .rejected rejection => rejection.entries
  | other =>
    let told := if other.code = .internal then "internal server error" else other.message
    [{ message := told, code := other.code.name }]

def status (failure : Failure) : Nat :=
  match failure with
  | .rejected rejection => rejection.status
  | other => if other.code = .internal then 500 else 200

end Failure

end SelectGraph.Engine
