import SelectGraph.Telemetry.Journal

/-!
# Waiting for the database

A server waits for its database when it starts. Between attempts it pauses, each time twice as long
up to a limit, until the time that it may wait has passed.
-/

namespace SelectGraph.Setup

open Telemetry (Observed)

/-- How long to wait, and how long to pause at first. Without a time to wait there is one attempt. -/
structure Patience where
  timeout : Duration := ⟨0⟩
  interval : Duration := ⟨0⟩
  deriving DecidableEq

inductive AwaitError where
  | refused (fault : Database.Fault)
  | timedOut (timeout : Duration) (fault : Database.Fault)
  | calledOff
  deriving DecidableEq

def AwaitError.message : AwaitError → String
  | .refused fault => fault.text
  | .timedOut timeout fault =>
    "database not available after " ++ timeout.toText ++ ": " ++ fault.text
  | .calledOff => Database.Fault.cancelled.text

def longestPause : Duration := Duration.ofSeconds 30

def Patience.firstPause (patience : Patience) : Duration :=
  if patience.interval.nanoseconds ≤ 0 then Duration.ofSeconds 1 else patience.interval

def nextPause (pause : Duration) : Duration :=
  ⟨min (2 * pause.nanoseconds) longestPause.nanoseconds⟩

/-- Whether the time to wait has passed after pauses. An attempt takes more than a nanosecond. -/
def Patience.isOver (patience : Patience) (paused : Int) : Bool :=
  patience.timeout.nanoseconds ≤ paused + 1

/-- Try to reach the database, at most as many times as `attempts` says. -/
def attemptFrom (patience : Patience) (logger : Log.Logger) (backend : Database.Backend)
    (isCancelled : Bool) :
    (attempts number : Nat) → (paused : Int) → (pause : Duration) → Observed (Except AwaitError Unit)
  | 0, _, _, _ => return .error .calledOff
  | attempts + 1, number, paused, pause => do
      match ← Observed.session (Database.Session.ping backend isCancelled) with
      | none =>
        if 1 < number then
          Observed.log logger .info "database connection established" [("attempts", .integer number)]
        return .ok ()
      | some fault =>
        if patience.isOver paused then return .error (.timedOut patience.timeout fault)
        Observed.log logger .warn "database not ready, retrying"
          [("attempt", .integer number), ("retry_in", .duration pause), ("error", .text fault.text)]
        if isCancelled then return .error .calledOff
        attemptFrom patience logger backend isCancelled attempts (number + 1)
          (paused + pause.nanoseconds) (nextPause pause)

/-- A bound on the attempts: pauses grow until they are longest, and each is at least a
nanosecond. -/
def Patience.mostAttempts (patience : Patience) : Nat :=
  64 + (patience.timeout.nanoseconds / longestPause.nanoseconds).toNat

def await (patience : Patience) (logger : Log.Logger) (backend : Database.Backend)
    (isCancelled : Bool) : Observed (Except AwaitError Unit) := do
  if patience.timeout.nanoseconds = 0 then
    match ← Observed.session (Database.Session.ping backend isCancelled) with
    | none => return .ok ()
    | some fault => return .error (.refused fault)
  else attemptFrom patience logger backend isCancelled patience.mostAttempts 1 0 patience.firstPause

end SelectGraph.Setup
