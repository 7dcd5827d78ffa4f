import SelectGraph.Database.Basic
import SelectGraph.Sql.Render

/-!
# Fetching root values

Every root field has a command that yields at most one row with one cell, its JSON value. Commands
run over a connection of their own; the commands of a request may be in flight together, and the
first that fails calls the others off.
-/

namespace SelectGraph.Database

structure Command where
  field : String
  sql : String
  arguments : List Literal

inductive FetchError where
  | cardinality (field : String)
  | store (field : String) (fault : Fault)
  deriving DecidableEq

def FetchError.message : FetchError → String
  | .cardinality field => "field " ++ field ++ " expects at most one row but the query returned more"
  | .store field fault => "query for " ++ field ++ " failed: " ++ fault.text

/-- Whether a fetch failed only because the request was called off. -/
def FetchError.isCancellation : FetchError → Bool
  | .cardinality _ => false
  | .store _ fault => fault.isCancellation

/-- The number with which a server reports that a subquery gave several rows. -/
def severalRowsNumber : Nat := 1242

def FetchError.ofFault (field : String) (fault : Fault) : FetchError :=
  if fault.number? = some severalRowsNumber then .cardinality field else .store field fault

/-- How commands reach the database: over any connection, or over one on which a database has been
selected first. `unavailable` stands for no database at all. -/
inductive Executor where
  | unavailable
  | plain
  | scoped (database : String)
  deriving DecidableEq

/-- The heading of a fault while a connection is acquired. -/
def Executor.acquireFault : Executor → Fault → Fault
  | .scoped _, fault => fault.under "failed to acquire connection"
  | _, fault => fault

/-- The database an executor selects before each command. -/
def Executor.database? : Executor → Option String
  | .scoped "" => none
  | .scoped name => some name
  | _ => none

def useStatement (name : String) : String :=
  "USE " ++ Sql.quoteIdentifier name

/-- Select the database of an executor on a connection, if it has one. -/
def Executor.select (executor : Executor) (backend : Backend) (conn : Nat) :
    Session (Option Fault) := do
  match executor.database? with
  | none => return none
  | some name =>
    let fault? := backend.exec? (← get) (useStatement name)
    Session.note (.executed conn (useStatement name))
    return fault?.map (Fault.under ("failed to select database " ++ name))

/-- Rows to be read. Their connection is held until they are closed. -/
structure Rows where
  connection : Nat
  answer : Answer

def Rows.close (rows : Rows) : Session Unit :=
  Session.note (.released rows.connection)

/-- Put a command to the database over a connection of its own. The connection is given back as soon
as a step fails, and otherwise held by the rows. -/
def Executor.query (executor : Executor) (backend : Backend) (isCancelled : Bool)
    (command : Command) : Session (Except Fault Rows) := do
  if executor = .unavailable then return .error .closed
  if isCancelled then return .error (executor.acquireFault .cancelled)
  match ← Session.acquire backend with
  | .error fault => return .error (executor.acquireFault fault)
  | .ok connection =>
    match ← executor.select backend connection with
    | some fault =>
      Session.note (.released connection)
      return .error fault
    | none =>
      let reply := backend.query (← get) command.sql command.arguments
      Session.note (.queried connection command.sql command.arguments)
      match reply with
      | .error fault =>
        Session.note (.released connection)
        return .error fault
      | .ok answer => return .ok { connection, answer }

/-- The single cell of an answer: nothing without a row, or for null. -/
def Answer.cell (field : String) (answer : Answer) : Except FetchError (Option String) :=
  let last (value : Option String) : Except FetchError (Option String) :=
    match answer.fault? with
    | some fault => .error (.ofFault field fault)
    | none => .ok value
  match answer.rows with
  | [] => last none
  | row :: rows =>
    if answer.columns ≠ 1 then
      .error (.store field { text := "sql: expected " ++ toString answer.columns ++
        " destination arguments in Scan, not 1" })
    else if rows.isEmpty then last (row.head?.bind Cell.text?)
    else .error (.cardinality field)

/-- Fetch the value of a root field. The rows are closed however reading them ends. -/
def fetch (backend : Backend) (executor : Executor) (isCancelled : Bool) (command : Command) :
    Session (Except FetchError (Option String)) := do
  match ← executor.query backend isCancelled command with
  | .error fault => return .error (.ofFault command.field fault)
  | .ok rows =>
    let outcome := rows.answer.cell command.field
    rows.close
    return outcome

/-- A command that has been started and what it will yield. -/
structure Flight where
  index : Nat
  command : Command
  outcome : Except FetchError (Option String)

/-- The flight when the request is called off before its command has ended. -/
def Flight.calledOff (flight : Flight) : Flight :=
  { flight with outcome := .error (.ofFault flight.command.field .cancelled) }

/-- How far the commands of a request have come: those not started, those in flight in the order of
their start, those that landed in the order of their landing, and the first failure. -/
structure Progress where
  waiting : List (Nat × Command)
  flying : List Flight := []
  landed : List Flight := []
  failure? : Option FetchError := none

def failureOf? : Except FetchError (Option String) → Option FetchError
  | .error error => some error
  | .ok _ => none

/-- How a request goes on: whether the next command starts, if it can, or which flight lands, and
whether that flight is called off by a failure before it. -/
structure Move where
  starts : Bool := true
  place : Nat := 0
  isCalledOff : Bool := false
  deriving DecidableEq

namespace Progress

def initial (commands : List Command) : Progress :=
  { waiting := commands.zipIdx.map fun (command, index) => (index, command) }

/-- Whether the limit allows another command in flight; no limit allows any number. -/
def hasRoom (limit? : Option Nat) (progress : Progress) : Bool :=
  match limit? with
  | some limit => progress.flying.length < limit
  | none => true

/-- Let a flight land; a place beyond the last one counts as the first. Nothing is called off before
the first failure. -/
def land (move : Move) (progress : Progress) : Progress :=
  let chosen := if move.place < progress.flying.length then move.place else 0
  match progress.flying[chosen]? with
  | none => progress
  | some flight =>
    let flight := if move.isCalledOff && progress.failure?.isSome then flight.calledOff else flight
    { progress with
      flying := progress.flying.eraseIdx chosen
      landed := progress.landed ++ [flight]
      failure? := progress.failure? <|> failureOf? flight.outcome }

/-- Make a move: start the next command, or let a flight land where none can start. After a failure
commands start called off. -/
def advance (start : Bool → Command → Session (Except FetchError (Option String)))
    (limit? : Option Nat) (move : Move) (progress : Progress) : Session Progress :=
  match progress.waiting with
  | [] => return progress.land move
  | (index, command) :: waiting => do
      if progress.hasRoom limit? && (move.starts || progress.flying.isEmpty) then
        let outcome ← start progress.failure?.isSome command
        return { progress with waiting, flying := progress.flying ++ [⟨index, command, outcome⟩] }
      else return progress.land move

end Progress

/-- Make moves by a schedule. Where it says nothing, commands start as long as there is room, and
then the first flight lands. -/
def makeMoves (start : Bool → Command → Session (Except FetchError (Option String)))
    (limit? : Option Nat) : (count : Nat) → (schedule : List Move) → Progress → Session Progress
  | 0, _, progress => return progress
  | count + 1, schedule, progress => do
      makeMoves start limit? count schedule.tail
        (← progress.advance start limit? (schedule.headD {}))

/-- What fetching all root values gave: the values in the order of the commands or the first
failure, and the commands with their failures in the order in which they landed. -/
structure FetchResult where
  outcome : Except FetchError (List (Option String))
  landed : List Flight

def valueAt (landed : List Flight) (index : Nat) : Option String :=
  match landed.find? fun flight => flight.index == index with
  | some flight =>
    match flight.outcome with
    | .ok value => value
    | .error _ => none
  | none => none

/-- What commands have given when all of them have landed. -/
def Progress.result (count : Nat) (progress : Progress) : FetchResult :=
  { outcome := match progress.failure? with
      | some failure => .error failure
      | none => .ok ((List.range count).map (valueAt progress.landed))
    landed := progress.landed }

/-- The limit a setting stands for: a positive number bounds the commands in flight. -/
def limitOf (setting : Int) : Option Nat :=
  if 0 < setting then some setting.toNat else none

/-- How far the commands of a request have come after a number of moves. -/
def progressAfter (backend : Backend) (executor : Executor) (isCancelled : Bool)
    (limit? : Option Nat) (schedule : List Move) (commands : List Command) (moves : Nat) :
    Session Progress :=
  let start (failed : Bool) (command : Command) :=
    fetch backend executor (isCancelled || failed) command
  makeMoves start limit? moves schedule (.initial commands)

/-- Fetch all root values. The schedule tells when commands start and in which order they land; every
command takes two moves. -/
def fetchAll (backend : Backend) (executor : Executor) (isCancelled : Bool) (limit? : Option Nat)
    (schedule : List Move) (commands : List Command) : Session FetchResult := do
  let progress ← progressAfter backend executor isCancelled limit? schedule commands
    (2 * commands.length)
  return progress.result commands.length

end SelectGraph.Database
