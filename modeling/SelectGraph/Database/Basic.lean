import SelectGraph.Literal.Basic

/-!
# Databases

What a database does when it is used: whether connecting, pinging, executing and querying succeed,
and the rows a query gives. Everything that reaches the database is an event, and what it does may
depend on all that happened before.
-/

namespace SelectGraph.Database

/-- A failure of the database: its text, the number the server gave it, and whether it only says that
the request was called off. -/
structure Fault where
  text : String
  number? : Option Nat := none
  isCancellation : Bool := false
  deriving DecidableEq

/-- The fault of using the database for a request that was called off. -/
def Fault.cancelled : Fault := { text := "context canceled", isCancellation := true }

def Fault.closed : Fault := { text := "sql: connection is already closed" }

def Fault.under (heading : String) (fault : Fault) : Fault :=
  { fault with text := heading ++ ": " ++ fault.text }

inductive Cell where
  | null
  | text (value : String)
  | int (value : Int)
  | bool (value : Bool)
  deriving DecidableEq

def Cell.text? : Cell → Option String
  | .null => none
  | .text value => some value
  | .int value => some (toString value)
  | .bool value => some (if value then "true" else "false")

/-- The rows a query gives, and the fault that follows them. -/
structure Answer where
  columns : Nat
  rows : List (List Cell)
  fault? : Option Fault := none
  deriving Inhabited

/-- What reaches the database. Connections are numbered in the order in which they are acquired. -/
inductive Event where
  | refused
  | acquired (conn : Nat)
  | pinged (conn : Nat)
  | executed (conn : Nat) (sql : String)
  | queried (conn : Nat) (sql : String) (args : List Literal)
  | released (conn : Nat)

def Event.isAcquisition : Event → Bool
  | .acquired _ => true
  | _ => false

def Event.isPing : Event → Bool
  | .pinged _ => true
  | _ => false

/-- The behaviour of a database, given the events so far. -/
structure Backend where
  connect? : (past : List Event) → Option Fault
  ping? : (past : List Event) → Option Fault
  exec? : (past : List Event) → (sql : String) → Option Fault
  query : (past : List Event) → (sql : String) → (args : List Literal) → Except Fault Answer

def Backend.closed (backend : Backend) : Backend :=
  { backend with connect? := fun _ => some { text := "sql: database is closed" } }

/-- Use of a database, which leaves a trace of events. -/
abbrev Session := StateM (List Event)

namespace Session

def note (event : Event) : Session Unit :=
  modify (· ++ [event])

/-- Acquire a connection, unless the database refuses it. -/
def acquire (backend : Backend) : Session (Except Fault Nat) := do
  let past ← get
  match backend.connect? past with
  | some fault =>
    note .refused
    return .error fault
  | none =>
    let conn := past.countP Event.isAcquisition
    note (.acquired conn)
    return .ok conn

def ping (backend : Backend) (isCancelled : Bool) : Session (Option Fault) := do
  if isCancelled then return some .cancelled
  match ← acquire backend with
  | .error fault => return some fault
  | .ok conn =>
    let fault? := backend.ping? (← get)
    note (.pinged conn)
    note (.released conn)
    return fault?

end Session

/-! ## Queries with several rows

A query runs over a connection of its own, and every row is read into a value. The first row that
does not fit ends the query. -/

def scanFault (index : Nat) (cause : String) : Fault :=
  { text := "sql: Scan error on column index " ++ toString index ++ ": " ++ cause }

abbrev RowReader (α : Type) := List Cell → Except Fault α

def textColumn (cells : List Cell) (index : Nat) : Except Fault String :=
  match (cells[index]?).bind Cell.text? with
  | some text => .ok text
  | none => .error (scanFault index "converting NULL to string is unsupported")

/-- The value of a run of digits with an optional sign, if it is that of a machine integer. -/
def machineInt? (text : String) : Option Int :=
  let (isNegative, digits) := match text.toList with
    | '-' :: rest => (true, rest)
    | '+' :: rest => (false, rest)
    | chars => (false, chars)
  if digits.isEmpty || !digits.all Text.isDigit then none
  else
    let magnitude : Int := Text.digitsValue digits
    let value := if isNegative then -magnitude else magnitude
    if Word.fitsSigned value then some value else none

def intColumn (cells : List Cell) (index : Nat) : Except Fault Int :=
  match (cells[index]?).bind Cell.text? with
  | some text =>
    match machineInt? text with
    | some value => .ok value
    | none => .error (scanFault index ("converting " ++ Text.quote text ++ " to a int: invalid syntax"))
  | none => .error (scanFault index "converting NULL to int is unsupported")

def Answer.readRows {α : Type} (answer : Answer) (cols : Nat) (read : RowReader α) :
    Except Fault (List α) := do
  let fitting (cells : List Cell) : Except Fault α :=
    if answer.columns = cols then read cells
    else .error { text := "sql: expected " ++ toString answer.columns ++
      " destination arguments in Scan, not " ++ toString cols }
  let values ← answer.rows.mapM fitting
  match answer.fault? with
  | some fault => .error fault
  | none => return values

def queryRows {α : Type} (backend : Backend) (sql : String) (args : List Literal)
    (cols : Nat) (read : RowReader α) : Session (Except Fault (List α)) := do
  match ← Session.acquire backend with
  | .error fault => return .error fault
  | .ok conn =>
    let reply := backend.query (← get) sql args
    Session.note (.queried conn sql args)
    Session.note (.released conn)
    return reply >>= fun answer => answer.readRows cols read

end SelectGraph.Database
