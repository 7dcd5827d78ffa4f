import SelectGraph.Database.Address
import SelectGraph.Database.Script

/-!
# Scripted databases behind a wire

A scripted database can also stand at the far end of a connection. Arguments then have to be written
into the statement, which is done only for connections that ask for it, and a statement may carry a
comment that names the trace it belongs to.
-/

namespace SelectGraph.Database

/-- A connection to a scripted database. -/
structure Wire where
  address : Address
  trace? : Option String := none

/-- The fault of a server; one without a number has the number of an unknown error. -/
def ScriptedFault.remote (fault : ScriptedFault) : Fault :=
  let number := if fault.number = 0 then 1105 else fault.number
  { text := "Error " ++ toString number ++ " (HY000): " ++ fault.message, number? := some number }

namespace Wire

def scriptedNetwork : String := "oracle"

def escapeChar : Char → List Char
  | '\x00' => ['\\', '0']
  | '\n' => ['\\', 'n']
  | '\r' => ['\\', 'r']
  | '\x1a' => ['\\', 'Z']
  | '\'' => ['\\', '\'']
  | '"' => ['\\', '"']
  | '\\' => ['\\', '\\']
  | c => [c]

def quoted (text : String) : List Char :=
  '\'' :: text.toList.flatMap escapeChar ++ ['\'']

def argument : Literal → List Char
  | .null => "NULL".toList
  | .bool value => if value then ['1'] else ['0']
  | .text value => quoted value
  | .enum name => quoted name
  | other => other.describe.toList

/-- Write arguments in place of the question marks; each mark takes one argument. -/
def fill : List Char → List Literal → Option (List Char)
  | [], [] => some []
  | [], _ :: _ => none
  | c :: chars, arguments =>
    if c = '?' then
      match arguments with
      | [] => none
      | first :: rest => (fill chars rest).map (argument first ++ ·)
    else (fill chars arguments).map (c :: ·)

def interpolates (wire : Wire) : Bool :=
  wire.address.option "interpolateParams" == "true"

/-- A statement with the comment that names its trace. -/
def commented (wire : Wire) (sql : String) : String :=
  match wire.trace? with
  | some trace => sql ++ " /*traceparent='" ++ trace ++ "'*/"
  | none => sql

/-- The statement that is sent, if arguments can be written into it. -/
def statement? (wire : Wire) (sql : String) (args : List Literal) : Option String :=
  let text := wire.commented sql
  if args.isEmpty then some text
  else if wire.interpolates then (fill text.toList args).map String.ofList
  else none

/-- The fault of a statement whose arguments would have to be sent on their own. -/
def unprepared : Fault :=
  { text := "Error 1295 (HY000): prepare not supported", number? := some 1295 }

/-- Why a connection cannot be opened. The scripted databases offer no encryption, and other
databases are not there. -/
def connectFault? (wire : Wire) (script : Script) : Option Fault :=
  let encryption := wire.address.option "tls"
  if wire.address.network ≠ scriptedNetwork then
    some { text := "dial " ++ wire.address.network ++ " " ++ wire.address.address ++
      ": connect: connection refused" }
  else if !(["", "false", "preferred"].contains encryption) then
    some { text := "TLS requested but server does not support TLS" }
  else script.connect?.map ScriptedFault.remote

def sentCell : Cell → Cell
  | .null => .null
  | .text value => .text value
  | .int value => .text (toString value)
  | .bool value => .text (if value then "true" else "false")

def backend (wire : Wire) (script : Script) : Backend where
  connect? _ := wire.connectFault? script
  ping? past := (script.pingFault? past).map ScriptedFault.remote
  exec? _ _ := script.exec?.map ScriptedFault.remote
  query _ sql args :=
    match wire.statement? sql args with
    | none => .error unprepared
    | some text =>
      match script.answers.find? fun answer => Text.contains text answer.pattern with
      | some answer =>
        match answer.fault? with
        | some fault => .error fault.remote
        | none => .ok { columns := answer.columns, rows := answer.rows.map (·.map sentCell) }
      | none =>
        if Text.contains text Script.catalogMark then .ok { columns := 0, rows := [] }
        else .error (ScriptedFault.remote ⟨0, "no scripted result"⟩)

def line? (wire : Wire) : Event → Option String
  | .pinged _ => some "ping"
  | .executed _ sql => some ("exec " ++ squeeze (wire.commented sql))
  | .queried _ sql args =>
    (wire.statement? sql args).map fun text => "query " ++ squeeze text
  | .refused | .acquired _ | .released _ => none

end Wire

end SelectGraph.Database
