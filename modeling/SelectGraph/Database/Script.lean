import SelectGraph.Database.Basic
import SelectGraph.Json.Access

/-!
# Scripted databases

A database that follows a script: canned answers for queries that contain given words, and faults
for the other uses. It takes the place of a server where there is none.
-/

namespace SelectGraph.Database

/-- A fault in a script; the number zero stands for one that comes from no server. -/
structure ScriptedFault where
  number : Nat
  message : String
  deriving DecidableEq

/-- An answer in a script, for the queries that contain a text and whose last argument has a text. -/
structure ScriptedAnswer where
  pattern : String
  argument? : Option String
  columns : Nat
  rows : List (List Cell)
  fault? : Option ScriptedFault
  rowFault? : Option ScriptedFault

/-- A script. With a positive number of failing pings only the first ones fail. -/
structure Script where
  connect? : Option ScriptedFault := none
  ping? : Option ScriptedFault := none
  failingPings : Nat := 0
  exec? : Option ScriptedFault := none
  answers : List ScriptedAnswer := []

def argumentText : Literal → String
  | .null => "<nil>"
  | .text value => value
  | other => other.describe

def ScriptedFault.plain (fault : ScriptedFault) : Fault :=
  if fault.number = 0 then { text := fault.message }
  else
    { text := "Error " ++ toString fault.number ++ ": " ++ fault.message
      number? := some fault.number }

def ScriptedAnswer.fits (answer : ScriptedAnswer) (sql : String) (args : List Literal) :
    Bool :=
  Text.contains sql answer.pattern &&
    match answer.argument? with
    | some expected => args.getLast?.map argumentText == some expected
    | none => true

namespace Script

/-- The part of a query by which it asks about the tables of a server. -/
def catalogMark : String := "INFORMATION_SCHEMA."

/-- Whether a ping fails, which may depend on how many came before it. -/
def pingFault? (script : Script) (past : List Event) : Option ScriptedFault :=
  let earlier := (past.filter Event.isPing).length
  if 0 < script.failingPings && script.failingPings ≤ earlier then none else script.ping?

def backend (script : Script) : Backend where
  connect? _ := script.connect?.map ScriptedFault.plain
  ping? past := (script.pingFault? past).map ScriptedFault.plain
  exec? _ _ := script.exec?.map ScriptedFault.plain
  query _ sql args :=
    match script.answers.find? fun answer => answer.fits sql args with
    | some answer =>
      match answer.fault? with
      | some fault => .error fault.plain
      | none => .ok { columns := answer.columns, rows := answer.rows,
                      fault? := answer.rowFault?.map ScriptedFault.plain }
    | none =>
      if Text.contains sql catalogMark then .ok { columns := 0, rows := [] }
      else .error { text := "no scripted result" }

def faultAt? (input : Json) (key : String) : Option ScriptedFault :=
  (input.at? key).map fun fault => ⟨(fault.intAt "number").toNat, fault.textAt "message"⟩

def cellOf : Json → Cell
  | .text value => .text value
  | .bool value => .bool value
  | .number digits => .int (Json.number digits).asInt
  | _ => .null

def ofJson (input : Json) : Script where
  connect? := faultAt? input "connect_error"
  ping? := faultAt? input "ping_error"
  failingPings := (input.intAt "ping_fails").toNat
  exec? := faultAt? input "exec_error"
  answers := (input.itemsAt "queries").map fun entry =>
    { pattern := entry.textAt "match"
      argument? := entry.textAt? "arg"
      columns := (entry.itemsAt "columns").length
      rows := (entry.itemsAt "rows").map fun row => row.asItems.map cellOf
      fault? := faultAt? entry "error"
      rowFault? := faultAt? entry "row_error" }

end Script

/-- A text with every run of blanks made one space and none at its ends. -/
def squeeze (text : String) : String :=
  let blanked := text.toList.map fun c => if Text.isBlank c then ' ' else c
  Text.join " " ((Text.split (String.ofList blanked) ' ').filter (· != ""))

/-- The line that reports an event; connections are not reported. -/
def Event.line? : Event → Option String
  | .pinged _ => some "ping"
  | .executed _ sql => some ("exec " ++ squeeze sql)
  | .queried _ sql args =>
    some ("query " ++ squeeze sql ++ " [" ++ Text.join ", " (args.map argumentText) ++ "]")
  | .refused | .acquired _ | .released _ => none

end SelectGraph.Database
