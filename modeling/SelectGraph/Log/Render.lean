import SelectGraph.Json.Access
import SelectGraph.Log.Basic

/-!
# Forms of log records

A record is written as a JSON object in which groups are objects, as a line of names and values in
which groups qualify names, or as the attributes of an exported record. A group without fields in
it or in a group inside it is left out.
-/

namespace SelectGraph.Log

/-- The groups up to the last one that has fields. -/
def usedGroups (groups : List Group) : List Group :=
  (groups.reverse.dropWhile (·.fields.isEmpty)).reverse

def Value.toJson : Value → Json
  | .text value => .text value
  | .integer value => .ofInt value
  | .boolean value => .bool value
  | .double value => .ofDouble value
  | .duration value => .ofInt value.nanoseconds

def Fields.toMembers (fields : Fields) : List (String × Json) :=
  fields.map fun (name, value) => (name, value.toJson)

def groupMembers : List Group → List (String × Json)
  | [] => []
  | group :: rest => [(group.name, .object (Fields.toMembers group.fields ++ groupMembers rest))]

def Record.toJson (record : Record) : Json :=
  .object ([("level", .text record.level.name), ("msg", .text record.message)] ++
    Fields.toMembers record.fields ++ groupMembers (usedGroups record.groups))

def Value.toText : Value → String
  | .text value => value
  | .integer value => toString value
  | .boolean value => if value then "true" else "false"
  | .double value => value.toText
  | .duration value => value.toText

/-- Whether a character makes a text be quoted in a line. -/
def needsQuotes (c : Char) : Bool :=
  c == ' ' || c == '=' || c == '"' || c.toNat < 0x20 ||
    (0x80 ≤ c.toNat && (c.toNat == 0xFFFD || Text.isBlank c || !Text.isPrintable c))

def isQuoted (text : String) : Bool :=
  text.toList.isEmpty || text.toList.any needsQuotes

def lineText (text : String) : String :=
  if isQuoted text then Text.quote text else text

def lineName (qualifier name : String) : String :=
  if qualifier = "" then lineText name
  else if isQuoted qualifier || isQuoted name then Text.quote (qualifier ++ name)
  else qualifier ++ name

def lineParts (qualifier : String) (fields : Fields) : List String :=
  fields.map fun (name, value) => lineName qualifier name ++ "=" ++ lineText value.toText

def groupParts (qualifier : String) : List Group → List String
  | [] => []
  | group :: rest =>
    let inner := qualifier ++ group.name ++ "."
    lineParts inner group.fields ++ groupParts inner rest

def Record.line (record : Record) : String :=
  Text.join " " (["level=" ++ record.level.name, "msg=" ++ lineText record.message] ++
    lineParts "" record.fields ++ groupParts "" (usedGroups record.groups))

/-- The last value of every name, at the place where the name first stands. -/
def lastValues (pairs : List (String × String)) : List (String × String) :=
  pairs.foldl (fun kept (name, value) =>
    if kept.any (·.1 == name) then
      kept.map fun entry => if entry.1 == name then (name, value) else entry
    else kept ++ [(name, value)]) []

/-- The attribute of exported groups: a list of names and values. Groups without fields of their
own do not show. -/
def exportedGroups : List Group → List (String × String)
  | [] => []
  | group :: rest =>
    let inner := exportedGroups rest
    if group.fields.isEmpty then inner
    else
      let pairs := lastValues (group.fields.map (fun (name, value) => (name, value.toText)) ++ inner)
      [(group.name, "[" ++ Text.join " " (pairs.map fun (name, value) => name ++ ":" ++ value) ++ "]")]

def Record.exportedAttributes (record : Record) : List (String × String) :=
  lastValues (record.fields.map (fun (name, value) => (name, value.toText)) ++
    exportedGroups record.groups)

/-! ## Sessions of a logger

A session is a list of steps on one logger: each adds fields or a group, or logs a message. -/

inductive Step where
  | requestId (value : String)
  | fields (values : List String)
  | group (name : String)
  | log (level : Level) (message : String) (values : List String)
  | keep

def Step.ofJson (input : Json) : Step :=
  match input.textAt "do" with
  | "request_id" => .requestId (input.textAt "msg")
  | "fields" => .fields (input.textsAt "fields")
  | "group" => .group (input.textAt "msg")
  | "log" => .log (.ofName (input.textAt "level")) (input.textAt "msg") (input.textsAt "fields")
  | _ => .keep

/-- The state of a session: its logger, the request it belongs to, and all that was logged. -/
structure Session where
  logger : Logger
  requestId : String := ""
  records : List Record := []

def Session.step (session : Session) : Step → Session
  | .requestId value =>
    { session with
      logger := session.logger.withFields [("request_id", .text value)], requestId := value }
  | .fields values => { session with logger := session.logger.withFields (fieldsOf values) }
  | .group name => { session with logger := session.logger.withGroup name }
  | .log level message values =>
    let record := session.logger.record level message (fieldsOf values)
    { session with records := session.records ++ [record] }
  | .keep => session

def Session.kept (session : Session) : List Record :=
  session.records.filter fun record => session.logger.admits record.level

def Record.exported (record : Record) : Json :=
  let lines := record.exportedAttributes.map fun (name, value) => name ++ "=" ++ value
  .object [("severity", .text record.level.name), ("body", .text record.message),
    ("attributes", .texts (lines.mergeSort fun a b => decide (a ≤ b)))]

end SelectGraph.Log
