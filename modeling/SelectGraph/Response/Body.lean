import SelectGraph.Json.Value
import SelectGraph.Text.Case

/-!
# Response bodies

A response holds either the data of all root fields or errors, never both. The values of root fields
are JSON texts that are passed on as they are.
-/

namespace SelectGraph.Response

inductive Code where
  | schemaResolution
  | relationNotFound
  | cardinalityViolation
  | backingStore
  | parseFailed
  | validationFailed
  | badRequest
  | internal
  deriving DecidableEq

def Code.name : Code → String
  | .schemaResolution => "SCHEMA_RESOLUTION"
  | .relationNotFound => "RELATIONSHIP_NOT_FOUND"
  | .cardinalityViolation => "CARDINALITY_VIOLATION"
  | .backingStore => "BACKING_STORE"
  | .parseFailed => "GRAPHQL_PARSE_FAILED"
  | .validationFailed => "GRAPHQL_VALIDATION_FAILED"
  | .badRequest => "BAD_REQUEST"
  | .internal => "INTERNAL_SERVER_ERROR"

/-- An error of a response: its message, the lines and columns it points at, and the name of
its code. -/
structure Entry where
  message : String
  locations : List (Int × Int) := []
  code : String
  deriving DecidableEq

/-- The value of a root field under its response name: a JSON text, or nothing for null. -/
structure RootValue where
  name : String
  text? : Option String
  deriving DecidableEq

def RootValue.written (value : RootValue) : Option String :=
  match value.text? with
  | none => some "null"
  | some text => if Json.isValid text then some text else none

/-- The members of a data object; the name of the first field whose value is no JSON otherwise. -/
def dataMembers : List RootValue → Except String (List String)
  | [] => .ok []
  | value :: values =>
    match value.written with
    | none => .error value.name
    | some text =>
      (dataMembers values).map fun members => (Json.quote value.name ++ ":" ++ text) :: members

def dataBody (values : List RootValue) : Except String String :=
  (dataMembers values).map fun members =>
    "\x7b\"data\":\x7b" ++ Text.join "," members ++ "\x7d\x7d"

/-- The message about a root field whose value is no JSON. -/
def invalidValue (name : String) : String :=
  "root field " ++ name ++ " returned invalid JSON"

def Entry.toJson (entry : Entry) : Json :=
  let place (location : Int × Int) : Json :=
    .object [("line", .ofInt location.1), ("column", .ofInt location.2)]
  let places := if entry.locations.isEmpty then []
    else [("locations", Json.list (entry.locations.map place))]
  .object ([("message", Json.text entry.message)] ++ places ++
    [("extensions", .object [("code", .text entry.code)])])

def errorsBody (entries : List Entry) : String :=
  (Json.object [("errors", .list (entries.map Entry.toJson))]).compact

/-- What a member of a body says about errors: how many there are, or that it is no list of them.
Null is a list without errors. -/
def errorCount? : Json → Option Nat
  | .null => some 0
  | .list errors => some errors.length
  | _ => none

/-- Whether a body reports errors: it is an object whose last member `errors`, in any case, is a
list that is not empty, and no such member is anything but a list. -/
def hasErrors (body : String) : Bool :=
  match Json.parse? (Text.trim body) with
  | some (.object members) =>
    let counts := (members.filter fun member => Text.equalFold member.1 "errors").map
      fun member => errorCount? member.2
    counts.all Option.isSome && (counts.getLast?.getD none).any (0 < ·)
  | _ => false

end SelectGraph.Response
