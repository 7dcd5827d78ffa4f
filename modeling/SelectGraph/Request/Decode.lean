import SelectGraph.Http.Message
import SelectGraph.Json.Value
import SelectGraph.Request.Analysis

/-!
# Taking a request from its transport

A request to read carries its parts as parameters of the URL. A posted request has them as members
of a JSON object in its body, or its document as the whole body.
-/

namespace SelectGraph.Json

/-! ## Raw members

The members of an object with the text of each value as it was written. A value that is handed on
undecoded keeps its blanks, its escapes and its numbers. -/

def Token.levelAfter (level : Nat) : Token → Nat
  | .openBrace | .openBracket => level + 1
  | .closeBrace | .closeBracket => level - 1
  | _ => level

/-- What follows the value at the front, given how many brackets are open. -/
def afterValue : (count level : Nat) → List Char → List Char
  | 0, _, chars => chars
  | count + 1, level, chars =>
    match nextToken? chars with
    | none => []
    | some (token, rest) =>
      let next := token.levelAfter level
      if next = 0 then rest else afterValue count next rest

/-- The members after an opening brace or a comma. -/
def rawMembersWithin : Nat → List Char → List (String × String)
  | 0, _ => []
  | count + 1, chars =>
    match nextToken? chars with
    | some (.text key, rest) =>
      match nextToken? rest with
      | some (.colon, rest) =>
        let start := rest.dropWhile isBlank
        let tail := afterValue (start.length + 1) 0 start
        let value := String.ofList (start.take (start.length - tail.length))
        match nextToken? tail with
        | some (.comma, rest) => (key, value) :: rawMembersWithin count rest
        | _ => [(key, value)]
      | _ => []
    | _ => []

/-- The members of a valid text that holds an object, each with the text of its value. -/
def rawMembers (source : String) : List (String × String) :=
  match nextToken? source.toList with
  | some (.openBrace, rest) => rawMembersWithin (rest.length + 1) rest
  | _ => []

end SelectGraph.Json

namespace SelectGraph.Request

/-- The text of variables without blanks around it; nothing and null are no variables. -/
def givenVariables? (text : String) : Option String :=
  let trimmed := Text.trim text
  if trimmed = "" ∨ trimmed = "null" then none else some trimmed

structure Payload where
  query : String := ""
  operationName : String := ""
  variablesText : String := ""
  deriving DecidableEq

/-- What a value is called in complaints about its kind. -/
def kindName : Json → String
  | .null => "null"
  | .bool _ => "bool"
  | .number _ => "number"
  | .text _ => "string"
  | .list _ => "array"
  | .object _ => "object"

/-- The complaint about a value of a kind that does not fit. -/
def misfit (value : Json) (target : String) : DecodeError :=
  .body ("json: cannot unmarshal " ++ kindName value ++ " into Go " ++ target)

/-- Set a part that must be a text; null leaves it as it is. -/
def textMember (name raw old : String) : Except DecodeError String :=
  match Json.parse? raw with
  | some (.text value) => .ok value
  | some .null | none => .ok old
  | some value => .error (misfit value ("struct field jsonPayload." ++ name ++ " of type string"))

/-- Take one member of a body. Names are compared without regard to case. -/
def Payload.take (payload : Payload) (key raw : String) : Except DecodeError Payload :=
  if Text.equalFold key "query" then
    return { payload with query := ← textMember "query" raw payload.query }
  else if Text.equalFold key "operationName" then
    return { payload with operationName := ← textMember "operationName" raw payload.operationName }
  else if Text.equalFold key "variables" then .ok { payload with variablesText := raw }
  else .ok payload

def payloadOf (text : String) : Except DecodeError Payload :=
  match Json.parse? text with
  | none => .error (.body (Json.faultOf text).message)
  | some .null => .ok {}
  | some (.object _) =>
    (Json.rawMembers text).foldlM (fun payload (key, raw) => payload.take key raw) {}
  | some value => .error (misfit value "value of type gqlrequest.jsonPayload")

def isBareDocument (contentType : String) : Bool :=
  (Http.mediaType? contentType).getD (Text.trim contentType) == "application/graphql"

def decodeBody (envelope : Envelope) (body : String) : Except DecodeError Envelope :=
  if isBareDocument envelope.contentType then .ok { envelope with query := body }
  else
    let trimmed := Text.trim body
    if trimmed = "" then .ok envelope
    else
      (payloadOf trimmed).map fun payload =>
        { envelope with
          query := payload.query
          operationName := payload.operationName
          variables? := givenVariables? payload.variablesText }

/-- A request taken from its transport, as far as that went. -/
structure Decoded where
  envelope : Envelope
  error? : Option DecodeError

def decode (request : Http.Request) : Decoded :=
  let start : Envelope :=
    { method := request.method
      contentType := request.headers.get "Content-Type"
      query := "", operationName := "", variables? := none, size := 0 }
  if request.method = "GET" then
    let query := request.url.parameter "query"
    ⟨{ start with
        query := Url.textOf query
        operationName := Url.textOf (request.url.parameter "operationName")
        variables? := givenVariables? (Url.textOf (request.url.parameter "variables"))
        size := query.length }, none⟩
  else if request.method = "POST" then
    match request.content? with
    | none => ⟨start, none⟩
    | some (.broken cause) => ⟨start, some (.unreadable cause)⟩
    | some (.text body) =>
      match decodeBody start body with
      | .ok envelope => ⟨{ envelope with size := Text.byteLength envelope.query }, none⟩
      | .error error => ⟨start, some error⟩
  else ⟨start, some .method⟩

/-- Analyse a request that may not have left its transport. -/
def Decoded.analyze (decoded : Decoded) : Analysis :=
  match decoded.error? with
  | some error => { envelope := decoded.envelope, failure? := some (.decode error) }
  | none => Request.analyze decoded.envelope

/-! ## Decoded requests as JSON -/

def DecodeError.members (error : DecodeError) : List (String × Json) :=
  [("error", .text (if error = .method then "METHOD" else "DECODE")), ("message", .text error.message)]

/-- What can be read of a request again after it has been decoded: all of it, if it could be read. -/
def rewound? : Option Http.Content → Option String
  | none => none
  | some (.text body) => some body
  | some (.broken _) => some ""

def Decoded.toJson (decoded : Decoded) (request : Http.Request) : Json :=
  let envelope := decoded.envelope
  let rewound := (rewound? request.content?).map fun body => ("rewound", Json.text body)
  .object ([("method", .text envelope.method), ("content_type", .text envelope.contentType),
      ("query", .text envelope.query), ("operation", .text envelope.operationName),
      ("variables", envelope.variables?.elim .null .text), ("size", .ofNat envelope.size)] ++
    rewound.toList ++ decoded.error?.elim [] DecodeError.members)

end SelectGraph.Request
