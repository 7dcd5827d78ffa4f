import SelectGraph.Http.MediaType
import SelectGraph.Url.Basic

/-!
# Messages
-/

namespace SelectGraph.Http

/-! ## Header fields

Fields are kept under the canonical spelling of their name: every part between hyphens starts with
a capital. A name with a character that no field name has is kept as it is. -/

def isNameChar (c : Char) : Bool :=
  c.isAlphanum || "!#$%&'*+-.^_\x60|~".toList.contains c

def capitalised : (atStart : Bool) → List Char → List Char
  | _, [] => []
  | atStart, c :: rest =>
    (if atStart then c.toUpper else c.toLower) :: capitalised (c == '-') rest

def canonicalName (name : String) : String :=
  if name.toList.all isNameChar then String.ofList (capitalised true name.toList) else name

/-- The fields of a message, each name once, in the order in which they were first set. -/
structure Headers where
  fields : List (String × List String) := []
  deriving DecidableEq

namespace Headers

def values (headers : Headers) (name : String) : List String :=
  (headers.fields.lookup (canonicalName name)).getD []

/-- The first value of a field, empty for none. -/
def get (headers : Headers) (name : String) : String :=
  (headers.values name).headD ""

def erase (headers : Headers) (name : String) : Headers :=
  ⟨headers.fields.filter fun field => field.1 != canonicalName name⟩

def set (headers : Headers) (name value : String) : Headers :=
  ⟨(headers.erase name).fields ++ [(canonicalName name, [value])]⟩

def add (headers : Headers) (name value : String) : Headers :=
  let values := headers.values name
  ⟨(headers.erase name).fields ++ [(canonicalName name, values ++ [value])]⟩

/-- The fields of a list of names with values; a later value replaces an earlier one. -/
def ofList (fields : List (String × String)) : Headers :=
  fields.foldl (fun headers field => headers.set field.1 field.2) {}

/-- Replace the values of a field by one, unless that is empty. -/
def setPresent (headers : Headers) (name value : String) : Headers :=
  if value = "" then headers else headers.set name value

/-- The fields of both, those of the second replacing those of the first. -/
def merge (first second : Headers) : Headers :=
  ⟨(first.fields.filter fun field => !second.fields.any (·.1 == field.1)) ++ second.fields⟩

end Headers

/-! ## Requests and replies -/

/-- The body of a request: a text, or one that fails while it is read. -/
inductive Content where
  | text (value : String)
  | broken (cause : String)
  deriving DecidableEq

structure Request where
  method : String
  url : Url
  headers : Headers
  content? : Option Content
  deriving DecidableEq

def remoteAddress : String := "192.0.2.1:1234"

/-- A request for a target, unless its method or target is malformed. The default method asks for
a document. -/
def Request.make? (method target : String) (headers : Headers) (content? : Option Content) :
    Option Request :=
  let method := if method = "" then "GET" else method
  if method.toList.all isNameChar then
    match Url.parse target with
    | .ok url => some { method, url, headers, content? }
    | .error _ => none
  else none

structure Reply where
  status : Nat
  headers : Headers := {}
  body : String := ""
  deriving DecidableEq

/-! ## Names of routes in reports -/

/-- The paths that reports name; every other path is reported as one. -/
def namedPaths : List String := ["/", "/graphql", "/health", "/metrics"]

def routeLabel (path : String) : String :=
  if namedPaths.contains path then path else "/*"

/-- The name of the span around a request with this method and path. -/
def spanName (method path : String) : String :=
  let method := Text.trim method
  (if method = "" then "HTTP" else method) ++ " " ++ routeLabel path

end SelectGraph.Http
