import SelectGraph.Text.Case
import SelectGraph.Url.Host

/-!
# URLs

A URL is read into its scheme, host, decoded path and undecoded query. A text after a scheme that
does not start with a slash is kept whole.
-/

namespace SelectGraph

/-- The parts of a URL. A `rootless` URL has only its scheme and that text. The path is decoded;
`writtenPath` is the path as it was written. -/
structure Url where
  scheme : String := ""
  rootless : String := ""
  host : String := ""
  path : String := ""
  writtenPath : String := ""
  query : String := ""
  deriving DecidableEq

namespace Url

def cutScheme (text : String) : Except Fault (String × String) :=
  let isLetter (c : Char) : Bool := c.isAlpha
  let isInner (c : Char) : Bool := c.isAlphanum || c == '+' || c == '-' || c == '.'
  let front := text.toList.takeWhile isInner
  match text.toList.drop front.length with
  | ':' :: rest =>
    match front with
    | [] => .error .missingScheme
    | first :: _ =>
      if isLetter first then .ok (String.ofList front, String.ofList rest)
      else .ok ("", text)
  | _ => .ok ("", text)

/-- Split the query off; a question mark at the end alone asks for nothing. -/
def cutQuery (text : String) : String × String :=
  (Text.cut? text "?").getD (text, "")

def readParts (text : String) : Except Fault Url := do
  if text.toList.any fun c => c.toNat < 0x20 || c.toNat == 0x7F then
    throw Fault.controlCharacter
  if text = "*" then return { path := "*", writtenPath := "*" }
  let (scheme, rest) ← cutScheme text
  let scheme := Text.toLower scheme
  let (rest, query) := cutQuery rest
  if !Text.startsWith rest "/" then
    if scheme ≠ "" then return { scheme, rootless := rest, query }
    let segment := ((Text.cut? rest "/").map (·.1)).getD rest
    if Text.contains segment ":" then throw Fault.colonInFirstSegment
  let (host, path) ←
    if Text.startsWith rest "//" && (scheme ≠ "" || !Text.startsWith rest "///") then do
      let body := (Text.after? rest "//").getD ""
      let (authority, path) := match Text.cut? body "/" with
        | some (authority, path) => (authority, "/" ++ path)
        | none => (body, "")
      pure (← readAuthority authority, path)
    else pure ("", rest)
  let decoded ← (decodeBytes false path.toList).mapError Fault.escape
  return { scheme, host, path := textOf decoded, writtenPath := path, query }

/-- Whether a character stands for itself in the path of a URL that is written anew. -/
def isPathChar (c : Char) : Bool :=
  c.isAlphanum || "-_.~$&+,/:;=@".toList.contains c

/-- Write a path, escaping what cannot stand for itself. -/
def encodePath (path : String) : String :=
  encode isPathChar path

/-- Whether a path is written in a form that need not be escaped anew. -/
def isEncodedPath (path : String) : Bool :=
  path.toList.all fun c => isPathChar c || "!'()*[]%".toList.contains c

/-- The path of a URL in escaped form: as it was written, if that is well formed. -/
def escapedPath (url : Url) : String :=
  if isEncodedPath url.writtenPath then url.writtenPath else encodePath url.path

structure ParseError where
  source : String
  fault : Fault
  deriving DecidableEq

def ParseError.message (error : ParseError) : String :=
  "parse " ++ Text.quote error.source ++ ": " ++ error.fault.message

def parse (text : String) : Except ParseError Url := do
  let (front, frag) := (Text.cut? text "#").getD (text, "")
  let url ← (readParts front).mapError (⟨front, ·⟩)
  match decodeBytes false frag.toList with
  | .error found => throw ⟨text, .escape found⟩
  | .ok _ => return url

/-- The parameters of a query. A part with a semicolon or a malformed escape is left out. The
values are bytes, which need not spell a text. -/
def parameters (query : String) : List (String × List UInt8) :=
  (Text.split query '&').filterMap fun part =>
    if part = "" ∨ Text.contains part ";" then none
    else
      let (key, value) := (Text.cut? part "=").getD (part, "")
      match decodeBytes true key.toList, decodeBytes true value.toList with
      | .ok key, .ok value => some (textOf key, value)
      | _, _ => none

def parameter (url : Url) (name : String) : List UInt8 :=
  ((parameters url.query).find? fun entry => entry.1 == name).elim [] (·.2)

end Url

end SelectGraph
