import SelectGraph.Yaml.Scalar

/-!
# Tokens of a YAML text

Scanning finds the structure that indentation and indicators spell. A collection in block form
begins where its first key or entry stands deeper than what encloses it, and ends at the first
token that stands less deep. That a scalar is a key is only known when its colon is met, so
the tokens that announce it are put in before it.
-/

namespace SelectGraph.Yaml

/-- A token. A fault ends the sequence. -/
inductive Token where
  | streamEnd
  | documentStart
  | documentEnd
  | version (major minor : Nat)
  | tagHandle (handle start : String)
  | blockSequence
  | blockMapping
  | blockEnd
  | flowSequence
  | flowSequenceEnd
  | flowMapping
  | flowMappingEnd
  | blockEntry
  | flowEntry
  | key
  | value
  | aliasName (name : String)
  | anchor (name : String)
  | tag (handle suffix : String)
  | scalar (text : String) (plain : Bool)
  | fault
  deriving DecidableEq

/-- A token that may turn out to be a key: its number and where it stands. A required one must. -/
structure KeyCandidate where
  number : Nat
  required : Bool
  index : Nat
  line : Nat
  column : Nat

/-- The state of scanning. Tokens stand in reverse; there is one key candidate, or none, for each
open flow collection and one for the block around them. -/
structure Scan where
  place : Place
  tokens : List Token
  count : Nat
  indent? : Option Nat
  indents : List (Option Nat)
  keyAllowed : Bool
  candidate? : Option KeyCandidate
  outer : List (Option KeyCandidate)

namespace Scan

def start (text : List Char) : Scan :=
  { place := .start text, tokens := [], count := 0, indent? := none, indents := [],
    keyAllowed := true, candidate? := none, outer := [] }

def inFlow (scan : Scan) : Bool := !scan.outer.isEmpty

def push (scan : Scan) (token : Token) : Scan :=
  { scan with tokens := token :: scan.tokens, count := scan.count + 1 }

def insert (scan : Scan) (number : Nat) (token : Token) : Scan :=
  let after := scan.count - number
  { scan with
    tokens := scan.tokens.take after ++ token :: scan.tokens.drop after
    count := scan.count + 1 }

/-- Whether a column stands deeper than the collection that is open. -/
def deeper (scan : Scan) (col : Nat) : Bool :=
  match scan.indent? with
  | none => true
  | some indent => indent < col

/-- Open a block collection at a column, if that is deeper than the one that is open. -/
def openBlock (scan : Scan) (col : Nat) (number : Nat) (token : Token) : Scan :=
  if scan.inFlow || !scan.deeper col then scan
  else
    { scan.insert number token with
      indent? := some col
      indents := scan.indent? :: scan.indents }

/-- Close the block collections that stand deeper than a column; with no column, all. -/
def closeBlocks (scan : Scan) (column? : Option Nat) : (count : Nat) → Scan
  | 0 => scan
  | count + 1 =>
    match scan.indent? with
    | none => scan
    | some indent =>
      if column?.any (indent ≤ ·) then scan
      else
        closeBlocks
          { scan.push .blockEnd with
            indent? := scan.indents.head?.join
            indents := scan.indents.tail }
          column? count

/-- Close block collections, unless scanning is inside a flow collection. -/
def unroll (scan : Scan) (column? : Option Nat) : Scan :=
  if scan.inFlow then scan else scan.closeBlocks column? (scan.indents.length + 1)

/-- Give up the key candidate; a required one is missed. -/
def dropCandidate (scan : Scan) : Except Fault Scan :=
  match scan.candidate? with
  | some candidate => if candidate.required then .error .malformed else .ok { scan with candidate? := none }
  | none => .ok scan

def saveCandidate (scan : Scan) : Except Fault Scan :=
  if scan.keyAllowed then do
    let scan ← scan.dropCandidate
    let place := scan.place
    let required := !scan.inFlow && scan.indent? == some place.column
    return { scan with
      candidate? := some ⟨scan.count, required, place.index, place.line, place.column⟩ }
  else .ok scan

/-- The key candidate, if it is on this line and not too long. -/
def liveCandidate? (scan : Scan) : Except Fault (Option KeyCandidate) :=
  match scan.candidate? with
  | none => .ok none
  | some candidate =>
    if candidate.line < scan.place.line || candidate.index + 1024 < scan.place.index then
      if candidate.required then .error .malformed else .ok none
    else .ok (some candidate)

/-- Skip blanks, comments and line ends up to the next token. -/
def toNextToken : (count : Nat) → Scan → Scan
  | 0, scan => scan
  | count + 1, scan =>
    match scan.place.head with
    | none => scan
    | some c =>
      if c == ' ' || (c == '\t' && (scan.inFlow || !scan.keyAllowed)) then
        toNextToken count { scan with place := scan.place.skip 1 }
      else if c == '#' then toNextToken count { scan with place := scan.place.takeLine.2 }
      else if isBreak c then
        toNextToken count
          { scan with
            place := scan.place.takeBreak.2
            keyAllowed := scan.keyAllowed || !scan.inFlow }
      else scan

def take (scan : Scan) (width : Nat) (token : Token) : Scan :=
  { scan.push token with place := scan.place.skip width }

def documentMarker (scan : Scan) (token : Token) : Except Fault Scan := do
  let scan ← (scan.unroll none).dropCandidate
  return { scan with keyAllowed := false }.take 3 token

/-- Whether a character may stand in names of anchors and tag handles. -/
def isWordChar (c : Char) : Bool :=
  Text.isDigit c || ('a' ≤ c && c ≤ 'z') || ('A' ≤ c && c ≤ 'Z') || c == '_' || c == '-'

def takeBlanks (place : Place) : Place :=
  place.skip (place.rest.takeWhile isSpace).length

def shortNumber (place : Place) : Except Fault (Nat × Place) :=
  let digits := place.rest.takeWhile Text.isDigit
  if digits.isEmpty || 2 < digits.length then .error .malformed
  else .ok (Text.digitsValue digits, place.skip digits.length)

def versionDirective (place : Place) : Except Fault (Token × Place) := do
  let (major, place) ← shortNumber (takeBlanks place)
  if place.head != some '.' then throw .malformed
  let (minor, place) ← shortNumber (place.skip 1)
  return (.version major minor, place)

def isTagChar (verbatim : Bool) (c : Char) : Bool :=
  isWordChar c || ";/?:@&=+$.!~*'()%".toList.contains c || (verbatim && ",[]".toList.contains c)

def handleDirective (place : Place) : Except Fault (Token × Place) := do
  let place := takeBlanks place
  if place.head != some '!' then throw .malformed
  let word := (place.skip 1).rest.takeWhile isWordChar
  let close := place.skip (word.length + 1)
  let closed := close.head == some '!'
  if !closed && !word.isEmpty then throw .malformed
  let place := if closed then close.skip 1 else close
  if !(place.head.any isSpace) then throw .malformed
  let place := takeBlanks place
  let start := place.rest.takeWhile (isTagChar false)
  let place := place.skip start.length
  if start.isEmpty || !separates place.head then throw .malformed
  let handle := "!" ++ String.ofList word ++ (if closed then "!" else "")
  return (.tagHandle handle (String.ofList start), place)

def directive (scan : Scan) : Except Fault Scan := do
  let scan ← (scan.unroll none).dropCandidate
  let after := scan.place.skip 1
  let name := after.rest.takeWhile isWordChar
  let place := after.skip name.length
  if !separates place.head then throw .malformed
  let (token, place) ← match String.ofList name with
    | "YAML" => versionDirective place
    | "TAG" => handleDirective place
    | _ => throw .malformed
  let place := takeBlanks place
  let place := if place.head == some '#' then place.takeLine.2 else place
  if !breaksOrEnds place.head then throw .malformed
  return { scan with keyAllowed := false, place }.push token

def openFlow (scan : Scan) (token : Token) : Except Fault Scan := do
  let scan ← scan.saveCandidate
  return { scan.take 1 token with
    outer := scan.candidate? :: scan.outer
    candidate? := none
    keyAllowed := true }

def closeFlow (scan : Scan) (token : Token) : Except Fault Scan := do
  let scan ← scan.dropCandidate
  let scan := match scan.outer with
    | [] => scan
    | candidate? :: outer => { scan with candidate?, outer }
  return { scan.take 1 token with keyAllowed := false }

def flowComma (scan : Scan) : Except Fault Scan := do
  let scan ← scan.dropCandidate
  return { scan.take 1 .flowEntry with keyAllowed := true }

def dash (scan : Scan) : Except Fault Scan := do
  if !scan.inFlow && !scan.keyAllowed then throw .malformed
  let scan := scan.openBlock scan.place.column scan.count .blockSequence
  let scan ← scan.dropCandidate
  return { scan.take 1 .blockEntry with keyAllowed := true }

def keyMark (scan : Scan) : Except Fault Scan := do
  if !scan.inFlow && !scan.keyAllowed then throw .malformed
  let scan := scan.openBlock scan.place.column scan.count .blockMapping
  let scan ← scan.dropCandidate
  return { scan.take 1 .key with keyAllowed := !scan.inFlow }

def colon (scan : Scan) : Except Fault Scan := do
  match ← scan.liveCandidate? with
  | some candidate =>
    let scan := scan.insert candidate.number .key
    let scan := scan.openBlock candidate.column candidate.number .blockMapping
    return { scan.take 1 .value with candidate? := none, keyAllowed := false }
  | none =>
    if !scan.inFlow && !scan.keyAllowed then throw .malformed
    let scan := scan.openBlock scan.place.column scan.count .blockMapping
    return { scan.take 1 .value with keyAllowed := !scan.inFlow }

def named (scan : Scan) (token : String → Token) : Except Fault Scan := do
  let scan ← scan.saveCandidate
  let after := scan.place.skip 1
  let name := after.rest.takeWhile isWordChar
  let next := after.skip name.length
  let ends := match next.head with
    | none => true
    | some c => isSpace c || isBreak c || "?:,]\x7d%@\x60".toList.contains c
  if name.isEmpty || !ends then throw .malformed
  return { scan.push (token (String.ofList name)) with place := next, keyAllowed := false }

def tag (scan : Scan) : Except Fault Scan := do
  let scan ← scan.saveCandidate
  let (found, next) : Option Token × Place :=
    if scan.place.ahead 1 == some '<' then
      let after := scan.place.skip 2
      let uri := after.rest.takeWhile (isTagChar true)
      let close := after.skip uri.length
      if uri.isEmpty || close.head != some '>' then (none, close)
      else (some (.tag "" (String.ofList uri)), close.skip 1)
    else
      let after := scan.place.skip 1
      let word := after.rest.takeWhile isWordChar
      let close := after.skip word.length
      if close.head == some '!' then
        let rest := close.skip 1
        let suffix := rest.rest.takeWhile (isTagChar false)
        let handle := "!" ++ String.ofList word ++ "!"
        if suffix.isEmpty then (none, rest)
        else (some (.tag handle (String.ofList suffix)), rest.skip suffix.length)
      else
        let suffix := after.rest.takeWhile (isTagChar false)
        let next := after.skip suffix.length
        if suffix.isEmpty then (some (.tag "" "!"), next)
        else (some (.tag "!" (String.ofList suffix)), next)
  match found with
  | none => throw .malformed
  | some token =>
    if !separates next.head then throw .malformed
    return { scan.push token with place := next, keyAllowed := false }

def blockScalar (scan : Scan) (folded : Bool) : Except Fault Scan := do
  let scan ← scan.dropCandidate
  let (text, place) ← blockFrom folded scan.indent? (scan.place.skip 1)
  return { scan.push (.scalar (String.ofList text) false) with place, keyAllowed := true }

def quoted (scan : Scan) (single : Bool) : Except Fault Scan := do
  let scan ← scan.saveCandidate
  let (text, place) ← quotedFrom single (scan.place.rest.length + 1) [] (scan.place.skip 1)
  return { scan.push (.scalar (String.ofList text) false) with place, keyAllowed := false }

def plain (scan : Scan) : Except Fault Scan := do
  let scan ← scan.saveCandidate
  let indent := match scan.indent? with
    | some indent => indent + 1
    | none => 0
  let (text, crossed, place) ←
    plainFrom scan.inFlow indent (scan.place.rest.length + 1) [] Gap.none scan.place
  return { scan.push (.scalar (String.ofList text) true) with place, keyAllowed := crossed }

/-- Whether a plain scalar may begin with a character that stands before another. -/
def startsPlain (inFlow : Bool) (c : Char) (next : Option Char) : Bool :=
  !(isSpace c || isBreak c || "-?:,[]\x7b\x7d#&*!|>'\"%@\x60".toList.contains c) ||
    (c == '-' && !(next.any isSpace)) ||
    (!inFlow && (c == '?' || c == ':') && !separates next)

def finish (scan : Scan) : Except Fault Scan := do
  let scan ← (scan.unroll none).dropCandidate
  return scan.push .streamEnd

/-- Take one token; the flag says that the text has ended. -/
def step (scan : Scan) : Except Fault (Scan × Bool) := do
  let scan := scan.toNextToken (scan.place.rest.length + 1)
  let scan := scan.unroll (some scan.place.column)
  let place := scan.place
  match place.head with
  | none => return (← scan.finish, true)
  | some c =>
    let next := place.ahead 1
    let scan ←
      if place.column == 0 && c == '%' then scan.directive
      else if place.atMarker '-' then scan.documentMarker .documentStart
      else if place.atMarker '.' then scan.documentMarker .documentEnd
      else if c == '[' then scan.openFlow .flowSequence
      else if c == '\x7b' then scan.openFlow .flowMapping
      else if c == ']' then scan.closeFlow .flowSequenceEnd
      else if c == '\x7d' then scan.closeFlow .flowMappingEnd
      else if c == ',' then scan.flowComma
      else if c == '-' && separates next then scan.dash
      else if c == '?' && (scan.inFlow || separates next) then scan.keyMark
      else if c == ':' && (scan.inFlow || separates next) then scan.colon
      else if c == '*' then scan.named .aliasName
      else if c == '&' then scan.named .anchor
      else if c == '!' then scan.tag
      else if c == '|' && !scan.inFlow then scan.blockScalar false
      else if c == '>' && !scan.inFlow then scan.blockScalar true
      else if c == '\'' then scan.quoted true
      else if c == '"' then scan.quoted false
      else if startsPlain scan.inFlow c next then scan.plain
      else throw .malformed
    return (scan, false)

def all : (count : Nat) → Scan → List Token
  | 0, scan => (.fault :: scan.tokens).reverse
  | count + 1, scan =>
    match scan.step with
    | .error _ => (.fault :: scan.tokens).reverse
    | .ok (next, true) => next.tokens.reverse
    | .ok (next, false) => all count next

end Scan

def isAllowed (c : Char) : Bool :=
  let code := c.toNat
  code == 0x09 || code == 0x0A || code == 0x0D || (0x20 ≤ code && code ≤ 0x7E) || code == 0x85 ||
    (0xA0 ≤ code && code ≤ 0xFFFD) || 0x10000 ≤ code

/-- The tokens of a text. A byte order mark at its beginning is dropped. -/
def tokens (text : String) : List Token :=
  let chars := match text.toList with
    | c :: rest => if c.toNat == 0xFEFF then rest else c :: rest
    | [] => []
  if chars.all isAllowed then (Scan.start chars).all (chars.length + 2) else [.fault]

end SelectGraph.Yaml
