import SelectGraph.Yaml.Place

/-!
# Scalars of a YAML text

The four written forms of a scalar: plain, between single or double quotes, and as an
indented block.
-/

namespace SelectGraph.Yaml

def endsPlain (inFlow : Bool) (place : Place) : Bool :=
  match place.head with
  | none => true
  | some c =>
    isSpace c || isBreak c || (c == ':' && separates (place.ahead 1)) ||
      (inFlow && (c == ',' || c == '?' || c == '[' || c == ']' || c == '\x7b' || c == '\x7d'))

def takePlainWord (inFlow : Bool) : (count : Nat) → Place → List Char × Place
  | 0, place => ([], place)
  | count + 1, place =>
    if endsPlain inFlow place then ([], place)
    else
      match place.head with
      | none => ([], place)
      | some c =>
        let (word, next) := takePlainWord inFlow count (place.skip 1)
        (c :: word, next)

/-- Read a plain scalar. It goes on as long as lines are indented more deeply than `indent`, which only
counts outside flow collections. The flag says whether a line end was passed after it. -/
def plainFrom (inFlow : Bool) (indent : Nat) :
    (count : Nat) → (done : List Char) → Gap → Place → Except Fault (List Char × Bool × Place)
  | 0, _, _, _ => .error .malformed
  | count + 1, done, gap, place => do
      if place.atDocumentMarker || place.head == some '#' then return (done, gap.crossed, place)
      let (word, next) := takePlainWord inFlow (count + 1) place
      let (done, gap) := if word.isEmpty then (done, gap) else (done ++ gap.fill ++ word, Gap.none)
      match next.head with
      | none => return (done, gap.crossed, next)
      | some c =>
        if !(isSpace c || isBreak c) then return (done, gap.crossed, next)
        let (gap, next) ← takeGap (some indent) (count + 1) gap next
        if !inFlow && next.column < indent then return (done, gap.crossed, next)
        plainFrom inFlow indent count done gap next

def hexEscape? (width : Nat) (place : Place) : Option (Char × Place) := do
  let digits := place.rest.take width
  let values ← digits.mapM Text.hexValue?
  let code := values.foldl (fun value digit => 16 * value + digit) 0
  if values.length < width || (0xD800 ≤ code && code ≤ 0xDFFF) || 0x10FFFF < code then none
  else some (Char.ofNat code, place.skip width)

/-- Read an escape; the place is after its backslash. -/
def escape? (place : Place) : Option (Char × Place) :=
  let plain (code : Nat) : Option (Char × Place) := some (Char.ofNat code, place.skip 1)
  match place.head with
  | some '0' => plain 0
  | some 'a' => plain 7
  | some 'b' => plain 8
  | some 't' => plain 9
  | some '\t' => plain 9
  | some 'n' => plain 10
  | some 'v' => plain 11
  | some 'f' => plain 12
  | some 'r' => plain 13
  | some 'e' => plain 27
  | some ' ' => plain 32
  | some '"' => plain 34
  | some '\'' => plain 39
  | some '/' => plain 47
  | some '\\' => plain 92
  | some 'N' => plain 0x85
  | some '_' => plain 0xA0
  | some 'L' => plain 0x2028
  | some 'P' => plain 0x2029
  | some 'x' => hexEscape? 2 (place.skip 1)
  | some 'u' => hexEscape? 4 (place.skip 1)
  | some 'U' => hexEscape? 8 (place.skip 1)
  | _ => none

/-- Take a word of a quoted scalar; the flag says whether an escaped line end follows it. -/
def takeQuotedWord (single : Bool) : (count : Nat) → Place → Except Fault (List Char × Bool × Place)
  | 0, place => .ok ([], false, place)
  | count + 1, place =>
    match place.head with
    | none => .ok ([], false, place)
    | some c =>
      if isSpace c || isBreak c then .ok ([], false, place)
      else if single && c == '\'' then
        if place.ahead 1 == some '\'' then do
          let (word, escaped, next) ← takeQuotedWord single count (place.skip 2)
          return ('\'' :: word, escaped, next)
        else .ok ([], false, place)
      else if !single && c == '"' then .ok ([], false, place)
      else if !single && c == '\\' then
        if (place.ahead 1).any isBreak then .ok ([], true, (place.skip 1).takeBreak.2)
        else
          match escape? (place.skip 1) with
          | none => .error .malformed
          | some (found, next) => do
              let (word, escaped, next) ← takeQuotedWord single count next
              return (found :: word, escaped, next)
      else do
        let (word, escaped, next) ← takeQuotedWord single count (place.skip 1)
        return (c :: word, escaped, next)

/-- Read a quoted scalar from after its opening quote. -/
def quotedFrom (single : Bool) : (count : Nat) → (done : List Char) → Place →
    Except Fault (List Char × Place)
  | 0, _, _ => .error .malformed
  | count + 1, done, place => do
      if place.atDocumentMarker || place.head.isNone then throw .malformed
      let (word, escaped, next) ← takeQuotedWord single (count + 1) place
      let done := done ++ word
      let closing := if single then '\'' else '"'
      if !escaped && next.head == some closing then return (done, next.skip 1)
      let gap : Gap := { Gap.none with crossed := escaped }
      let (gap, next) ← takeGap none (count + 1) gap next
      quotedFrom single count (done ++ gap.fill) next

/-- What happens to the line ends after the last line of a block. -/
inductive Chomping where
  | strip
  | clip
  | keep
  deriving DecidableEq

/-- The header of a block: chomping and an indentation that may be given. -/
structure BlockHeader where
  chomping : Chomping
  indent? : Option Nat

def blockIndent? : Option Char → Option Nat
  | some c => if '1' ≤ c && c ≤ '9' then some (c.toNat - '0'.toNat) else none
  | none => none

def chomping? : Option Char → Option Chomping
  | some '+' => some .keep
  | some '-' => some .strip
  | _ => none

def blockHeader (place : Place) : Except Fault (BlockHeader × Place) :=
  let (header, place) : BlockHeader × Place :=
    match chomping? place.head with
    | some chomping =>
      match blockIndent? (place.ahead 1) with
      | some indent => (⟨chomping, some indent⟩, place.skip 2)
      | none => (⟨chomping, none⟩, place.skip 1)
    | none =>
      match blockIndent? place.head with
      | some indent =>
        match chomping? (place.ahead 1) with
        | some chomping => (⟨chomping, some indent⟩, place.skip 2)
        | none => (⟨.clip, some indent⟩, place.skip 1)
      | none => (⟨.clip, none⟩, place)
  let place := place.skip (place.rest.takeWhile isSpace).length
  let place := if place.head == some '#' then place.takeLine.2 else place
  match place.head with
  | none => .ok (header, place)
  | some c => if isBreak c then .ok (header, place.takeBreak.2) else .error .malformed

/-- Skip the indentation of the lines of a block and take the line ends between them. While the
indentation is not known, the deepest blank line is noted. -/
def blockBreaks (indent? : Option Nat) : (count : Nat) → (deepest : Nat) → (breaks : List Char) →
    Place → Except Fault (Nat × List Char × Place)
  | 0, deepest, breaks, place => .ok (deepest, breaks, place)
  | count + 1, deepest, breaks, place =>
    let blanks := (place.rest.takeWhile (· == ' ')).length
    let eaten := match indent? with
      | some indent => min blanks (indent - place.column)
      | none => blanks
    let place := place.skip eaten
    let deepest := max deepest place.column
    let short := match indent? with
      | some indent => decide (place.column < indent)
      | none => true
    match place.head with
    | none => .ok (deepest, breaks, place)
    | some c =>
      if short && c == '\t' then .error .malformed
      else if isBreak c then
        let (line, next) := place.takeBreak
        blockBreaks indent? count deepest (breaks ++ line) next
      else .ok (deepest, breaks, place)

/-- What has been read of a block: its text, whether its last line began with a blank, the end of
that line and the empty lines after it. -/
structure BlockState where
  done : List Char
  indented : Bool
  lineEnd : List Char
  breaks : List Char

def blockLines (folded : Bool) (indent : Nat) : (count : Nat) → BlockState → Place →
    Except Fault (BlockState × Place)
  | 0, state, place => .ok (state, place)
  | count + 1, state, place =>
    if place.column != indent || place.head.isNone then .ok (state, place)
    else do
      let blank := place.head.any isSpace
      let joint :=
        if folded && !state.indented && !blank && state.lineEnd.head? == some '\n' then
          if state.breaks.isEmpty then [' '] else []
        else state.lineEnd
      let (line, next) := place.takeLine
      let (lineEnd, next) := next.takeBreak
      let (_, breaks, next) ← blockBreaks (some indent) (count + 1) 0 [] next
      blockLines folded indent count
        ⟨state.done ++ joint ++ state.breaks ++ line, blank, lineEnd, breaks⟩ next

/-- Read a block from after its indicator. `indent` is the indentation of the collection that
holds it, from zero, or absent at the top. -/
def blockFrom (folded : Bool) (indent? : Option Nat) (place : Place) :
    Except Fault (List Char × Place) := do
  let count := place.rest.length + 1
  let (header, place) ← blockHeader place
  let given? := header.indent?.map fun extra => (indent?.getD 0) + extra
  let (deepest, breaks, place) ← blockBreaks given? count 0 [] place
  let least := match indent? with
    | some indent => indent + 1
    | none => 1
  let indent := given?.getD (max deepest least)
  let (state, place) ← blockLines folded indent count ⟨[], false, [], breaks⟩ place
  let tail := match header.chomping with
    | .strip => []
    | .clip => state.lineEnd
    | .keep => state.lineEnd ++ state.breaks
  return (state.done ++ tail, place)

end SelectGraph.Yaml
