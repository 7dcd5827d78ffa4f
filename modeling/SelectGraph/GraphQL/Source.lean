import SelectGraph.Text.Parts
import SelectGraph.Text.Utf8

/-!
# Source documents

A document is a named sequence of bytes. Positions are byte offsets; messages show them as
a line and a column, both from one.
-/

namespace SelectGraph.GraphQL

structure Source where
  name : String
  body : ByteArray

def Source.ofText (name text : String) : Source :=
  ⟨name, text.toUTF8⟩

structure Location where
  line : Nat
  column : Nat
  deriving DecidableEq

/-- Follow the line ends before a position: the line reached and the offset where it begins. -/
def lineStartWithin (body : ByteArray) (position : Nat) :
    (count offset line lineStart : Nat) → Nat × Nat
  | 0, _, line, lineStart => (line, lineStart)
  | count + 1, offset, line, lineStart =>
    if position ≤ offset then (line, lineStart)
    else
      match Text.byteAt body offset with
      | none => (line, lineStart)
      | some b =>
        if b = 13 && Text.byteAt body (offset + 1) == some 10 then
          lineStartWithin body position count (offset + 2) (line + 1) (offset + 2)
        else if b = 10 || b = 13 then
          lineStartWithin body position count (offset + 1) (line + 1) (offset + 1)
        else lineStartWithin body position count (offset + 1) line lineStart

def Source.location (source : Source) (position : Nat) : Location :=
  let (line, lineStart) := lineStartWithin source.body position (source.body.size + 1) 0 1 0
  ⟨line, position + 1 - lineStart⟩

structure SyntaxFault where
  position : Nat
  description : String
  deriving DecidableEq

/-- The lines of a sequence of bytes: line ends are `\r\n`, `\n` and `\r`. -/
def splitLines : List Nat → List (List Nat)
  | [] => [[]]
  | 13 :: 10 :: rest => [] :: splitLines rest
  | b :: rest =>
    if b = 10 || b = 13 then [] :: splitLines rest
    else
      match splitLines rest with
      | [] => [[b]]
      | line :: lines => (b :: line) :: lines

def textOfBytes (bytes : List Nat) : String :=
  Text.ofBytes ⟨(bytes.map UInt8.ofNat).toArray⟩

/-- A character of an excerpt; control characters are written as escapes. -/
def showChar (c : Char) : List Char :=
  if 0x20 ≤ c.toNat then [c] else '\\' :: 'u' :: (Text.hexDigits 4 c.toNat).map Char.toUpper

def excerptLine (width number : Nat) (line : List Nat) : String :=
  let digits := toString number
  String.ofList (List.replicate (width - digits.length) ' ') ++ digits ++ ": " ++
    String.ofList ((textOfBytes line).toList.flatMap showChar) ++ "\n"

/-- The line of a location with a mark under its column, and the lines around it. -/
def Source.excerpt (source : Source) (location : Location) : String :=
  let lines := splitLines (source.body.toList.map UInt8.toNat)
  let width := (toString (location.line + 1)).length
  let numbered (number : Nat) : String :=
    match lines[number - 1]? with
    | some line => if number = 0 then "" else excerptLine width number line
    | none => ""
  numbered (location.line - 1) ++ numbered location.line ++
    String.ofList (List.replicate (1 + width + location.column) ' ') ++ "^\n" ++
    numbered (location.line + 1)

def SyntaxFault.message (fault : SyntaxFault) (source : Source) : String :=
  let location := source.location fault.position
  "Syntax Error " ++ source.name ++ " (" ++ toString location.line ++ ":" ++
    toString location.column ++ ") " ++ fault.description ++ "\n\n" ++ source.excerpt location

end SelectGraph.GraphQL
