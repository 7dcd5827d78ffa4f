import SelectGraph.GraphQL.Source

/-!
# Tokens of a document

Scanning resumes at the byte offset where the last token ended. Ignored characters before a
token are counted twice, in bytes and in characters; a name takes its extent from the second
count and every other token from the first. Scanning a document gives its tokens up to the
end or up to the first fault.
-/

namespace SelectGraph.GraphQL

inductive TokenKind where
  | endOfInput
  | bang
  | dollar
  | parenOpen
  | parenClose
  | spread
  | colon
  | equals
  | at
  | bracketOpen
  | bracketClose
  | braceOpen
  | pipe
  | braceClose
  | name
  | int
  | float
  | string
  | blockString
  | amp
  deriving DecidableEq

def TokenKind.word : TokenKind → String
  | .endOfInput => "EOF"
  | .bang => "!"
  | .dollar => "$"
  | .parenOpen => "("
  | .parenClose => ")"
  | .spread => "..."
  | .colon => ":"
  | .equals => "="
  | .at => "@"
  | .bracketOpen => "["
  | .bracketClose => "]"
  | .braceOpen => "\x7b"
  | .pipe => "|"
  | .braceClose => "\x7d"
  | .name => "Name"
  | .int => "Int"
  | .float => "Float"
  | .string => "String"
  | .blockString => "BlockString"
  | .amp => "&"

structure Token where
  kind : TokenKind
  start : Nat
  stop : Nat
  value : String
  deriving DecidableEq

def Token.describe (token : Token) : String :=
  if token.value = "" then token.kind.word else token.kind.word ++ " \"" ++ token.value ++ "\""

def code? (body : ByteArray) (offset : Nat) : Option Nat :=
  (Text.codeAt body offset).map (·.1)

def showCode : Option Nat → String
  | none => "<EOF>"
  | some code =>
    if 0x20 ≤ code && code < 0x7F then "\"" ++ String.ofList [Char.ofNat code] ++ "\""
    else
      "\"\\\\u" ++ String.ofList ((Text.hexDigits 4 code).map fun c =>
        if 'a' ≤ c && c ≤ 'f' then Char.ofNat (c.toNat - 32) else c) ++ "\""

def isIgnored (code : Nat) : Bool :=
  code == 0xFEFF || code == 0x09 || code == 0x20 || code == 0x0A || code == 0x0D || code == 0x2C

def inComment (code : Nat) : Bool :=
  code > 0x1F || code == 0x09

def skipIgnored (body : ByteArray) :
    (count : Nat) → (comment : Bool) → (offset characters : Nat) → Nat × Nat
  | 0, _, offset, characters => (offset, characters)
  | count + 1, comment, offset, characters =>
    match Text.codeAt body offset with
    | none => (offset, characters)
    | some (code, width) =>
      if comment && inComment code then
        skipIgnored body count true (offset + width) (characters + 1)
      else if isIgnored code then
        skipIgnored body count false (offset + width) (characters + 1)
      else if code == 0x23 then
        skipIgnored body count true (offset + width) (characters + 1)
      else (offset, characters)

def startsName (code : Nat) : Bool :=
  code == 0x5F || (0x41 ≤ code && code ≤ 0x5A) || (0x61 ≤ code && code ≤ 0x7A)

def isDigitCode (code : Nat) : Bool :=
  0x30 ≤ code && code ≤ 0x39

def continuesName (code : Nat) : Bool :=
  startsName code || isDigitCode code

def skipRun (body : ByteArray) (test : Nat → Bool) : (count offset : Nat) → Nat
  | 0, offset => offset
  | count + 1, offset =>
    match Text.byteAt body offset with
    | none => offset
    | some b => if test b then skipRun body test count (offset + 1) else offset

def digitsFrom (body : ByteArray) (offset : Nat) : Except SyntaxFault Nat :=
  match code? body offset with
  | some code =>
    if isDigitCode code then .ok (skipRun body isDigitCode body.size offset)
    else .error ⟨offset, "Invalid number, expected digit but got: " ++ showCode (some code) ++ "."⟩
  | none => .error ⟨offset, "Invalid number, expected digit but got: " ++ showCode none ++ "."⟩

def numberAt (body : ByteArray) (start : Nat) : Except SyntaxFault Token := do
  let offset := if code? body start == some 0x2D then start + 1 else start
  let offset ←
    if code? body offset == some 0x30 then
      match code? body (offset + 1) with
      | some code =>
        if isDigitCode code then
          throw ⟨offset + 1,
            "Invalid number, unexpected digit after 0: " ++ showCode (some code) ++ "."⟩
        else pure (offset + 1)
      | none => pure (offset + 1)
    else digitsFrom body offset
  let (isFloat, offset) ←
    if code? body offset == some 0x2E then do
      let offset ← digitsFrom body (offset + 1)
      pure (true, offset)
    else pure (false, offset)
  let (isFloat, offset) ←
    if code? body offset == some 0x65 || code? body offset == some 0x45 then do
      let signed := code? body (offset + 1) == some 0x2B || code? body (offset + 1) == some 0x2D
      let offset ← digitsFrom body (if signed then offset + 2 else offset + 1)
      pure (true, offset)
    else pure (isFloat, offset)
  return ⟨if isFloat then .float else .int, start, offset, Text.slice body start offset⟩

def hexQuadAt? (body : ByteArray) (offset : Nat) : Option Nat := do
  let a ← Text.hexValue? (Char.ofNat (← Text.byteAt body offset))
  let b ← Text.hexValue? (Char.ofNat (← Text.byteAt body (offset + 1)))
  let c ← Text.hexValue? (Char.ofNat (← Text.byteAt body (offset + 2)))
  let d ← Text.hexValue? (Char.ofNat (← Text.byteAt body (offset + 3)))
  return ((a * 16 + b) * 16 + c) * 16 + d

/-- The character of a code; a code that is no character becomes the replacement character. -/
def charOfCode (code : Nat) : Char :=
  if 0xD800 ≤ code && code < 0xE000 then Char.ofNat Text.replacementCode else Char.ofNat code

def escaped? : Nat → Option Char
  | 0x22 => some '"'
  | 0x2F => some '/'
  | 0x5C => some '\\'
  | 0x62 => some (Char.ofNat 8)
  | 0x66 => some (Char.ofNat 12)
  | 0x6E => some '\n'
  | 0x72 => some '\r'
  | 0x74 => some '\t'
  | _ => none

/-- The rest of a string: its characters in reverse are `done`. Bytes and characters are counted
apart, since faults are placed by characters. -/
def stringFrom (body : ByteArray) (start : Nat) :
    (count offset characters : Nat) → (done : List Char) → Except SyntaxFault Token
  | 0, _, characters, _ => .error ⟨characters, "Unterminated string."⟩
  | count + 1, offset, characters, done =>
    match Text.codeAt body offset with
    | none => .error ⟨characters, "Unterminated string."⟩
    | some (code, width) =>
      if code == 0x22 then
        .ok ⟨.string, start, offset + 1, String.ofList done.reverse⟩
      else if code == 0x0A || code == 0x0D then .error ⟨characters, "Unterminated string."⟩
      else if code < 0x20 && code != 0x09 then
        .error ⟨characters, "Invalid character within String: " ++ showCode (some code) ++ "."⟩
      else if code == 0x5C then
        let mark := code? body (offset + 1)
        if mark == some 0x75 then
          if body.size ≤ offset + 5 then
            .error ⟨characters + 1, "Invalid character escape sequence: \\u" ++
              Text.slice body (offset + 2) body.size⟩
          else
            match hexQuadAt? body (offset + 2) with
            | none => .error ⟨characters + 1, "Invalid character escape sequence: \\u" ++
                Text.slice body (offset + 2) (offset + 6)⟩
            | some value =>
              stringFrom body start count (offset + 6) (characters + 6)
                (charOfCode value :: done)
        else
          match mark with
          | none => .error ⟨characters + 1, "Invalid character escape sequence: \\\\" ++
              String.ofList [Char.ofNat Text.replacementCode] ++ "."⟩
          | some value =>
            match escaped? value with
            | some c => stringFrom body start count (offset + 2) (characters + 2) (c :: done)
            | none => .error ⟨characters + 1, "Invalid character escape sequence: \\\\" ++
                String.ofList [charOfCode value] ++ "."⟩
      else stringFrom body start count (offset + width) (characters + 1) (charOfCode code :: done)

def indentOf (line : List Nat) : Nat :=
  (line.takeWhile fun b => b == 0x20 || b == 0x09).length

def isBlankLine (line : List Nat) : Bool :=
  indentOf line == line.length

/-- The least indent of the lines that hold more than blanks. -/
def commonIndent (lines : List (List Nat)) : Nat :=
  let indents := (lines.filter fun line => !isBlankLine line).map indentOf
  (indents.min?).getD 0

/-- The value of a block string: the common indent of the lines after the first is cut from all
lines, then blank lines go from both ends. -/
def blockValue (raw : List Nat) : List Nat :=
  let lines := splitLines raw
  let indent := commonIndent lines.tail
  let cut := lines.map fun line => if indent ≤ line.length then line.drop indent else line
  let kept := ((cut.dropWhile isBlankLine).reverse.dropWhile isBlankLine).reverse
  [10].intercalate kept

def quotesAt (body : ByteArray) (offset : Nat) : Bool :=
  code? body offset == some 0x22 && code? body (offset + 1) == some 0x22 &&
    code? body (offset + 2) == some 0x22

/-- The rest of a block string: its bytes in reverse are `done`. -/
def blockFrom (body : ByteArray) (start : Nat) :
    (count offset characters : Nat) → (done : List Nat) → Except SyntaxFault Token
  | 0, _, characters, _ => .error ⟨characters, "Unterminated string."⟩
  | count + 1, offset, characters, done =>
    match Text.codeAt body offset with
    | none => .error ⟨characters, "Unterminated string."⟩
    | some (code, width) =>
      if quotesAt body offset then
        .ok ⟨.blockString, start, offset + 3, textOfBytes (blockValue done.reverse)⟩
      else if code < 0x20 && code != 0x09 && code != 0x0A && code != 0x0D then
        .error ⟨characters, "Invalid character within String: " ++ showCode (some code) ++ "."⟩
      else if code == 0x5C && quotesAt body (offset + 1) then
        blockFrom body start count (offset + 4) (characters + 4)
          (0x22 :: 0x22 :: 0x22 :: done)
      else
        let bytes := (List.range width).filterMap fun i => Text.byteAt body (offset + i)
        blockFrom body start count (offset + width) (characters + 1) (bytes.reverse ++ done)

def punctuator? : Nat → Option TokenKind
  | 0x21 => some .bang
  | 0x24 => some .dollar
  | 0x26 => some .amp
  | 0x28 => some .parenOpen
  | 0x29 => some .parenClose
  | 0x3A => some .colon
  | 0x3D => some .equals
  | 0x40 => some .at
  | 0x5B => some .bracketOpen
  | 0x5D => some .bracketClose
  | 0x7B => some .braceOpen
  | 0x7C => some .pipe
  | 0x7D => some .braceClose
  | _ => none

def nextToken (body : ByteArray) (resume : Nat) : Except SyntaxFault Token :=
  let (offset, characters) := skipIgnored body (body.size + 1) false resume resume
  match Text.codeAt body offset with
  | none => .ok ⟨.endOfInput, offset, offset, ""⟩
  | some (code, _) =>
    if code < 0x20 then .error ⟨characters, "Invalid character " ++ showCode (some code)⟩
    else
      match punctuator? code with
      | some kind => .ok ⟨kind, offset, offset + 1, ""⟩
      | none =>
        if code == 0x2E && code? body (offset + 1) == some 0x2E &&
            code? body (offset + 2) == some 0x2E then
          .ok ⟨.spread, offset, offset + 3, ""⟩
        else if startsName code then
          let stop := skipRun body continuesName body.size offset
          .ok ⟨.name, characters, characters + (stop - offset), Text.slice body offset stop⟩
        else if code == 0x2D || isDigitCode code then numberAt body offset
        else if quotesAt body offset then
          blockFrom body offset (body.size + 1) (offset + 3) (offset + 3) []
        else if code == 0x22 then
          stringFrom body offset (body.size + 1) (offset + 1) (offset + 1) []
        else .error ⟨characters, "Unexpected character " ++ showCode (some code) ++ "."⟩

/-- Scanning ends at the end of the document or at a fault. -/
inductive Lexeme where
  | token (token : Token)
  | fault (fault : SyntaxFault)

/-- The tokens from an offset on; the count bounds their number. -/
def lexemesFrom (body : ByteArray) : (count resume : Nat) → List Lexeme
  | 0, _ => []
  | count + 1, resume =>
    match nextToken body resume with
    | .error fault => [.fault fault]
    | .ok token =>
      if token.kind = .endOfInput then [.token token]
      else .token token :: lexemesFrom body count token.stop

/-- The tokens of a document. Every token ends after the offset where scanning resumed, so the
size of the document bounds their number. -/
def Source.lexemes (source : Source) : List Lexeme :=
  lexemesFrom source.body (source.body.size + 2) 0

end SelectGraph.GraphQL
