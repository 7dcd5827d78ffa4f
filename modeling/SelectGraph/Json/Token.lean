import SelectGraph.Text.Parts

/-!
# JSON tokens

A text is read as a sequence of tokens: the six punctuation marks, strings, numbers and
the three words. Blanks separate tokens and belong to none. Where no token can be read
the sequence ends in `malformed`, so a reader that works through the tokens in order
meets faults in the order in which they stand in the text.
-/

namespace SelectGraph.Json

inductive Token where
  | openBrace
  | closeBrace
  | openBracket
  | closeBracket
  | colon
  | comma
  | text (value : String)
  | number (digits : String)
  | null
  | bool (value : Bool)
  | malformed
  deriving DecidableEq

def isBlank (c : Char) : Bool :=
  c == ' ' || c == '\t' || c == '\n' || c == '\r'

def hexQuad? : List Char → Option (Nat × List Char)
  | a :: b :: c :: d :: rest => do
      let a ← Text.hexValue? a
      let b ← Text.hexValue? b
      let c ← Text.hexValue? c
      let d ← Text.hexValue? d
      return (((a * 16 + b) * 16 + c) * 16 + d, rest)
  | _ => none

/-- The character that stands for a code point no text can hold. -/
def replacement : Char := Char.ofNat 0xFFFD

/-- Join the code of an escape with the low half that may follow it. A half on its own becomes
the replacement character and what follows it is read again. -/
def joinSurrogates (code : Nat) (rest : List Char) : Char × List Char :=
  if code < 0xD800 || 0xE000 ≤ code then (Char.ofNat code, rest)
  else
    let low := match rest with
      | '\\' :: 'u' :: digits => hexQuad? digits
      | _ => none
    match low with
    | some (second, tail) =>
      if code < 0xDC00 && 0xDC00 ≤ second && second < 0xE000 then
        (Char.ofNat (0x10000 + (code - 0xD800) * 0x400 + (second - 0xDC00)), tail)
      else (replacement, rest)
    | none => (replacement, rest)

/-- The character of a one-letter escape. -/
def shortEscape? : Char → Option Char
  | '"' => some '"'
  | '\\' => some '\\'
  | '/' => some '/'
  | 'b' => some (Char.ofNat 8)
  | 'f' => some (Char.ofNat 12)
  | 'n' => some '\n'
  | 'r' => some '\r'
  | 't' => some '\t'
  | _ => none

/-- The characters of a string after its opening quote, and what follows the closing one. The
count bounds the characters read; the length of the text is always enough. -/
def stringBody? : Nat → List Char → Option (List Char × List Char)
  | 0, _ => none
  | _ + 1, [] => none
  | count + 1, c :: rest =>
    if c = '"' then some ([], rest)
    else if c.toNat < 0x20 then none
    else if c = '\\' then
      match rest with
      | [] => none
      | e :: tail =>
        if e = 'u' then
          match hexQuad? tail with
          | none => none
          | some (code, tail) =>
            let (decoded, tail) := joinSurrogates code tail
            (stringBody? count tail).map fun (chars, after) => (decoded :: chars, after)
        else
          match shortEscape? e with
          | none => none
          | some decoded =>
            (stringBody? count tail).map fun (chars, after) => (decoded :: chars, after)
    else (stringBody? count rest).map fun (chars, after) => (c :: chars, after)

def digits? (chars : List Char) : Option (List Char × List Char) :=
  match chars.takeWhile Text.isDigit with
  | [] => none
  | digits => some (digits, chars.dropWhile Text.isDigit)

/-- The whole part of a number: a zero alone, or digits that do not begin with zero. -/
def wholePart? : List Char → Option (List Char × List Char)
  | '0' :: rest => some (['0'], rest)
  | chars => digits? chars

/-- The fraction of a number, if a point follows. -/
def fractionPart? : List Char → Option (List Char × List Char)
  | '.' :: rest => (digits? rest).map fun (digits, rest) => ('.' :: digits, rest)
  | chars => some ([], chars)

/-- The exponent of a number, if a mark follows. -/
def exponentPart? : List Char → Option (List Char × List Char)
  | [] => some ([], [])
  | c :: rest =>
    if c = 'e' || c = 'E' then
      match rest with
      | s :: tail =>
        if s = '+' || s = '-' then
          (digits? tail).map fun (digits, tail) => (c :: s :: digits, tail)
        else (digits? rest).map fun (digits, tail) => (c :: digits, tail)
      | [] => none
    else some ([], c :: rest)

def numberBody? (chars : List Char) : Option (List Char × List Char) := do
  let (sign, chars) := match chars with
    | '-' :: rest => (['-'], rest)
    | rest => ([], rest)
  let (whole, chars) ← wholePart? chars
  let (fraction, chars) ← fractionPart? chars
  let (exponent, chars) ← exponentPart? chars
  return (sign ++ whole ++ fraction ++ exponent, chars)

def punctuation? : Char → Option Token
  | '{' => some .openBrace
  | '}' => some .closeBrace
  | '[' => some .openBracket
  | ']' => some .closeBracket
  | ':' => some .colon
  | ',' => some .comma
  | _ => none

/-- The first token of the characters after blanks, and what follows it. -/
def nextToken? (chars : List Char) : Option (Token × List Char) :=
  match chars.dropWhile isBlank with
  | [] => none
  | c :: rest =>
    match punctuation? c with
    | some mark => some (mark, rest)
    | none =>
      let read : Option (Token × List Char) :=
        if c = '"' then
          (stringBody? (rest.length + 1) rest).map fun (chars, after) =>
            (.text (String.ofList chars), after)
        else if c = '-' || Text.isDigit c then
          (numberBody? (c :: rest)).map fun (digits, after) =>
            (.number (String.ofList digits), after)
        else if c = 't' then
          (Text.dropStart? ['r', 'u', 'e'] rest).map fun after => (.bool true, after)
        else if c = 'f' then
          (Text.dropStart? ['a', 'l', 's', 'e'] rest).map fun after => (.bool false, after)
        else if c = 'n' then
          (Text.dropStart? ['u', 'l', 'l'] rest).map fun after => (.null, after)
        else none
      some (read.getD (.malformed, []))

/-- The tokens of the characters; the count bounds their number. -/
def tokensWithin : Nat → List Char → List Token
  | 0, _ => []
  | count + 1, chars =>
    match nextToken? chars with
    | none => []
    | some (token, rest) => token :: tokensWithin count rest

/-- The tokens of a text. Every token takes at least one character, so the length bounds them. -/
def tokens (text : String) : List Token :=
  tokensWithin (text.toList.length + 1) text.toList

end SelectGraph.Json
