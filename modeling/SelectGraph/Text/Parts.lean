/-!
# Parts of a text

Looking for one text inside another, cutting a text at separators and trimming its
ends. Everything is defined on lists of characters; the functions on `String` only
convert.
-/

namespace SelectGraph.Text

/-- What follows `pattern` when the characters begin with it. -/
def dropStart? : (pattern chars : List Char) → Option (List Char)
  | [], chars => some chars
  | _ :: _, [] => none
  | p :: pattern, c :: chars => if p = c then dropStart? pattern chars else none

def startsWith (text pattern : String) : Bool :=
  pattern.toList.isPrefixOf text.toList

def endsWith (text pattern : String) : Bool :=
  pattern.toList.isSuffixOf text.toList

def after? (text pattern : String) : Option String :=
  (dropStart? pattern.toList text.toList).map String.ofList

def before? (text pattern : String) : Option String :=
  (dropStart? pattern.toList.reverse text.toList.reverse).map fun rest =>
    String.ofList rest.reverse

/-- Split at the first occurrence of the pattern: what stands before it and after it. -/
def cutChars? (pattern : List Char) : List Char → Option (List Char × List Char)
  | [] => if pattern.isEmpty then some ([], []) else none
  | c :: chars =>
    match dropStart? pattern (c :: chars) with
    | some rest => some ([], rest)
    | none => (cutChars? pattern chars).map fun (before, rest) => (c :: before, rest)

/-- Split at the first occurrence of the pattern. -/
def cut? (text pattern : String) : Option (String × String) :=
  (cutChars? pattern.toList text.toList).map fun (before, rest) =>
    (String.ofList before, String.ofList rest)

def contains (text pattern : String) : Bool :=
  (cutChars? pattern.toList text.toList).isSome

/-- Split at the last occurrence of a character. -/
def cutLast? (text : String) (separator : Char) : Option (String × String) :=
  let reversed := text.toList.reverse
  let tail := reversed.takeWhile (· != separator)
  match reversed.dropWhile (· != separator) with
  | [] => none
  | _ :: front => some (String.ofList front.reverse, String.ofList tail.reverse)

/-- The pieces between occurrences of one character; `n` occurrences give `n + 1` pieces. -/
def splitChars (separator : Char) : List Char → List (List Char)
  | [] => [[]]
  | c :: chars =>
    match splitChars separator chars with
    | [] => [[c]]
    | piece :: pieces =>
      if c = separator then [] :: piece :: pieces else (c :: piece) :: pieces

/-- The pieces of a text between occurrences of one character. -/
def split (text : String) (separator : Char) : List String :=
  (splitChars separator text.toList).map String.ofList

def replaceChar (text : String) (target : Char) (replacement : String) : String :=
  String.ofList (text.toList.flatMap fun c =>
    if c = target then replacement.toList else [c])

/-- Write the texts one after the other with a separator between them. -/
def join (separator : String) (texts : List String) : String :=
  separator.intercalate texts

/-- The blank characters: the ASCII blanks, next line, and the Unicode separators. -/
def isBlank (c : Char) : Bool :=
  c == ' ' || ('\t' ≤ c && c ≤ '\r') || c.toNat == 0x85 || c.toNat == 0xA0 || c.toNat == 0x1680 ||
    (0x2000 ≤ c.toNat && c.toNat ≤ 0x200A) || c.toNat == 0x2028 || c.toNat == 0x2029 ||
    c.toNat == 0x202F || c.toNat == 0x205F || c.toNat == 0x3000

/-- Drop the characters satisfying the test from both ends. -/
def trimChars (drops : Char → Bool) (chars : List Char) : List Char :=
  ((chars.dropWhile drops).reverse.dropWhile drops).reverse

/-- Drop blanks from both ends. -/
def trim (text : String) : String :=
  String.ofList (trimChars isBlank text.toList)

def isDigit (c : Char) : Bool :=
  '0' ≤ c && c ≤ '9'

def digitsValue (digits : List Char) : Nat :=
  digits.foldl (fun value c => 10 * value + (c.toNat - '0'.toNat)) 0

def hexValue? (c : Char) : Option Nat :=
  if isDigit c then some (c.toNat - '0'.toNat)
  else if 'a' ≤ c && c ≤ 'f' then some (c.toNat - 'a'.toNat + 10)
  else if 'A' ≤ c && c ≤ 'F' then some (c.toNat - 'A'.toNat + 10)
  else none

/-- The lower case hexadecimal digits of a number, padded with zeros to a width. -/
def hexDigits (width number : Nat) : List Char :=
  let digits := Nat.toDigits 16 number
  List.replicate (width - digits.length) '0' ++ digits

def paddedDigits (width number : Nat) : String :=
  let digits := Nat.toDigits 10 number
  String.ofList (List.replicate (width - digits.length) '0' ++ digits)

end SelectGraph.Text
