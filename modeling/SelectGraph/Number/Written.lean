import SelectGraph.Number.Double
import SelectGraph.Text.Case

/-!
# Written values

Numbers and truth values as people write them in settings: integers in several bases with
underscores between digits, truth values in several spellings, and names for the doubles that have
no digits.
-/

namespace SelectGraph.Written

def digit? (base : Nat) (c : Char) : Option Nat :=
  (Text.hexValue? c).filter (· < base)

/-- The base a run of digits announces, and the digits. -/
def splitBase : List Char → Nat × List Char
  | '0' :: 'x' :: rest | '0' :: 'X' :: rest => (16, rest)
  | '0' :: 'b' :: rest | '0' :: 'B' :: rest => (2, rest)
  | '0' :: 'o' :: rest | '0' :: 'O' :: rest => (8, rest)
  | '0' :: c :: rest => (8, c :: rest)
  | chars => (10, chars)

/-- Whether underscores stand only between digits. After a base, one may stand first. -/
def underscoresFit : (afterDigit : Bool) → List Char → Bool
  | afterDigit, [] => afterDigit
  | afterDigit, c :: rest =>
    if c = '_' then afterDigit && underscoresFit false rest else underscoresFit true rest

/-- The value of digits in a base, underscores apart. -/
def magnitude? (chars : List Char) : Option Nat :=
  let (base, digits) := splitBase chars
  let plain := digits.filter (· != '_')
  if plain.isEmpty || !underscoresFit (base != 10) digits then none
  else (plain.mapM (digit? base)).map fun values =>
    values.foldl (fun value digit => base * value + digit) 0

def int? (text : String) : Option Int :=
  let (isNegative, chars) := match text.toList with
    | '-' :: rest => (true, rest)
    | '+' :: rest => (false, rest)
    | chars => (false, chars)
  match magnitude? chars with
  | none => none
  | some magnitude =>
    let value : Int := if isNegative then -(magnitude : Int) else magnitude
    if Word.fitsSigned value then some value else none

def bool? : String → Option Bool
  | "1" | "t" | "T" | "true" | "TRUE" | "True" => some true
  | "0" | "f" | "F" | "false" | "FALSE" | "False" => some false
  | _ => none

/-- Whether every underscore stands between two digits; `before` says that a digit stands before. -/
def underscoresBetween (isDigit : Char → Bool) : (before : Bool) → List Char → Bool
  | _, [] => true
  | before, c :: rest =>
    if c = '_' then before && rest.head?.any isDigit && underscoresBetween isDigit false rest
    else underscoresBetween isDigit (isDigit c) rest

def isHexDigit (c : Char) : Bool :=
  (digit? 16 c).isSome

/-- An exponent: digits with a sign or without. -/
def exponent? : List Char → Option Int
  | '-' :: digits => if digits.isEmpty || !digits.all Text.isDigit then none else some (-(Text.digitsValue digits : Int))
  | '+' :: digits | digits =>
    if digits.isEmpty || !digits.all Text.isDigit then none else some (Text.digitsValue digits)

/-- A double in hexadecimal digits with a power of two after them. -/
def hexDouble? (isNegative : Bool) (chars : List Char) : Option Double := do
  let whole := chars.takeWhile isHexDigit
  let rest := chars.drop whole.length
  let (fraction, rest) := match rest with
    | '.' :: rest => (rest.takeWhile isHexDigit, rest.dropWhile isHexDigit)
    | rest => ([], rest)
  let digits := whole ++ fraction
  let values ← digits.mapM (digit? 16)
  let significand := values.foldl (fun value digit => 16 * value + digit) 0
  match rest with
  | mark :: rest =>
    if digits.isEmpty || (mark != 'p' && mark != 'P') then none
    else
      let power := (← exponent? rest) - 4 * (fraction.length : Int)
      let size := power + 4 * (digits.length : Int)
      if significand = 0 || size < -1100 then some (Double.zero isNegative)
      else if 1100 + 4 * (digits.length : Int) < size then none
      else if 0 ≤ power then Double.ofFraction? isNegative (significand * Nat.pow 2 power.toNat) 1
      else Double.ofFraction? isNegative significand (Nat.pow 2 (-power).toNat)
  | [] => none

/-- A double in digits, between which underscores may stand. -/
def digitsDouble? (text : String) : Option Double :=
  let (isNegative, body) := match text.toList with
    | '-' :: rest => (true, rest)
    | '+' :: rest => (false, rest)
    | rest => (false, rest)
  let ofDecimal : Option Double :=
    if underscoresBetween Text.isDigit false body then
      (Double.read (String.ofList (text.toList.filter (· != '_')))).toOption
    else none
  match body with
  | '0' :: mark :: rest =>
    if mark = 'x' || mark = 'X' then
      if underscoresBetween isHexDigit true rest then
        hexDouble? isNegative (rest.filter (· != '_'))
      else none
    else ofDecimal
  | _ => ofDecimal

/-- A double: digits, or one of the names of infinity and of no number. -/
def double? (text : String) : Option Double :=
  match Text.toLower text with
  | "inf" | "+inf" | "infinity" | "+infinity" => some ⟨0x7FF0000000000000⟩
  | "-inf" | "-infinity" => some ⟨0xFFF0000000000000⟩
  | "nan" => some ⟨0x7FF8000000000001⟩
  | _ => digitsDouble? text

end SelectGraph.Written
