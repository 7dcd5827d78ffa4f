import SelectGraph.Number.Written
import SelectGraph.Text.Base64
import SelectGraph.Text.Utf8
import SelectGraph.Yaml.Node

/-!
# Meaning of scalars

A plain scalar may be a null, a truth value, a number or a time; all other scalars are texts. A
tag of one of these kinds narrows what a scalar may be; with any other tag it is a text.
-/

namespace SelectGraph.Yaml

/-- What a scalar means. -/
inductive Scalar where
  | null
  | bool (value : Bool)
  | int (value : Int)
  | float (value : Double)
  | time (text : String)
  | text (value : String)
  deriving DecidableEq

def digitsIn? (base : Nat) (digits : List Char) : Option Nat :=
  if digits.isEmpty then none
  else
    digits.foldlM (fun value c =>
      match Text.hexValue? c with
      | some digit => if digit < base then some (base * value + digit) else none
      | none => none) 0

/-- The value of digits whose base is marked by what they begin with. -/
def markedDigits? (digits : List Char) : Option Nat :=
  match digits with
  | '0' :: mark :: rest =>
    if mark == 'x' || mark == 'X' then digitsIn? 16 rest
    else if mark == 'b' || mark == 'B' then digitsIn? 2 rest
    else if mark == 'o' || mark == 'O' then digitsIn? 8 rest
    else digitsIn? 8 (mark :: rest)
  | _ => digitsIn? 10 digits

/-- Read an integer of at most 64 bits; underscores are dropped. -/
def integer? (chars : List Char) : Option Int :=
  let (negative, signed, digits) := match chars with
    | '-' :: rest => (true, true, rest)
    | '+' :: rest => (false, true, rest)
    | rest => (false, false, rest)
  (markedDigits? digits).bind fun value =>
    let number : Int := if negative then -(Int.ofNat value) else Int.ofNat value
    if Word.fitsSigned number then some number
    else if !signed && number < Word.unsignedLimit then some number
    else none

/-- Whether the digits of a float follow the format: a fraction may lack its whole part or its decimals,
not both. -/
def isFloatText (chars : List Char) : Bool :=
  let chars := match chars with
    | '-' :: rest => rest
    | '+' :: rest => rest
    | rest => rest
  match chars with
  | '.' :: rest => (rest.head?.any Text.isDigit)
  | rest => rest.head?.any Text.isDigit

def float? (text : String) : Option Double :=
  match Double.read text with
  | .ok value => some value
  | .error _ => none

def daysIn (year month : Nat) : Nat :=
  if month == 2 then
    if (year % 4 == 0 && year % 100 != 0) || year % 400 == 0 then 29 else 28
  else if month == 4 || month == 6 || month == 9 || month == 11 then 30
  else 31

def shortNumber? (chars : List Char) : Option (Nat × List Char) :=
  let digits := (chars.take 2).takeWhile Text.isDigit
  if digits.isEmpty then none else some (Text.digitsValue digits, chars.drop digits.length)

/-- A time zone: `Z`, or a sign with hours and minutes. -/
def isZone : List Char → Bool
  | ['Z'] => true
  | sign :: a :: b :: ':' :: c :: [d] =>
    (sign == '+' || sign == '-') && [a, b, c, d].all Text.isDigit &&
      Text.digitsValue [a, b] ≤ 24 && Text.digitsValue [c, d] ≤ 60
  | _ => false

def isClock (zoned : Bool) (chars : List Char) : Bool :=
  let parsed := do
    let (hour, rest) ← shortNumber? chars
    let rest ← Text.dropStart? [':'] rest
    let (minute, rest) ← shortNumber? rest
    let rest ← Text.dropStart? [':'] rest
    let (second, rest) ← shortNumber? rest
    return (hour, minute, second, rest)
  match parsed with
  | none => false
  | some (hour, minute, second, rest) =>
    let rest := match rest with
      | mark :: tail =>
        if (mark == '.' || mark == ',') && tail.head?.any Text.isDigit then
          tail.dropWhile Text.isDigit
        else rest
      | [] => rest
    hour < 24 && minute < 60 && second < 60 && (if zoned then isZone rest else rest.isEmpty)

def isTime (chars : List Char) : Bool :=
  let year := chars.takeWhile Text.isDigit
  let parsed := do
    let rest ← Text.dropStart? ['-'] (chars.drop year.length)
    let (month, rest) ← shortNumber? rest
    let rest ← Text.dropStart? ['-'] rest
    let (day, rest) ← shortNumber? rest
    return (month, day, rest)
  match parsed with
  | none => false
  | some (month, day, rest) =>
    year.length == 4 && 1 ≤ month && month ≤ 12 && 1 ≤ day &&
      day ≤ daysIn (Text.digitsValue year) month &&
      match rest with
      | [] => true
      | mark :: clock =>
        ((mark == 'T' || mark == 't') && isClock true clock) || (mark == ' ' && isClock false clock)

def meaning (text : String) : Scalar :=
  if ["", "~", "null", "Null", "NULL"].contains text then .null
  else if ["true", "True", "TRUE"].contains text then .bool true
  else if ["false", "False", "FALSE"].contains text then .bool false
  else if [".nan", ".NaN", ".NAN"].contains text then .float ⟨0x7FF8000000000001⟩
  else if [".inf", ".Inf", ".INF", "+.inf", "+.Inf", "+.INF"].contains text then
    .float ⟨0x7FF0000000000000⟩
  else if ["-.inf", "-.Inf", "-.INF"].contains text then .float ⟨0xFFF0000000000000⟩
  else
    match text.toList with
    | [] => .text text
    | c :: rest =>
      if c == '.' then
        match Written.digitsDouble? text with
        | some value => .float value
        | none => .text text
      else if Text.isDigit c || c == '-' || c == '+' then
        if isTime (c :: rest) then .time text
        else
          let plain := (c :: rest).filter (· != '_')
          match integer? plain with
          | some value => .int value
          | none =>
            if isFloatText plain then
              match float? (String.ofList plain) with
              | some value => .float value
              | none => .text text
            else .text text
      else .text text

def shortTag (tag : String) : String :=
  match Text.after? tag "tag:yaml.org,2002:" with
  | some rest => "!!" ++ rest
  | none => tag

def Scalar.tag : Scalar → String
  | .null => "!!null"
  | .bool _ => "!!bool"
  | .int _ => "!!int"
  | .float _ => "!!float"
  | .time _ => "!!timestamp"
  | .text _ => "!!str"

def narrowingTags : List String :=
  ["!!bool", "!!int", "!!float", "!!null", "!!timestamp"]

def binaryText? (text : String) : Option String :=
  (Text.decodeBase64? text.toList).map fun bytes => Text.ofBytes ⟨bytes.toArray⟩

/-- The meaning of a scalar under a tag that narrows it; one that does not fit is a fault. An integer
may be a float. -/
def narrowed (tag text : String) : Except Fault Scalar :=
  let found := meaning text
  if found.tag = tag then .ok found
  else
    match found with
    | .int value =>
      if tag = "!!float" ∧ value < Word.signedLimit then .ok (.float (Double.ofInt value))
      else .error .malformed
    | _ => .error .malformed

def resolve (tag? : Option String) (plain : Bool) (text : String) : Except Fault Scalar :=
  match tag?.filter (· != "!") with
  | none => .ok (if plain then meaning text else .text text)
  | some tag =>
    let short := shortTag tag
    if short = "!!binary" then
      match binaryText? text with
      | some found => .ok (.text found)
      | none => .error .malformed
    else if narrowingTags.contains short then narrowed short text
    else .ok (.text text)

end SelectGraph.Yaml
