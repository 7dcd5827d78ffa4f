import SelectGraph.Number.Double
import SelectGraph.Text.Quoted

/-!
# Literals

The typed values of arguments: what a request gives for a filter, an order, a page size or
a cursor, after variables have been put in place. Object fields keep the order in which
they were written, and repeated names are kept.
-/

namespace SelectGraph

/-- An argument value. `int` holds the signed 64-bit integers and `uint` those unsigned 64-bit
integers that are larger. -/
inductive Literal where
  | null
  | int (value : Int)
  | uint (value : Nat)
  | float (value : Double)
  | bool (value : Bool)
  | text (value : String)
  | enum (name : String)
  | list (items : List Literal)
  | object (fields : List (String × Literal))
  deriving Inhabited

namespace Literal

/-- Whether the value is a leaf that can be an argument of a statement. -/
def isScalar : Literal → Bool
  | .int _ | .uint _ | .float _ | .bool _ | .text _ | .enum _ => true
  | .null | .list _ | .object _ => false

def isNull : Literal → Bool
  | .null => true
  | _ => false

/-- The statement argument a scalar stands for: an enum name is passed as text. -/
def sqlValue : Literal → Literal
  | .enum name => .text name
  | value => value

def get? (fields : List (String × Literal)) (name : String) : Option Literal :=
  (fields.find? fun field => field.1 == name).map (·.2)

mutual

def describe : Literal → String
  | .null => "null"
  | .int value => toString value
  | .uint value => toString value
  | .float value => value.toText
  | .bool value => if value then "true" else "false"
  | .text value => Text.quote value
  | .enum name => name
  | .list items => "[" ++ ", ".intercalate (describeItems items) ++ "]"
  | .object fields => "\x7b" ++ ", ".intercalate (describeFields fields) ++ "\x7d"

def describeItems : List Literal → List String
  | [] => []
  | item :: items => describe item :: describeItems items

def describeFields : List (String × Literal) → List String
  | [] => []
  | (name, value) :: fields => (name ++ ": " ++ describe value) :: describeFields fields

end

/-- Least and greatest signed 64-bit integers, and greatest unsigned one. -/
def minInt : Int := -Word.signedLimit
def maxInt : Int := Word.signedLimit - 1
def maxUInt : Nat := Word.unsignedLimit - 1

/-- A non-empty run of decimal digits and nothing else. -/
def decimal? (chars : List Char) : Option Nat :=
  if chars.isEmpty || !chars.all Text.isDigit then none else some (Text.digitsValue chars)

/-- Read a signed 64-bit integer; a plus sign is allowed. -/
def signed? (digits : String) : Option Int :=
  let value : Option Int := match digits.toList with
    | '-' :: rest => (decimal? rest).map fun value => -(Int.ofNat value)
    | '+' :: rest => (decimal? rest).map Int.ofNat
    | chars => (decimal? chars).map Int.ofNat
  value.filter fun value => decide (minInt ≤ value ∧ value ≤ maxInt)

/-- Read an unsigned 64-bit integer; no sign is allowed. -/
def unsigned? (digits : String) : Option Nat :=
  (decimal? digits.toList).filter fun value => decide (value ≤ maxUInt)

/-- The literal of an integer written in decimal digits: a machine integer when it fits one, and
otherwise the digits themselves, so that no key loses precision. -/
def ofDigits? (digits : String) : Option Literal :=
  match signed? digits with
  | some value => some (.int value)
  | none =>
    match unsigned? digits with
    | some value => some (.uint value)
    | none =>
      let unsignedPart := match digits.toList with
        | '-' :: rest => rest
        | chars => chars
      (decimal? unsignedPart).map fun _ => .text digits

end Literal

/-- Why a text is not the decimal of a double, as messages say it. -/
def Double.ReadError.message (digits : String) : Double.ReadError → String
  | .malformed => "strconv.ParseFloat: parsing " ++ Text.quote digits ++ ": invalid syntax"
  | .outOfRange => "strconv.ParseFloat: parsing " ++ Text.quote digits ++ ": value out of range"

end SelectGraph
