import SelectGraph.Json.Fault
import SelectGraph.Json.Reader
import SelectGraph.Literal.Basic

/-!
# Literals from JSON

Variables and cursors arrive as JSON text. Integers without fraction or exponent become
machine integers, or stay digit strings when they are too wide; other numbers become
doubles. Faults are reported in the order in which they stand in the text.
-/

namespace SelectGraph.Literal

inductive JsonError where
  | malformed (fault : Json.Fault)
  | trailing
  | number (digits : String) (cause : Double.ReadError)
  | integer (digits : String)
  deriving DecidableEq

def JsonError.message : JsonError → String
  | .malformed fault => fault.message
  | .trailing => "unexpected trailing data after JSON value"
  | .number digits cause => "invalid number " ++ digits ++ ": " ++ cause.message digits
  | .integer digits => "invalid integer " ++ digits

def ofNumber (digits : String) : Except JsonError Literal :=
  if digits.toList.any fun c => c == '.' || c == 'e' || c == 'E' then
    match Double.read digits with
    | .ok value => .ok (.float value)
    | .error cause => .error (.number digits cause)
  else
    match ofDigits? digits with
    | some value => .ok value
    | none => .error (.integer digits)

/-- The reader of literals; the fault is what it reports when the text is not JSON. -/
def algebra (fault : Json.Fault) : Json.Algebra Literal JsonError where
  null := .null
  bool := .bool
  text := .text
  number := ofNumber
  list := .list
  object := .object
  syntaxError := .malformed fault

/-- The literal of a text that holds one JSON value. -/
def ofJson (source : String) : Except JsonError Literal :=
  match Json.readValue (algebra (Json.faultOf source)) (Json.tokens source) with
  | .ok (value, []) => .ok value
  | .ok (_, _ :: _) => .error .trailing
  | .error fault => .error fault

end SelectGraph.Literal
