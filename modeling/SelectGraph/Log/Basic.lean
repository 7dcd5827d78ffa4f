import SelectGraph.Number.Double
import SelectGraph.Text.Case
import SelectGraph.Time.Duration

/-!
# Log records

A logger carries fields, sorted into nested groups, and drops records below its threshold. A field
that is added later belongs to the innermost group that was opened.
-/

namespace SelectGraph.Log

inductive Level where
  | debug
  | info
  | warn
  | error
  deriving DecidableEq, Repr

namespace Level

/-- The level with a name; unknown names mean information. -/
def ofName (name : String) : Level :=
  match Text.toLower (Text.trim name) with
  | "debug" => .debug
  | "warn" | "warning" => .warn
  | "error" => .error
  | _ => .info

def name : Level → String
  | .debug => "DEBUG"
  | .info => "INFO"
  | .warn => "WARN"
  | .error => "ERROR"

def rank : Level → Nat
  | .debug => 0
  | .info => 1
  | .warn => 2
  | .error => 3

end Level

inductive Value where
  | text (value : String)
  | integer (value : Int)
  | boolean (value : Bool)
  | double (value : Double)
  | duration (value : Duration)

/-- Names with values, in the order in which they were given. -/
abbrev Fields := List (String × Value)

/-- The fields of a list of names and values in turn. A name without a value is itself the value
of a marked field. -/
def fieldsOf : List String → Fields
  | [] => []
  | [lone] => [("!BADKEY", .text lone)]
  | name :: value :: rest => (name, .text value) :: fieldsOf rest

structure Group where
  name : String
  fields : Fields

/-- A record: its fields outside groups, and groups each of which stands inside the one before. -/
structure Record where
  level : Level
  message : String
  fields : Fields
  groups : List Group

/-- A logger: its threshold and the fields of all its records. -/
structure Logger where
  threshold : Level
  fields : Fields := []
  groups : List Group := []

def extend (more : Fields) (fields : Fields) : List Group → Fields × List Group
  | [] => (fields ++ more, [])
  | [last] => (fields, [{ last with fields := last.fields ++ more }])
  | group :: rest =>
    let (_, rest) := extend more [] rest
    (fields, group :: rest)

namespace Logger

def withFields (logger : Logger) (more : Fields) : Logger :=
  let (fields, groups) := extend more logger.fields logger.groups
  { logger with fields, groups }

/-- A logger whose later fields stand in a group. A group without a name is none. -/
def withGroup (logger : Logger) (name : String) : Logger :=
  if name = "" then logger else { logger with groups := logger.groups ++ [⟨name, []⟩] }

def record (logger : Logger) (level : Level) (message : String) (more : Fields) : Record :=
  let (fields, groups) := extend more logger.fields logger.groups
  { level, message, fields, groups }

def admits (logger : Logger) (level : Level) : Bool :=
  logger.threshold.rank ≤ level.rank

end Logger

end SelectGraph.Log
