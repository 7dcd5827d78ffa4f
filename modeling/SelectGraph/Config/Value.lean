import SelectGraph.Json.Value
import SelectGraph.Time.Duration
import SelectGraph.Yaml.Decode

/-!
# Values of settings

A setting may be written in a file, in the environment or on the command line, so its value comes in
several forms. Reading it as the kind that is needed is lenient: a number may be written as a text,
a truth value as a number, a list as one text with commas.
-/

namespace SelectGraph.Config

/-- A value as it was written. A moment fits no setting. -/
inductive Value where
  | null
  | bool (value : Bool)
  | integer (value : Int)
  | double (value : Double)
  | text (value : String)
  | moment
  | list (items : List Value)
  | group (entries : List (String × Value))

namespace Value

/-- Set a key of a group; case is dropped from keys, and the last value counts. -/
def setEntry (entries : List (String × Value)) (key : String) (value : Value) :
    List (String × Value) :=
  entries.filter (·.1 != Text.toLower key) ++ [(Text.toLower key, value)]

def ofScalar : Yaml.Scalar → Value
  | .null => .null
  | .bool value => .bool value
  | .int value => .integer value
  | .float value => .double value
  | .time _ => .moment
  | .text value => .text value

/-- A double with all its digits before and after the point. -/
def plainDouble (value : Double) : String :=
  value.render ⟨-400, 400, 2⟩

/-- How many nodes of a document have been read, and how many of them through aliases. -/
structure Tally where
  read : Nat := 0
  aliased : Nat := 0

/-- Whether too much of a document comes through aliases. Of a long document less may. -/
def Tally.isExcessive (tally : Tally) : Bool :=
  let (read, aliased) := (tally.read, tally.aliased)
  100 < aliased && 1000 < read &&
    if read ≤ 400000 then 99 * read < 100 * aliased
    else if 4000000 ≤ read then read < 10 * aliased
    else (99 * 3600000 - 89 * (read - 400000)) * read < 360000000 * aliased

abbrev NodeReader := StateT Tally (Except Yaml.Fault)

def noteNodes (aliased : Bool) (count : Nat) : NodeReader Unit := do
  let tally ← get
  let next : Tally :=
    ⟨tally.read + count, if aliased then tally.aliased + count else tally.aliased⟩
  if next.isExcessive then throw .malformed
  set next

def keyText : Yaml.Scalar → String
  | .null => ""
  | .bool value => if value then "true" else "false"
  | .int value => toString value
  | .float value => plainDouble value
  | .time found | .text found => found

/-- The entries of a group with the texts of their keys. Keys at the top are texts; those of an inner
group are so only if all of them are. -/
def entriesOf (top : Bool) (mapping : List (Yaml.Node × Yaml.Node)) :
    Except Yaml.Fault (List (String × Yaml.Node)) := do
  if top || mapping.all fun entry => entry.1.isTextKey then
    let (written, more) ← Yaml.Keys.texts.entries mapping
    return written ++ more
  else
    let (written, more) ← Yaml.Keys.scalars.entries mapping
    return (written ++ more).map fun (key, node) => (keyText key, node)

def ofNode : (depth : Nat) → (top aliased : Bool) → Yaml.Node → NodeReader Value
  | 0, _, _, _ => throw .malformed
  | depth + 1, top, aliased, node => do
      noteNodes aliased 1
      match node with
      | .scalar tag? plain content => return ofScalar (← Yaml.resolve tag? plain content)
      | .sequence items => return .list (← items.mapM (ofNode depth false aliased))
      | .mapping mapping =>
        noteNodes aliased mapping.length
        let entries ← entriesOf top mapping
        let values ← entries.mapM fun (key, inner) => do
          return (key, ← ofNode depth false aliased inner)
        return .group (values.foldl (fun all entry => setEntry all entry.1 entry.2) [])
      | .reference _ target => ofNode depth top true target
      | .cycle _ => throw .malformed

/-- The groups in a text of settings; a text without content holds none. -/
def ofYaml (source : String) : Except Yaml.Fault Value := do
  match ← Yaml.parse source with
  | none => return .group []
  | some node =>
    match ← (ofNode Yaml.deepest true false node).run' {} with
    | .group entries => return .group entries
    | .null => return .group []
    | _ => throw .malformed

mutual

/-- The value that a JSON value stands for; `none` when a number is out of range. -/
def ofJson? : Json → Option Value
  | .null => some .null
  | .bool value => some (.bool value)
  | .number digits => (Double.read digits).toOption.map .double
  | .text value => some (.text value)
  | .list items => (ofItems? items).map .list
  | .object members => (ofMembers? members).map fun entries =>
    .group (entries.foldl (fun all entry => setEntry all entry.1 entry.2) [])

def ofItems? : List Json → Option (List Value)
  | [] => some []
  | item :: items => do return (← ofJson? item) :: (← ofItems? items)

def ofMembers? : List (String × Json) → Option (List (String × Value))
  | [] => some []
  | (key, member) :: members => do return (key, ← ofJson? member) :: (← ofMembers? members)

end

def readJson? (source : String) : Option Value := do
  match ← ofJson? (← Json.parse? source) with
  | .group entries => some (.group entries)
  | .null => some (.group [])
  | _ => none

/-- Split a path at each place, the longest first part first. -/
def splits (path : List String) : List (String × List String) :=
  ((List.range path.length).map fun index =>
    (Text.join "." (path.take (index + 1)), path.drop (index + 1))).reverse

/-- The value at a path. A key may hold several parts of the path, joined by dots. -/
def find? : (depth : Nat) → Value → List String → Option Value
  | 0, _, _ => none
  | depth + 1, .group entries, path =>
    (splits path).findSome? fun (key, rest) => do
      let value ← entries.lookup key
      if rest.isEmpty then some value else value.find? depth rest
  | _ + 1, _, _ => none

def at? (value : Value) (path : List String) : Option Value :=
  value.find? (path.length + 1) path

mutual

def leaves (path : List String) : Value → List (List String × Value)
  | .group entries => entriesLeaves path entries
  | .null => [(path, .null)]
  | .bool value => [(path, .bool value)]
  | .integer value => [(path, .integer value)]
  | .double value => [(path, .double value)]
  | .text value => [(path, .text value)]
  | .moment => [(path, .moment)]
  | .list items => [(path, .list items)]

/-- The paths of the values in a group that are not groups. -/
def entriesLeaves (path : List String) : List (String × Value) → List (List String × Value)
  | [] => []
  | (key, value) :: rest => leaves (path ++ Text.split key '.') value ++ entriesLeaves path rest

end

def isNull : Value → Bool
  | .null => true
  | _ => false

/-- An integer of 64 bits; a greater one wraps. -/
def wrapped (value : Int) : Int :=
  value.bmod Word.unsignedLimit

def asText? : Value → Option String
  | .text value => some value
  | .bool value => some (if value then "1" else "0")
  | .integer value => some (toString value)
  | .double value => some (plainDouble value)
  | .null => some ""
  | .moment | .list _ | .group _ => none

def asInt? : Value → Option Int
  | .integer value => some (wrapped value)
  | .double value =>
    let whole := value.truncate?.getD (-Word.signedLimit)
    some (if Word.fitsSigned whole then whole else -Word.signedLimit)
  | .bool value => some (if value then 1 else 0)
  | .text value => if value.isEmpty then some 0 else Written.int? value
  | .null => some 0
  | .moment | .list _ | .group _ => none

def asBool? : Value → Option Bool
  | .bool value => some value
  | .integer value => some (value != 0)
  | .double value => some (value.magnitude.1 != 0)
  | .text value => if value.isEmpty then some false else Written.bool? value
  | .null => some false
  | .moment | .list _ | .group _ => none

def asDouble? : Value → Option Double
  | .double value => some value
  | .integer value => some (Double.ofInt value)
  | .bool value => some (Double.ofInt (if value then 1 else 0))
  | .text value => if value.isEmpty then some (Double.zero false) else Written.double? value
  | .null => some (Double.zero false)
  | .moment | .list _ | .group _ => none

/-- Read a duration: a text with units, or a count of nanoseconds. -/
def asDuration? : Value → Option Duration
  | .text value => (Duration.read value).toOption
  | value => value.asInt?.map Duration.mk

def asTexts? : Value → Option (List String)
  | .list items => items.mapM asText?
  | .text value =>
    let trimmed := Text.trim value
    some (if trimmed.isEmpty then [] else (Text.split trimmed ',').map Text.trim)
  | .group [] => some []
  | value => value.asText?.map ([·])

/-- Read a map of texts: a group, or a list of groups of which later ones count. -/
def asTextMap? : Value → Option (List (String × String))
  | .group entries => entries.mapM fun (key, value) => do return (key, ← value.asText?)
  | .list items => do
      let maps ← items.mapM fun
        | .group entries => entries.mapM fun (key, value) => do return (key, ← value.asText?)
        | .null => some []
        | _ => none
      return maps.flatten.reverse
  | .null => some []
  | _ => none

/-- The text of a value where any form will do; a list or a group has none. -/
def written : Value → String
  | .bool value => if value then "true" else "false"
  | value => value.asText?.getD ""

/-- The truth of a value where any form will do; a form without truth is false. -/
def truth (value : Value) : Bool :=
  value.asBool?.getD false

end Value

end SelectGraph.Config
