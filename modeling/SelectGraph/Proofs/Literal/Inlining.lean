import SelectGraph.Literal.Value
import SelectGraph.Proofs.Json.Grammar

/-!
# Constants in place of variables

A constant can be written where a variable stands, or be given for the variable as JSON.  Both ways
lead to the same literal, with one exception: JSON has no enums, so that an enum arrives as the text
of its name.
-/

namespace SelectGraph

open List

open Sql (bind_eq_ok)

namespace GraphQL

/-- The constants that are assigned to variables, by name. -/
abbrev Assignment := String → Option Value

namespace Value

mutual

/-- A value with constants in place of the variables they are assigned to. -/
def fill (assigned : Assignment) : Value → Value
  | .variable name start => (assigned name.value).getD (.variable name start)
  | .list items start => .list (fillItems assigned items) start
  | .object fields start => .object (fillFields assigned fields) start
  | value => value

def fillItems (assigned : Assignment) : List Value → List Value
  | [] => []
  | item :: items => fill assigned item :: fillItems assigned items

/-- The fields of an object with constants in place of variables. -/
def fillFields (assigned : Assignment) : List (Name × Value) → List (Name × Value)
  | [] => []
  | (name, value) :: fields => (name, fill assigned value) :: fillFields assigned fields

end

mutual

/-- A value with strings in place of enums. -/
def quoted : Value → Value
  | .enum name start => .string name start
  | .list items start => .list (quotedItems items) start
  | .object fields start => .object (quotedFields fields) start
  | value => value

def quotedItems : List Value → List Value
  | [] => []
  | item :: items => quoted item :: quotedItems items

def quotedFields : List (Name × Value) → List (Name × Value)
  | [] => []
  | (name, value) :: fields => (name, quoted value) :: quotedFields fields

end

mutual

/-- Whether an enum stands somewhere in a value. -/
def hasEnum : Value → Bool
  | .enum _ _ => true
  | .list items _ => itemsHaveEnum items
  | .object fields _ => fieldsHaveEnum fields
  | _ => false

def itemsHaveEnum : List Value → Bool
  | [] => false
  | item :: items => hasEnum item || itemsHaveEnum items

def fieldsHaveEnum : List (Name × Value) → Bool
  | [] => false
  | (_, value) :: fields => hasEnum value || fieldsHaveEnum fields

end

/-- Whether digits are those of a number with a fraction or an exponent. -/
def isMarked (digits : String) : Bool :=
  digits.toList.any fun c => c == '.' || c == 'e' || c == 'E'

mutual

/-- Whether a value is a constant: it has no variables, and its numbers have a fraction or an exponent
just if they are floats. -/
def isConstant : Value → Bool
  | .variable _ _ => false
  | .int digits _ => !isMarked digits
  | .float digits _ => isMarked digits
  | .string _ _ | .boolean _ _ | .enum _ _ => true
  | .list items _ => itemsAreConstant items
  | .object fields _ => fieldsAreConstant fields

def itemsAreConstant : List Value → Bool
  | [] => true
  | item :: items => isConstant item && itemsAreConstant items

def fieldsAreConstant : List (Name × Value) → Bool
  | [] => true
  | (_, value) :: fields => isConstant value && fieldsAreConstant fields

end

mutual

/-- The JSON form of a constant: numbers keep their digits, an enum is the text of its name, and fields
keep their order. -/
def json : Value → Json
  | .variable _ _ => .null
  | .int digits _ | .float digits _ => .number digits
  | .string content _ => .text content
  | .boolean value _ => .bool value
  | .enum name _ => .text name
  | .list items _ => .list (jsonItems items)
  | .object fields _ => .object (jsonFields fields)

def jsonItems : List Value → List Json
  | [] => []
  | item :: items => json item :: jsonItems items

def jsonFields : List (Name × Value) → List (String × Json)
  | [] => []
  | (name, value) :: fields => (name.value, json value) :: jsonFields fields

end

end Value

/-- The constants of an assignment with strings in place of enums. -/
def Assignment.quoted (assigned : Assignment) : Assignment :=
  fun name => (assigned name).map Value.quoted

end GraphQL

namespace Literal

open GraphQL (Assignment Name Value)

mutual

/-- A literal with texts in place of enums. -/
def plain : Literal → Literal
  | .enum name => .text name
  | .list items => .list (plainItems items)
  | .object fields => .object (plainFields fields)
  | value => value

def plainItems : List Literal → List Literal
  | [] => []
  | item :: items => plain item :: plainItems items

def plainFields : List (String × Literal) → List (String × Literal)
  | [] => []
  | (name, value) :: fields => (name, plain value) :: plainFields fields

end

/-- What a value is read as, with texts in place of enums. -/
def plainly (reading : Except ValueError (Option Literal)) : Except ValueError (Option Literal) :=
  reading.map (Option.map plain)

/-- Whether variables have in an environment the literals of their JSON forms if constants are assigned
to them, and what they have in another environment if not. -/
structure Supplies (assigned : Assignment) (other env : Environment) : Prop where
  constants : ∀ name constant, assigned name = some constant → constant.isConstant = true ∧
    ∃ text literal, Json.IsText text constant.json ∧ ofJson text = .ok literal ∧
      env.lookup name = some literal
  others : ∀ name, assigned name = none → env.lookup name = other.lookup name

/-! ## Constants -/

section Constants

variable (env : Environment) {fault : Json.Fault}

theorem ofValue_int {digits : String} {start : Nat} {literal : Literal}
    (unmarked : Value.isMarked digits = false) (read : ofNumber digits = .ok literal) :
    ofValue env (.int digits start) = .ok (some literal) := by
  rw [Value.isMarked] at unmarked
  rw [ofNumber, unmarked] at read
  rw [ofValue]
  cases known : ofDigits? _ with
  | none =>
    rw [known] at read
    cases read
  | some value =>
    rw [known] at read
    cases read
    rfl

theorem ofValue_float {digits : String} {start : Nat} {literal : Literal}
    (marked : Value.isMarked digits = true) (read : ofNumber digits = .ok literal) :
    ofValue env (.float digits start) = .ok (some literal) := by
  rw [Value.isMarked] at marked
  rw [ofNumber, marked] at read
  rw [ofValue]
  cases known : Double.read _ with
  | error cause =>
    rw [known] at read
    cases read
  | ok value =>
    rw [known] at read
    cases read
    rfl

mutual

/-- A constant is read as its JSON form is, except that enums become texts. -/
theorem ofValue_quoted {value : Value} {literal : Literal} (constant : value.isConstant = true)
    (folded : value.json.fold (algebra fault) = .ok literal) :
    ofValue env value.quoted = .ok (some literal) := by
  match value with
  | .variable _ _ => cases constant
  | .int _ _ => exact ofValue_int _ ((Bool.not_eq_true' _).mp constant) folded
  | .float _ _ => exact ofValue_float _ constant folded
  | .string _ _ | .boolean _ _ | .enum _ _ =>
    cases folded
    rfl
  | .list _ _ =>
    obtain ⟨literals, foldedItems, same⟩ := bind_eq_ok.mp folded
    cases same
    rw [Value.quoted, ofValue, ofItems_quoted constant foldedItems]
    rfl
  | .object _ _ =>
    obtain ⟨literals, foldedFields, same⟩ := bind_eq_ok.mp folded
    cases same
    rw [Value.quoted, ofValue, ofFields_quoted constant foldedFields]
    rfl

theorem ofItems_quoted {items : List Value} {literals : List Literal}
    (constant : Value.itemsAreConstant items = true)
    (folded : Json.foldItems (algebra fault) (Value.jsonItems items) = .ok literals) :
    ofItems env (Value.quotedItems items) = .ok literals := by
  match items with
  | [] =>
    cases folded
    rfl
  | item :: items =>
    obtain ⟨first, rest⟩ := Bool.and_eq_true_iff.mp constant
    obtain ⟨literal, foldedFirst, more⟩ := bind_eq_ok.mp folded
    obtain ⟨others, foldedRest, same⟩ := bind_eq_ok.mp more
    cases same
    rw [Value.quotedItems, ofItems, ofValue_quoted first foldedFirst,
      ofItems_quoted rest foldedRest]
    rfl

theorem ofFields_quoted {fields : List (Name × Value)} {literals : List (String × Literal)}
    (constant : Value.fieldsAreConstant fields = true)
    (folded : Json.foldMembers (algebra fault) (Value.jsonFields fields) = .ok literals) :
    ofFields env (Value.quotedFields fields) = .ok literals := by
  match fields with
  | [] =>
    cases folded
    rfl
  | (name, value) :: fields =>
    obtain ⟨first, rest⟩ := Bool.and_eq_true_iff.mp constant
    obtain ⟨literal, foldedFirst, more⟩ := bind_eq_ok.mp folded
    obtain ⟨others, foldedRest, same⟩ := bind_eq_ok.mp more
    cases same
    rw [Value.quotedFields, ofFields, ofValue_quoted first foldedFirst,
      ofFields_quoted rest foldedRest]
    rfl

end

end Constants

/-! ## Variables -/

namespace Supplies

variable {assigned : Assignment} {other env : Environment}

theorem ofValue_variable (supplies : Supplies assigned other env) (name : Name)
    (start : Nat) :
    ofValue env (.variable name start) =
      ofValue other ((Value.variable name start).fill assigned.quoted) := by
  rw [Value.fill, Assignment.quoted, ofValue]
  cases given : assigned _ with
  | none =>
    rw [supplies.others _ given]
    rfl
  | some constant =>
    obtain ⟨isConstant, text, literal, isText, decoded, found⟩ :=
      supplies.constants _ _ given
    obtain ⟨json, isJson, folded⟩ := ofJson_eq_ok.mp decoded
    rw [isJson.unique isText] at folded
    rw [found]
    exact (ofValue_quoted _ isConstant folded).symm

mutual

/-- A value with variables is read as the value with the constants in their place, where enums among
the constants are strings. -/
theorem ofValue_fill (supplies : Supplies assigned other env) (value : Value) :
    ofValue env value = ofValue other (value.fill assigned.quoted) := by
  match value with
  | .variable name start => exact supplies.ofValue_variable name _
  | .int _ _ | .float _ _ | .string _ _ | .boolean _ _ | .enum _ _ => rfl
  | .list items _ => rw [Value.fill, ofValue, ofValue, ofItems_fill supplies _]
  | .object fields _ => rw [Value.fill, ofValue, ofValue, ofFields_fill supplies _]

theorem ofItems_fill (supplies : Supplies assigned other env) (items : List Value) :
    ofItems env items = ofItems other (Value.fillItems assigned.quoted items) := by
  match items with
  | [] => rfl
  | item :: items =>
    rw [Value.fillItems, ofItems, ofItems, ofValue_fill supplies item,
      ofItems_fill supplies _]

theorem ofFields_fill (supplies : Supplies assigned other env)
    (fields : List (Name × Value)) :
    ofFields env fields = ofFields other (Value.fillFields assigned.quoted fields) := by
  match fields with
  | [] => rfl
  | (name, value) :: fields =>
    rw [Value.fillFields, ofFields, ofFields, ofValue_fill supplies _,
      ofFields_fill supplies _]

end

end Supplies

/-! ## Enums -/

section Enums

variable (env : Environment)

theorem plainly_list (reading : Except ValueError (List Literal)) :
    plainly (reading.map fun items => some (.list items)) =
      (reading.map plainItems).map fun items => some (.list items) := by
  cases reading <;> rfl

theorem plainly_object (reading : Except ValueError (List (String × Literal))) :
    plainly (reading.map fun fields => some (.object fields)) =
      (reading.map plainFields).map fun fields => some (.object fields) := by
  cases reading <;> rfl

theorem ofItems_cons_plain (item : Value) (items : List Value) :
    (ofItems env (item :: items)).map plainItems = (do
      let first? ← plainly (ofValue env item)
      let others ← (ofItems env items).map plainItems
      return first?.getD .null :: others) := by
  rw [ofItems]
  cases ofValue _ item with
  | error _ => rfl
  | ok first? =>
    cases ofItems _ _ with
    | error _ => rfl
    | ok others =>
      change Except.ok ((first?.getD .null).plain :: plainItems _) = _
      cases first? <;> rfl

theorem ofFields_cons_plain (name : Name) (value : Value) (fields : List (Name × Value)) :
    (ofFields env ((name, value) :: fields)).map plainFields = (do
      let first? ← plainly (ofValue env value)
      let others ← (ofFields env fields).map plainFields
      match first? with
      | some first => return (name.value, first) :: others
      | none => return others) := by
  rw [ofFields]
  cases ofValue _ _ with
  | error _ => rfl
  | ok first? => cases ofFields _ _ <;> cases first? <;> rfl

mutual

/-- Whether an enum is written as a string cannot be told from what a value is read as, with texts in
place of enums. -/
theorem plainly_quoted (value : Value) :
    plainly (ofValue env value.quoted) = plainly (ofValue env value) := by
  match value with
  | .variable _ _ | .int _ _ | .float _ _ | .string _ _ | .boolean _ _ | .enum _ _ => rfl
  | .list items _ =>
    rw [Value.quoted, ofValue, ofValue, plainly_list, plainly_list, plain_quotedItems _]
  | .object fields _ =>
    rw [Value.quoted, ofValue, ofValue, plainly_object, plainly_object,
      plain_quotedFields _]

theorem plain_quotedItems (items : List Value) :
    (ofItems env (Value.quotedItems items)).map plainItems =
      (ofItems env items).map plainItems := by
  match items with
  | [] => rfl
  | item :: items =>
    rw [Value.quotedItems, ofItems_cons_plain, ofItems_cons_plain, plainly_quoted item,
      plain_quotedItems _]

theorem plain_quotedFields (fields : List (Name × Value)) :
    (ofFields env (Value.quotedFields fields)).map plainFields =
      (ofFields env fields).map plainFields := by
  match fields with
  | [] => rfl
  | (name, value) :: fields =>
    rw [Value.quotedFields, ofFields_cons_plain, ofFields_cons_plain, plainly_quoted _,
      plain_quotedFields _]

end

variable (assigned : Assignment)

mutual

theorem plainly_fill_quoted (value : Value) :
    plainly (ofValue env (value.fill assigned.quoted)) =
      plainly (ofValue env (value.fill assigned)) := by
  match value with
  | .variable name _ =>
    rw [Value.fill, Value.fill, Assignment.quoted]
    cases assigned _ with
    | none => rfl
    | some constant => exact plainly_quoted _ _
  | .int _ _ | .float _ _ | .string _ _ | .boolean _ _ | .enum _ _ => rfl
  | .list items _ =>
    rw [Value.fill, Value.fill, ofValue, ofValue, plainly_list, plainly_list,
      plain_fillItems_quoted _]
  | .object fields _ =>
    rw [Value.fill, Value.fill, ofValue, ofValue, plainly_object, plainly_object,
      plain_fillFields_quoted _]

theorem plain_fillItems_quoted (items : List Value) :
    (ofItems env (Value.fillItems assigned.quoted items)).map plainItems =
      (ofItems env (Value.fillItems assigned items)).map plainItems := by
  match items with
  | [] => rfl
  | item :: items =>
    rw [Value.fillItems, Value.fillItems, ofItems_cons_plain, ofItems_cons_plain,
      plainly_fill_quoted item, plain_fillItems_quoted _]

theorem plain_fillFields_quoted (fields : List (Name × Value)) :
    (ofFields env (Value.fillFields assigned.quoted fields)).map plainFields =
      (ofFields env (Value.fillFields assigned fields)).map plainFields := by
  match fields with
  | [] => rfl
  | (name, value) :: fields =>
    rw [Value.fillFields, Value.fillFields, ofFields_cons_plain, ofFields_cons_plain,
      plainly_fill_quoted _, plain_fillFields_quoted _]

end

end Enums

end Literal

/-! ## Values without enums -/

namespace GraphQL.Value

mutual

theorem quoted_eq_self {value : Value} (noEnum : value.hasEnum = false) : value.quoted = value := by
  match value with
  | .variable _ _ | .int _ _ | .float _ _ | .string _ _ | .boolean _ _ => rfl
  | .enum _ _ => cases noEnum
  | .list _ _ => rw [quoted, quotedItems_eq_self noEnum]
  | .object _ _ => rw [quoted, quotedFields_eq_self noEnum]

theorem quotedItems_eq_self {items : List Value} (noEnum : itemsHaveEnum items = false) :
    quotedItems items = items := by
  match items with
  | [] => rfl
  | item :: items =>
    obtain ⟨first, rest⟩ := Bool.or_eq_false_iff.mp noEnum
    rw [quotedItems, quoted_eq_self first, quotedItems_eq_self rest]

theorem quotedFields_eq_self {fields : List (Name × Value)} (noEnum : fieldsHaveEnum fields = false) :
    quotedFields fields = fields := by
  match fields with
  | [] => rfl
  | (name, value) :: fields =>
    obtain ⟨first, rest⟩ := Bool.or_eq_false_iff.mp noEnum
    rw [quotedFields, quoted_eq_self first, quotedFields_eq_self rest]

end

variable {assigned : Assignment}

mutual

theorem fill_quoted {value : Value} (noEnum : (value.fill assigned).hasEnum = false) :
    value.fill assigned.quoted = value.fill assigned := by
  match value with
  | .variable name _ =>
    rw [fill] at noEnum
    rw [fill, fill, Assignment.quoted]
    cases given : assigned _ with
    | none => rfl
    | some constant =>
      rw [given] at noEnum
      exact quoted_eq_self noEnum
  | .int _ _ | .float _ _ | .string _ _ | .boolean _ _ | .enum _ _ => rfl
  | .list _ _ => rw [fill, fill, fillItems_quoted noEnum]
  | .object _ _ => rw [fill, fill, fillFields_quoted noEnum]

theorem fillItems_quoted {items : List Value}
    (noEnum : itemsHaveEnum (fillItems assigned items) = false) :
    fillItems assigned.quoted items = fillItems assigned items := by
  match items with
  | [] => rfl
  | item :: items =>
    obtain ⟨first, rest⟩ := Bool.or_eq_false_iff.mp noEnum
    rw [fillItems, fillItems, fill_quoted first, fillItems_quoted rest]

theorem fillFields_quoted {fields : List (Name × Value)}
    (noEnum : fieldsHaveEnum (fillFields assigned fields) = false) :
    fillFields assigned.quoted fields = fillFields assigned fields := by
  match fields with
  | [] => rfl
  | (name, value) :: fields =>
    obtain ⟨first, rest⟩ := Bool.or_eq_false_iff.mp noEnum
    rw [fillFields, fillFields, fill_quoted first, fillFields_quoted rest]

end

end GraphQL.Value

/-! ## Arguments -/

namespace Literal

open GraphQL (Assignment Name Value)

namespace Supplies

variable {assigned : Assignment} {other env : Environment}

/-- A value with variables is read as the value with the constants in their place, with texts in place
of enums. -/
theorem plainly_fill (supplies : Supplies assigned other env) (value : Value) :
    plainly (ofValue env value) = plainly (ofValue other (value.fill assigned)) := by
  rw [supplies.ofValue_fill, plainly_fill_quoted]

end Supplies

/-! ## Variables without a value -/

section Unset

variable {env : Environment} {name : Name} (unset : env.lookup name.value = none)

include unset

theorem ofValue_unset (start : Nat) : ofValue env (.variable name start) = .ok none := by
  rw [ofValue, unset]

theorem ofItems_unset (before after : List Value) (start : Nat) :
    ofItems env (before ++ .variable name start :: after) = (do
      let first ← ofItems env before
      let others ← ofItems env after
      return first ++ .null :: others) := by
  induction before with
  | nil =>
    simp only [nil_append, ofItems, ofValue_unset unset]
    rfl
  | cons item before ih =>
    simp only [cons_append, ofItems, ih, bind_assoc, pure_bind]

theorem ofFields_unset (before after : List (Name × Value)) (field : Name) (start : Nat) :
    ofFields env (before ++ (field, .variable name start) :: after) =
      ofFields env (before ++ after) := by
  induction before with
  | nil =>
    simp only [nil_append, ofFields, ofValue_unset unset]
    cases ofFields _ _ <;> rfl
  | cons entry before ih => simp only [cons_append, ofFields, ih]

end Unset

end Literal

end SelectGraph
