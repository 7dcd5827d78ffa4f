import SelectGraph.Literal.Basic

/-!
# Schemas

The types a request may use. Field and argument types are built from named types by lists and
non-null marks. A name that is defined twice inside one type keeps its last definition.
-/

namespace SelectGraph

/-- A type as fields and arguments use it. -/
inductive TypeExpr where
  | named (name : String)
  | list (item : TypeExpr)
  | nonNull (item : TypeExpr)
  deriving DecidableEq

namespace TypeExpr

def print : TypeExpr → String
  | .named name => name
  | .list item => "[" ++ item.print ++ "]"
  | .nonNull item => item.print ++ "!"

/-- The named type inside all lists and non-null marks. -/
def base : TypeExpr → String
  | .named name => name
  | .list item => item.base
  | .nonNull item => item.base

/-- The type without an outer non-null mark. -/
def nullable : TypeExpr → TypeExpr
  | .nonNull item => item
  | other => other

def isNonNull : TypeExpr → Bool
  | .nonNull _ => true
  | _ => false

end TypeExpr

structure InputField where
  name : String
  type : TypeExpr
  default? : Option Literal := none

structure ObjectField where
  name : String
  arguments : List InputField
  type : TypeExpr
  deprecation? : Option String := none

inductive TypeShape where
  | scalar
  | enum (values : List String)
  | input (fields : List InputField)
  | object (fields : List ObjectField)

structure NamedType where
  name : String
  shape : TypeShape

/-- A schema. `types` holds every type that requests may name, and `defaults` the defaults of the
arguments of each field of each type. -/
structure Schema where
  queryType : String
  types : List NamedType
  defaults : List (String × String × List (String × Literal))

/-- Why a request does not fit the schema or the tables behind it. -/
structure ResolutionError where
  message : String
  deriving DecidableEq

/-- What a field leads to: the named type, and whether there is a list of it. -/
structure FieldType where
  type : String
  isList : Bool
  deriving DecidableEq, Inhabited

namespace Schema

def shape? (schema : Schema) (name : String) : Option TypeShape :=
  (schema.types.find? fun type => type.name == name).map NamedType.shape

def objectFields? (schema : Schema) (name : String) : Option (List ObjectField) :=
  match schema.shape? name with
  | some (.object fields) => some fields
  | _ => none

def isObject (schema : Schema) (name : String) : Bool :=
  (schema.objectFields? name).isSome

/-- What the type of a field leads to; lists of lists lead nowhere. -/
def leadsTo? (type : TypeExpr) : Option FieldType :=
  match type.nullable with
  | .named name => some ⟨name, false⟩
  | .list item =>
    match item.nullable with
    | .named name => some ⟨name, true⟩
    | _ => none
  | .nonNull _ => none

def fieldType (schema : Schema) (parent field : String) : Except ResolutionError FieldType :=
  match schema.objectFields? parent with
  | none => .error ⟨"unknown object type " ++ parent⟩
  | some fields =>
    match fields.find? fun decl => decl.name == field with
    | none => .error ⟨"unknown field " ++ field ++ " on type " ++ parent⟩
    | some decl =>
      match leadsTo? decl.type with
      | some found => .ok found
      | none => .error ⟨"field " ++ parent ++ "." ++ field ++
          " is a nested list, which is not supported"⟩

def argumentDefaults (schema : Schema) (parent field : String) : List (String × Literal) :=
  ((schema.defaults.find? fun entry => entry.1 == parent && entry.2.1 == field).map
    fun entry => entry.2.2).getD []

end Schema

end SelectGraph
