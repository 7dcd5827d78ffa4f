import SelectGraph.GraphQL.Document
import SelectGraph.Schema.Meta

/-!
# Types as a request sees them

The types that the parts of a request have: the fields that can be selected, the meta fields
included, and the types that references name. A reference to a list of an unknown type is a list
of nothing; nothing is the type with the empty name.
-/

namespace SelectGraph.Validation

open GraphQL (OperationKind TypeRef)

/-- The name of the type of an operation whose kind the schema does not serve. -/
def unserved : String := "<nil>"

def rootType (schema : Schema) : OperationKind → String
  | .query => schema.queryType
  | .mutation | .subscription => unserved

def isComposite (schema : Schema) (name : String) : Bool :=
  name == unserved || schema.isObject name

/-- Whether a type has neither fields nor items to select. -/
def isLeaf (schema : Schema) (name : String) : Bool :=
  match schema.shape? name with
  | some .scalar | some (.enum _) => true
  | _ => false

def isInput (schema : Schema) (name : String) : Bool :=
  match schema.shape? name with
  | some .scalar | some (.enum _) | some (.input _) => true
  | _ => false

/-- The field of an object type under a name, without the meta fields. -/
def ownField? (schema : Schema) (parent field : String) : Option ObjectField :=
  (schema.objectFields? parent).bind fun fields => fields.find? fun known => known.name == field

def field? (schema : Schema) (parent field : String) : Option ObjectField :=
  if field = "__schema" ∧ parent = schema.queryType then
    some { name := field, arguments := [], type := .nonNull (.named "__Schema") }
  else if field = "__type" ∧ parent = schema.queryType then
    some { name := field, type := .named "__Type",
           arguments := [{ name := "name", type := .nonNull (.named "String") }] }
  else if field = "__typename" ∧ isComposite schema parent then
    some { name := field, arguments := [], type := .nonNull (.named "String") }
  else ownField? schema parent field

def named? (schema : Schema) (name : String) : Option TypeExpr :=
  (schema.shape? name).map fun _ => .named name

def resolve? (schema : Schema) : TypeRef → Option TypeExpr
  | .missing => none
  | .named name => named? schema name.value
  | .list item _ => some (.list ((resolve? schema item).getD (.named "")))
  | .nonNull item _ => some (.nonNull ((resolve? schema item).getD (.named "")))

/-- The text of a type that may contain nothing. -/
def shown : TypeExpr → String
  | .named name => name
  | .list (.named "") | .nonNull (.named "") => ""
  | .list item => "[" ++ shown item ++ "]"
  | .nonNull item => shown item ++ "!"

def isSubtype : (sub super : TypeExpr) → Bool
  | .nonNull sub, .nonNull super => isSubtype sub super
  | _, .nonNull _ => false
  | .nonNull sub, super => isSubtype sub super
  | .list sub, .list super => isSubtype sub super
  | .named sub, .named super => sub == super
  | _, _ => false

/-- Whether results of two types cannot stand under one name. -/
def typesConflict (schema : Schema) : (left right : TypeExpr) → Bool
  | .list left, .list right => typesConflict schema left right
  | .nonNull left, .nonNull right => typesConflict schema left right
  | .named left, .named right => (isLeaf schema left || isLeaf schema right) && left != right
  | _, _ => true

end SelectGraph.Validation
