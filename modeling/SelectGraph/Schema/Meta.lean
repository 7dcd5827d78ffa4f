import SelectGraph.Schema.Basic

/-!
# Types that describe a schema

The types of the meta fields, which every schema has, the scalars a schema may use without
defining them, and the directives every request may use.
-/

namespace SelectGraph.Schema

def builtinScalars : List String := ["Int", "Float", "String", "Boolean", "ID"]

def listOf (name : String) : TypeExpr := .nonNull (.list (.nonNull (.named name)))

def maybeListOf (name : String) : TypeExpr := .list (.nonNull (.named name))

def plainField (name : String) (type : TypeExpr) : ObjectField := { name, arguments := [], type }

def deprecatableField (name : String) (type : TypeExpr) : ObjectField :=
  { name, type,
    arguments := [{ name := "includeDeprecated", type := .named "Boolean",
                    default? := some (.bool false) }] }

def kindNames : List String :=
  ["SCALAR", "OBJECT", "INTERFACE", "UNION", "ENUM", "INPUT_OBJECT", "LIST", "NON_NULL"]

def directiveLocations : List String :=
  ["QUERY", "MUTATION", "SUBSCRIPTION", "FIELD", "FRAGMENT_DEFINITION", "FRAGMENT_SPREAD",
    "INLINE_FRAGMENT", "SCHEMA", "SCALAR", "OBJECT", "FIELD_DEFINITION", "ARGUMENT_DEFINITION",
    "INTERFACE", "UNION", "ENUM", "ENUM_VALUE", "INPUT_OBJECT", "INPUT_FIELD_DEFINITION"]

/-- A truth value that says where a directive may stand, in a form that is no longer used. -/
def placeFlag (name : String) : ObjectField :=
  { name, arguments := [], type := .nonNull (.named "Boolean"),
    deprecation? := some "Use `locations`." }

def metaTypes : List NamedType :=
  let text : TypeExpr := .named "String"
  let someText : TypeExpr := .nonNull text
  let truth : TypeExpr := .nonNull (.named "Boolean")
  let type : TypeExpr := .named "__Type"
  [⟨"__Schema", .object
      [plainField "types" (listOf "__Type"), plainField "queryType" (.nonNull type),
        plainField "mutationType" type, plainField "subscriptionType" type,
        plainField "directives" (listOf "__Directive")]⟩,
    ⟨"__Type", .object
      [plainField "kind" (.nonNull (.named "__TypeKind")), plainField "name" text,
        plainField "description" text, deprecatableField "fields" (maybeListOf "__Field"),
        plainField "interfaces" (maybeListOf "__Type"),
        plainField "possibleTypes" (maybeListOf "__Type"),
        deprecatableField "enumValues" (maybeListOf "__EnumValue"),
        plainField "inputFields" (maybeListOf "__InputValue"), plainField "ofType" type]⟩,
    ⟨"__TypeKind", .enum kindNames⟩,
    ⟨"__Field", .object
      [plainField "name" someText, plainField "description" text,
        plainField "args" (listOf "__InputValue"), plainField "type" (.nonNull type),
        plainField "isDeprecated" truth, plainField "deprecationReason" text]⟩,
    ⟨"__InputValue", .object
      [plainField "name" someText, plainField "description" text,
        plainField "type" (.nonNull type), plainField "defaultValue" text]⟩,
    ⟨"__EnumValue", .object
      [plainField "name" someText, plainField "description" text,
        plainField "isDeprecated" truth, plainField "deprecationReason" text]⟩,
    ⟨"__Directive", .object
      [plainField "name" someText, plainField "description" text,
        plainField "locations" (listOf "__DirectiveLocation"),
        plainField "args" (listOf "__InputValue"),
        placeFlag "onOperation", placeFlag "onFragment", placeFlag "onField"]⟩,
    ⟨"__DirectiveLocation", .enum directiveLocations⟩,
    ⟨"String", .scalar⟩,
    ⟨"Boolean", .scalar⟩]

structure DirectiveType where
  name : String
  locations : List String
  arguments : List InputField

def directives : List DirectiveType :=
  let condition : InputField := { name := "if", type := .nonNull (.named "Boolean") }
  [⟨"include", ["FIELD", "FRAGMENT_SPREAD", "INLINE_FRAGMENT"], [condition]⟩,
    ⟨"skip", ["FIELD", "FRAGMENT_SPREAD", "INLINE_FRAGMENT"], [condition]⟩,
    ⟨"deprecated", ["FIELD_DEFINITION", "ENUM_VALUE"],
      [{ name := "reason", type := .named "String",
         default? := some (.text "No longer supported") }]⟩]

end SelectGraph.Schema
