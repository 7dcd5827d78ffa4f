import SelectGraph.Validation.Values

/-!
# Uses of variables and fragments

Where variables stand in an operation and which types are expected there, and the fragments an
operation reaches.
-/

namespace SelectGraph.Validation

open GraphQL (Argument Directive Document Fragment Name Operation Selection Value)

/-- A variable where a value is expected, and the type expected there if it is known. -/
structure Usage where
  name : String
  start : Nat
  type? : Option TypeExpr

def inputFieldType? (schema : Schema) (type? : Option TypeExpr) (field : String) :
    Option TypeExpr :=
  type?.bind fun type =>
    match schema.shape? type.base with
    | some (.input fields) =>
      (fields.find? fun known => known.name == field).map InputField.type
    | _ => none

mutual

def usagesInValue (schema : Schema) (type? : Option TypeExpr) : Value → List Usage
  | .variable name start => [⟨name.value, start, type?⟩]
  | .list items _ => usagesInItems schema (type?.bind itemType?) items
  | .object fields _ => usagesInFields schema type? fields
  | _ => []

def usagesInItems (schema : Schema) (type? : Option TypeExpr) : List Value → List Usage
  | [] => []
  | item :: items => usagesInValue schema type? item ++ usagesInItems schema type? items

def usagesInFields (schema : Schema) (type? : Option TypeExpr) : List (Name × Value) → List Usage
  | [] => []
  | (name, value) :: fields =>
    usagesInValue schema (inputFieldType? schema type? name.value) value ++
      usagesInFields schema type? fields

end

def argument? (expected : List InputField) (name : String) : Option InputField :=
  expected.find? fun field => field.name == name

def usagesInArguments (schema : Schema) (expected : List InputField)
    (args : List Argument) : List Usage :=
  args.flatMap fun arg =>
    usagesInValue schema ((argument? expected arg.name.value).map InputField.type) arg.value

def directive? (name : String) : Option Schema.DirectiveType :=
  Schema.directives.find? fun directive => directive.name == name

/-- The arguments a directive takes. Those of an unknown directive are taken for arguments of
the field around it. -/
def directiveArguments (enclosing? : Option ObjectField) (name : String) : List InputField :=
  match directive? name with
  | some directive => directive.arguments
  | none => (enclosing?.map ObjectField.arguments).getD []

def usagesInDirectives (schema : Schema) (enclosing? : Option ObjectField)
    (dirs : List Directive) : List Usage :=
  dirs.flatMap fun directive =>
    usagesInArguments schema (directiveArguments enclosing? directive.name.value) directive.arguments

/-- Where selections stand: the type they are made of, if it is known, and the field around
them. -/
structure Scope where
  type? : Option TypeExpr
  field? : Option ObjectField := none

namespace Scope

def parent? (schema : Schema) (scope : Scope) : Option String :=
  scope.type?.bind fun type => if isComposite schema type.base then some type.base else none

def select? (schema : Schema) (scope : Scope) (name : String) : Option ObjectField :=
  (scope.parent? schema).bind fun parent => Validation.field? schema parent name

def below (field? : Option ObjectField) : Scope :=
  ⟨field?.map ObjectField.type, field?⟩

def narrow (schema : Schema) (scope : Scope) (condition? : Option Name) : Scope :=
  match condition? with
  | none => scope
  | some condition => { scope with type? := named? schema condition.value }

end Scope

mutual

def usagesInSelection (schema : Schema) (scope : Scope) : Selection → List Usage
  | .field _ name args dirs sels _ _ =>
    let field? := scope.select? schema name.value
    usagesInArguments schema ((field?.map ObjectField.arguments).getD []) args ++
      usagesInDirectives schema field? dirs ++
      usagesInSelections schema (Scope.below field?) sels
  | .spread _ dirs _ => usagesInDirectives schema scope.field? dirs
  | .inline condition? dirs sels _ _ =>
    usagesInDirectives schema scope.field? dirs ++
      usagesInSelections schema (scope.narrow schema condition?) sels

def usagesInSelections (schema : Schema) (scope : Scope) : List Selection → List Usage
  | [] => []
  | sel :: sels =>
    usagesInSelection schema scope sel ++ usagesInSelections schema scope sels

end

mutual

def spreadsBelow : Selection → List String
  | .field _ _ _ _ sels _ _ => spreadsWithin sels ++ nestedSpreads sels
  | .inline _ _ sels _ _ => spreadsWithin sels ++ nestedSpreads sels
  | .spread _ _ _ => []

/-- The spreads inside the members of selections, from the last member to the first. -/
def nestedSpreads : List Selection → List String
  | [] => []
  | sel :: sels => nestedSpreads sels ++ spreadsBelow sel

def spreadsWithin : List Selection → List String
  | [] => []
  | .spread name _ _ :: sels => name.value :: spreadsWithin sels
  | _ :: sels => spreadsWithin sels

end

/-- The fragments that selections spread, outer ones first. -/
def spreadNames (sels : List Selection) : List String :=
  spreadsWithin sels ++ nestedSpreads sels

/-- Fragments found so far, the names met, and the selections still to be searched, latest
first. -/
structure Search where
  found : List Fragment
  met : List String
  pending : List (List Selection)

def Search.meet (doc : Document) (search : Search) (name : String) : Search :=
  if name ∈ search.met then search
  else
    match doc.fragment? name with
    | none => { search with met := name :: search.met }
    | some frag =>
      { found := search.found ++ [frag], met := name :: search.met,
        pending := frag.selections :: search.pending }

/-- Search until nothing is pending. The budget bounds how many selection sets are searched; each
one after the first belongs to another fragment. -/
def Search.run (doc : Document) : (budget : Nat) → Search → List Fragment
  | 0, search => search.found
  | budget + 1, search =>
    match search.pending with
    | [] => search.found
    | sels :: pending =>
      Search.run doc budget
        ((spreadNames sels).foldl (Search.meet doc) { search with pending })

def reachedFragments (doc : Document) (op : Operation) : List Fragment :=
  Search.run doc (doc.fragments.length + 1) ⟨[], [], [op.selections]⟩

/-- The variables an operation uses, those in fragments included. -/
def operationUsages (schema : Schema) (doc : Document) (op : Operation) : List Usage :=
  usagesInDirectives schema none op.directives ++
    usagesInSelections schema ⟨some (.named (rootType schema op.kind)), none⟩
      op.selections ++
    (reachedFragments doc op).flatMap fun frag =>
      usagesInDirectives schema none frag.directives ++
        usagesInSelections schema ⟨named? schema frag.condition.value, none⟩ frag.selections

end SelectGraph.Validation
