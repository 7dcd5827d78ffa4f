import SelectGraph.Validation.Usage

/-!
# Fields that cannot be merged

Two fields under one response name must give one result. The fields of a selection set are compared
with each other, with those of the fragments spread there, and those of the fragments with each
other. Two fragments are compared once in a request, and the fields of a selection set are collected
once: they keep the type in which the set was first met.
-/

namespace SelectGraph.Validation

open GraphQL (Argument Document Fragment Selection)

/-- A field as comparison sees it. -/
structure FieldUse where
  parent? : Option String
  name : String
  arguments : List Argument
  selections : List Selection
  start : Nat
  setStart : Nat
  type? : Option TypeExpr

/-- The fields of a selection set by response name, and the fragments spread in it. -/
structure Collected where
  fields : List (String × List FieldUse)
  spreads : List String

def addUse (responseName : String) (use : FieldUse) :
    List (String × List FieldUse) → List (String × List FieldUse)
  | [] => [(responseName, [use])]
  | (name, uses) :: fields =>
    if name = responseName then (name, uses ++ [use]) :: fields
    else (name, uses) :: addUse responseName use fields

mutual

def collectUse (schema : Schema) (parent? : Option String) :
    Selection → Collected → Collected
  | .field responseName? name arguments _ selections start setStart, collected =>
    let own? := parent?.bind fun parent => ownField? schema parent name.value
    let use : FieldUse :=
      { parent?, name := name.value, arguments, selections, start, setStart
        type? := own?.map ObjectField.type }
    { collected with fields := addUse (responseName?.getD name).value use collected.fields }
  | .spread name _ _, collected =>
    if name.value ∈ collected.spreads then collected
    else { collected with spreads := collected.spreads ++ [name.value] }
  | .inline condition? _ selections _ _, collected =>
    let inner := match condition? with
      | none => parent?
      | some condition => (named? schema condition.value).map TypeExpr.base
    collectUses schema inner selections collected

def collectUses (schema : Schema) (parent? : Option String) :
    List Selection → Collected → Collected
  | [], collected => collected
  | sel :: sels, collected =>
    collectUses schema parent? sels (collectUse schema parent? sel collected)

end

def Collected.ofSelections (schema : Schema) (parent? : Option String)
    (sels : List Selection) : Collected :=
  collectUses schema parent? sels ⟨[], []⟩

/-- Two fields that cannot be merged. -/
structure Conflict where
  responseName : String
  reason : Reason
  left : List Nat
  right : List Nat

/-- Whether two argument lists are the same: equally many, and each of the first has the value of the
first one of its name in the second. -/
def sameArguments (left right : List Argument) : Bool :=
  left.length == right.length && left.all fun arg =>
    match right.find? fun other => other.name.value == arg.name.value with
    | some other => arg.value.print == other.value.print
    | none => false

/-- Pairs of fragments that have been compared, latest first, and whether they were compared as
fields that never apply together. -/
abbrev Compared := List (String × String × Bool)

/-- Whether a pair needs no comparison. One made under fewer assumptions serves for both. -/
def Compared.covers (compared : Compared) (left right : String) (exclusive : Bool) : Bool :=
  match compared.find? fun entry => entry.1 == left && entry.2.1 == right with
  | some entry => exclusive || !entry.2.2
  | none => false

/-- What is remembered while a request is compared: the pairs of fragments, and what was collected
from the selection set at a position. -/
structure Progress where
  compared : Compared := []
  collected : List (Nat × Collected) := []

/-- A comparison, which remembers what it has seen. -/
abbrev Comparison := StateM Progress

/-- The fields and spreads of the selection set at a position. The type it stands in counts only when
the set is met for the first time. -/
def usesOf (schema : Schema) (parent? : Option String) (setStart : Nat)
    (sels : List Selection) : Comparison Collected := do
  match (← get).collected.lookup setStart with
  | some found => return found
  | none =>
    let found := Collected.ofSelections schema parent? sels
    modify fun progress => { progress with collected := (setStart, found) :: progress.collected }
    return found

def usesOfFragment (schema : Schema) (frag : Fragment) : Comparison Collected :=
  usesOf schema ((named? schema frag.condition.value).map TypeExpr.base) frag.setStart
    frag.selections

/-- What compares two fields under a response name; the flag says that they never apply
together. -/
abbrev Comparer := Bool → String → FieldUse → FieldUse → Comparison (Option Conflict)

def comparePairs (compare : Comparer) (exclusive : Bool) :
    List (String × FieldUse × FieldUse) → Comparison (List Conflict)
  | [] => return []
  | (name, left, right) :: pairs => do
      let found ← compare exclusive name left right
      let others ← comparePairs compare exclusive pairs
      return found.toList ++ others

def laterPairs (name : String) : List FieldUse → List (String × FieldUse × FieldUse)
  | [] => []
  | use :: uses => uses.map (fun other => (name, use, other)) ++ laterPairs name uses

def pairsWithin (collected : Collected) : List (String × FieldUse × FieldUse) :=
  collected.fields.flatMap fun (name, uses) => laterPairs name uses

def pairsBetween (left right : Collected) : List (String × FieldUse × FieldUse) :=
  left.fields.flatMap fun (name, uses) =>
    match right.fields.lookup name with
    | some others => uses.flatMap fun use => others.map fun other => (name, use, other)
    | none => []

/-- Compare fields with a fragment, and the fragment with those spread in it. The budget bounds how
deeply fragments are followed. -/
def compareWithFragment (schema : Schema) (doc : Document) (compare : Comparer)
    (exclusive : Bool) : (budget : Nat) → Collected → String → Comparison (List Conflict)
  | 0, _, _ => return []
  | budget + 1, collected, name =>
    match doc.fragment? name with
    | none => return []
    | some frag => do
        let inner ← usesOfFragment schema frag
        let found ← comparePairs compare exclusive (pairsBetween collected inner)
        let others ← inner.spreads.mapM
          (compareWithFragment schema doc compare exclusive budget inner)
        return found ++ others.flatten

def compareFragments (schema : Schema) (doc : Document) (compare : Comparer)
    (exclusive : Bool) : (budget : Nat) → String → String → Comparison (List Conflict)
  | 0, _, _ => return []
  | budget + 1, left, right => do
      match doc.fragment? left, doc.fragment? right with
      | some first, some second =>
        if left = right || (← get).compared.covers left right exclusive then return []
        modify fun progress => { progress with
          compared := (left, right, exclusive) :: (right, left, exclusive) :: progress.compared }
        let firstUses ← usesOfFragment schema first
        let secondUses ← usesOfFragment schema second
        let found ← comparePairs compare exclusive (pairsBetween firstUses secondUses)
        let inSecond ← secondUses.spreads.mapM
          (compareFragments schema doc compare exclusive budget left)
        let inFirst ← firstUses.spreads.mapM fun inner =>
          compareFragments schema doc compare exclusive budget inner right
        return found ++ inSecond.flatten ++ inFirst.flatten
      | _, _ => return []

def fragmentBudget (doc : Document) : Nat :=
  2 * doc.fragments.length + 1

def compareSubfields (schema : Schema) (doc : Document) (compare : Comparer)
    (exclusive : Bool) (left right : FieldUse) : Comparison (List Conflict) := do
  let uses (use : FieldUse) : Comparison Collected :=
    usesOf schema (use.type?.map TypeExpr.base) use.setStart use.selections
  let first ← uses left
  let second ← uses right
  let budget := fragmentBudget doc
  let found ← comparePairs compare exclusive (pairsBetween first second)
  let firstInSecond ← second.spreads.mapM
    (compareWithFragment schema doc compare exclusive budget first)
  let secondInFirst ← first.spreads.mapM
    (compareWithFragment schema doc compare exclusive budget second)
  let across ← first.spreads.mapM fun leftName => second.spreads.mapM fun rightName =>
    compareFragments schema doc compare exclusive budget leftName rightName
  return found ++ firstInSecond.flatten ++ secondInFirst.flatten ++ across.flatten.flatten

/-- Whether two uses never apply together, for they belong to different object types. -/
def areExclusive (schema : Schema) (left right : FieldUse) : Bool :=
  match left.parent?, right.parent? with
  | some first, some second => first != second && isComposite schema first && isComposite schema second
  | _, _ => false

def subfieldConflict? (responseName : String) (left right : FieldUse) (conflicts : List Conflict) :
    Option Conflict :=
  if conflicts.isEmpty then none
  else some
    { responseName
      reason := .subfields (conflicts.map fun conflict => (conflict.responseName, conflict.reason))
      left := left.start :: conflicts.flatMap Conflict.left
      right := right.start :: conflicts.flatMap Conflict.right }

/-- Compare two fields under a response name. The budget bounds how deeply subfields nest. -/
def compareFields (schema : Schema) (doc : Document) : (budget : Nat) → Comparer
  | 0, _, _, _, _ => return none
  | budget + 1, exclusiveParents, responseName, left, right => do
      let exclusive := exclusiveParents || areExclusive schema left right
      let conflict (reason : Reason) : Conflict :=
        { responseName, reason, left := [left.start], right := [right.start] }
      if !exclusive && left.name != right.name then
        return some (conflict (.fields left.name right.name))
      if !exclusive && !sameArguments left.arguments right.arguments then
        return some (conflict .arguments)
      match left.type?, right.type? with
      | some leftType, some rightType =>
        if typesConflict schema leftType rightType then
          return some (conflict (.types (shown leftType) (shown rightType)))
      | _, _ => pure ()
      if left.selections.isEmpty || right.selections.isEmpty then return none
      let conflicts ← compareSubfields schema doc (compareFields schema doc budget)
        exclusive left right
      return subfieldConflict? responseName left right conflicts

/-- Compare the fields of the selection set at a position, which stands in a type. -/
def conflictsIn (schema : Schema) (doc : Document) (parent? : Option String) (setStart : Nat)
    (sels : List Selection) : Comparison (List Conflict) := do
  let compare := compareFields schema doc (doc.selectionCount + 1)
  let collected ← usesOf schema parent? setStart sels
  let budget := fragmentBudget doc
  let found ← comparePairs compare false (pairsWithin collected)
  let rec spreads : List String → Comparison (List Conflict)
    | [] => return []
    | name :: names => do
        let withFields ← compareWithFragment schema doc compare false budget collected name
        let withOthers ← names.mapM (compareFragments schema doc compare false budget name)
        let others ← spreads names
        return withFields ++ withOthers.flatten ++ others
  return found ++ (← spreads collected.spreads)

def Conflict.fault (conflict : Conflict) : Fault :=
  ⟨.conflict conflict.responseName conflict.reason, conflict.left ++ conflict.right⟩

end SelectGraph.Validation
