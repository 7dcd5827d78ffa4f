import SelectGraph.Yaml.Resolve

/-!
# Keys and merges

Keys of a mapping are distinct as they are written. A merge key adds the entries of other mappings
whose keys are not taken. What is taken are the keys as scalars: a key that is read as a text takes
the place of a text only, so one written as a number does not keep that text from being merged.
-/

namespace SelectGraph.Yaml

namespace Node

def target : Node → Node
  | .reference _ node => node.target
  | node => node

def sameKey : Node → Node → Bool
  | .scalar _ _ a, .scalar _ _ b => a == b
  | .sequence _, .sequence _ => true
  | .mapping _, .mapping _ => true
  | .reference a _, .reference b _ => a == b
  | .cycle a, .cycle b => a == b
  | _, _ => false

def distinctKeys : List (Node × Node) → Bool
  | [] => true
  | (key, _) :: rest => !(rest.any fun entry => sameKey key entry.1) && distinctKeys rest

def isMerge : Node → Bool
  | .scalar tag? plain text =>
    text == "<<" && match tag?.filter (· != "!") with
      | some tag => shortTag tag == "!!merge"
      | none => plain
  | _ => false

def isTextKey (node : Node) : Bool :=
  match node.target with
  | .scalar tag? plain text =>
    match tag?.filter (· != "!") with
    | some tag => shortTag tag == "!!str" || shortTag tag == "!!merge"
    | none => !plain || (meaning text).tag == "!!str"
  | _ => false

/-- The meaning of a scalar, directly or through an alias. -/
def asScalar (node : Node) : Except Fault Scalar :=
  match node.target with
  | .scalar tag? plain text => resolve tag? plain text
  | _ => .error .malformed

/-- Read a text; any scalar has its written text. -/
def asText? (node : Node) : Except Fault (Option String) :=
  match node.target with
  | .scalar tag? plain text => do
      match ← resolve tag? plain text with
      | .null => return none
      | .text found => return some found
      | _ => return some text
  | _ => .error .malformed

end Node

/-- How keys are read, and which scalar a key is when merges are made. A key without a value is passed
over. -/
structure Keys (κ : Type) where
  read : Node → Except Fault (Option κ)
  scalar : κ → Scalar

def Keys.texts : Keys String := ⟨Node.asText?, .text⟩

def Keys.scalars : Keys Scalar := ⟨fun node => node.asScalar.map some, id⟩

def deepest : Nat := 10000

namespace Keys

variable {κ : Type}

def own (keys : Keys κ) (entries : List (Node × Node)) : Except Fault (List (κ × Node)) := do
  if !Node.distinctKeys entries then throw .malformed
  let named ← (entries.filter fun entry => !entry.1.isMerge).mapM fun (key, value) => do
    return (← keys.read key).map fun found => (found, value)
  return named.filterMap id

def sources (entries : List (Node × Node)) : Except Fault (List (List (Node × Node))) :=
  match entries.find? fun entry => entry.1.isMerge with
  | none => .ok []
  | some (_, .mapping inner) | some (_, .reference _ (.mapping inner)) => .ok [inner]
  | some (_, .sequence items) => items.mapM fun
      | .mapping inner | .reference _ (.mapping inner) => .ok inner
      | _ => .error .malformed
  | some _ => .error .malformed

/-- Keep the entries whose keys are not taken; each takes its key. -/
def untaken (keys : Keys κ) (taken : List Scalar) : List (κ × Node) → List (κ × Node) × List Scalar
  | [] => ([], taken)
  | (key, value) :: entries =>
    if taken.contains (keys.scalar key) then keys.untaken taken entries
    else
      let (kept, taken) := keys.untaken (keys.scalar key :: taken) entries
      ((key, value) :: kept, taken)

/-- The entries that mappings add to one whose taken keys are given; the fuel bounds how deeply merges
nest. -/
def added (keys : Keys κ) : (fuel : Nat) → List Scalar → List (List (Node × Node)) →
    Except Fault (List (κ × Node) × List Scalar)
  | 0, _, _ => .error .malformed
  | fuel + 1, taken, mappings =>
    mappings.foldlM (fun (found, taken) entries => do
      let (kept, taken) := keys.untaken taken (← keys.own entries)
      let (more, taken) ← keys.added fuel taken (← sources entries)
      return (found ++ kept ++ more, taken)) ([], taken)

/-- The entries of a mapping: those written, and those that merges add. -/
def entries (keys : Keys κ) (mapping : List (Node × Node)) :
    Except Fault (List (κ × Node) × List (κ × Node)) := do
  let written ← keys.own mapping
  match ← sources mapping with
  | [] => return (written, [])
  | mappings =>
    let taken ← mapping.mapM fun (key, _) => key.asScalar
    let (more, _) ← keys.added deepest taken mappings
    return (written, more)

end Keys

end SelectGraph.Yaml
