import SelectGraph.Number.Double
import SelectGraph.Yaml.Token

/-!
# YAML documents

The tree of the first document of a text. An alias knows the node its anchor marks, unless it stands
inside that node.
-/

namespace SelectGraph.Yaml

/-- A node of a document. A scalar knows whether it was written plainly and which tag it was given,
if any. A `reference` is an alias with the node it stands for, a `cycle` one inside that node. -/
inductive Node where
  | scalar (tag? : Option String) (plain : Bool) (text : String)
  | sequence (items : List Node)
  | mapping (entries : List (Node × Node))
  | reference (anchor : String) (target : Node)
  | cycle (anchor : String)

def Node.empty : Node := .scalar none true ""

/-- The state of composing: the tokens left, the anchors seen and the tag handles declared. An anchor
without a node marks a node that is still open. -/
structure Compose where
  tokens : List Token
  anchors : List (String × Option Node)
  handles : List (String × String)

/-- A composer of a part of a document. -/
abbrev Composer := StateT Compose (Except Fault)

namespace Composer

/-- The token at hand. Scanning is two tokens ahead, so a fault among those is met here. -/
def peek : Composer Token := do
  let tokens := (← get).tokens
  if .fault ∈ tokens.take 3 then throw .malformed
  return tokens.head?.getD .streamEnd

def advance : Composer Unit :=
  modify fun state => { state with tokens := state.tokens.tail }

def skip (token : Token) : Composer Bool := do
  if (← peek) = token then
    advance
    return true
  else return false

def bind (name : String) (node? : Option Node) : Composer Unit :=
  modify fun state => { state with anchors := (name, node?) :: state.anchors }

def resolveTag (handle suffix : String) : Composer String := do
  if handle = "" then return suffix
  match (← get).handles.lookup handle with
  | some start => return start ++ suffix
  | none =>
    if handle = "!" then return "!" ++ suffix
    else if handle = "!!" then return "tag:yaml.org,2002:" ++ suffix
    else throw .malformed

/-- Read an anchor and a tag in either order. -/
def properties : Composer (Option String × Option String) := do
  let takeAnchor : Composer (Option String) := do
    match ← peek with
    | .anchor name => advance; return some name
    | _ => return none
  let takeTag : Composer (Option String) := do
    match ← peek with
    | .tag handle suffix => advance; return some (← resolveTag handle suffix)
    | _ => return none
  let anchor? ← takeAnchor
  let tag? ← takeTag
  let anchor? ← if anchor?.isNone then takeAnchor else pure anchor?
  return (anchor?, tag?)

def endsMappingPart : Token → Bool
  | .key | .value | .blockEnd => true
  | _ => false

mutual

/-- Read a node. `block` allows block collections, `indentless` a sequence as deep as the mapping
that holds it. -/
def node (block indentless : Bool) : (count : Nat) → Composer Node
  | 0 => throw .malformed
  | count + 1 => do
      match ← peek with
      | .aliasName name =>
        advance
        match (← get).anchors.lookup name with
        | some (some found) => return .reference name found
        | some none => return .cycle name
        | none => throw .malformed
      | _ =>
        let (anchor?, tag?) ← properties
        if let some name := anchor? then bind name none
        let found ← content block indentless tag? anchor?.isSome count
        if let some name := anchor? then bind name (some found)
        return found

def content (block indentless : Bool) (tag? : Option String) (anchored : Bool) :
    (count : Nat) → Composer Node
  | 0 => throw .malformed
  | count + 1 => do
      match ← peek with
      | .scalar text plain =>
        advance
        return .scalar tag? plain text
      | .flowSequence =>
        advance
        return .sequence (← flowItems true count)
      | .flowMapping =>
        advance
        return .mapping (← flowEntries true count)
      | .blockSequence =>
        if block then
          advance
          return .sequence (← blockItems count)
        else throw .malformed
      | .blockMapping =>
        if block then
          advance
          return .mapping (← blockEntries count)
        else throw .malformed
      | .blockEntry =>
        if indentless then return .sequence (← indentlessItems count)
        else if tag?.isSome || anchored then return .scalar tag? true ""
        else throw .malformed
      | _ =>
        if tag?.isSome || anchored then return .scalar tag? true ""
        else throw .malformed

def blockItems : (count : Nat) → Composer (List Node)
  | 0 => throw .malformed
  | count + 1 => do
      if ← skip .blockEntry then
        let item ← match ← peek with
          | .blockEntry | .blockEnd => pure Node.empty
          | _ => node true false count
        let items ← blockItems count
        return item :: items
      else if ← skip .blockEnd then return []
      else throw .malformed

/-- Read the entries of a sequence that is as deep as its mapping. -/
def indentlessItems : (count : Nat) → Composer (List Node)
  | 0 => throw .malformed
  | count + 1 => do
      if ← skip .blockEntry then
        let item ← match ← peek with
          | .blockEntry | .key | .value | .blockEnd => pure Node.empty
          | _ => node true false count
        let items ← indentlessItems count
        return item :: items
      else return []

def blockEntries : (count : Nat) → Composer (List (Node × Node))
  | 0 => throw .malformed
  | count + 1 => do
      if ← skip .key then
        let key ← if endsMappingPart (← peek) then pure Node.empty else node true true count
        let value ←
          if ← skip .value then do
            if endsMappingPart (← peek) then pure Node.empty else node true true count
          else pure Node.empty
        let entries ← blockEntries count
        return (key, value) :: entries
      else if ← skip .blockEnd then return []
      else throw .malformed

/-- Read the items of a flow sequence; an item may be a single pair. -/
def flowItems (first : Bool) : (count : Nat) → Composer (List Node)
  | 0 => throw .malformed
  | count + 1 => do
      if ← skip .flowSequenceEnd then return []
      if !first then
        if !(← skip .flowEntry) then throw .malformed
      if ← skip .flowSequenceEnd then return []
      let item ←
        if ← skip .key then do
          let key ← match ← peek with
            | .value | .flowEntry | .flowSequenceEnd => pure Node.empty
            | _ => node false false count
          let value ← flowValue .flowSequenceEnd count
          pure (Node.mapping [(key, value)])
        else node false false count
      let items ← flowItems false count
      return item :: items

/-- Read the value of a pair of a flow collection that ends with a token. -/
def flowValue (close : Token) : (count : Nat) → Composer Node
  | 0 => throw .malformed
  | count + 1 => do
      if ← skip .value then
        let next ← peek
        if next = .flowEntry ∨ next = close then return Node.empty
        else node false false count
      else return Node.empty

/-- Read the entries of a flow mapping; a key may stand without a value. -/
def flowEntries (first : Bool) : (count : Nat) → Composer (List (Node × Node))
  | 0 => throw .malformed
  | count + 1 => do
      if ← skip .flowMappingEnd then return []
      if !first then
        if !(← skip .flowEntry) then throw .malformed
      if ← skip .flowMappingEnd then return []
      let entry ←
        if ← skip .key then do
          let key ← match ← peek with
            | .value | .flowEntry | .flowMappingEnd => pure Node.empty
            | _ => node false false count
          let value ← flowValue .flowMappingEnd count
          pure (key, value)
        else do
          let key ← node false false count
          pure (key, Node.empty)
      let entries ← flowEntries false count
      return entry :: entries

end

/-- Read the directives before a document, of which `met` says that the version was declared. There
is one version, and no handle is declared twice; the flag says whether there were any. -/
def directives (met : Bool) : (count : Nat) → Composer Bool
  | 0 => return false
  | count + 1 => do
      match ← peek with
      | .version major minor =>
        if met || major != 1 || minor != 1 then throw .malformed
        advance
        let _ ← directives true count
        return true
      | .tagHandle handle start =>
        if ((← get).handles.lookup handle).isSome then throw .malformed
        advance
        modify fun state => { state with handles := (handle, start) :: state.handles }
        let _ ← directives met count
        return true
      | _ => return false

/-- Read the first document up to the token after it; `none` when the text holds none. -/
def document (count : Nat) : Composer (Option Node) := do
  let found? ← body
  let _ ← peek
  return found?
where
  /-- Read the directives and the content of a document. -/
  body : Composer (Option Node) := do
    let declared ← directives false count
    if ← skip .documentStart then
      match ← peek with
      | .version _ _ | .tagHandle _ _ | .documentStart | .documentEnd | .streamEnd => return some Node.empty
      | _ => return some (← node true false count)
    else if declared then throw .malformed
    else
      match ← peek with
      | .streamEnd => return none
      | _ => return some (← node true false count)

end Composer

/-- The first document of a text; `none` when there is none. -/
def parse (text : String) : Except Fault (Option Node) :=
  let found := tokens text
  ((Composer.document (2 * found.length + 2)).run ⟨found, [], []⟩).map (·.1)

end SelectGraph.Yaml
