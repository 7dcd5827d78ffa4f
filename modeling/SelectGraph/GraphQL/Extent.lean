import SelectGraph.GraphQL.Document

/-!
# What an operation reaches

The fragments an operation reaches through fields and other fragments, the number of fields it
writes and how deeply they nest. Every fragment is followed once, so cycles do no harm.
-/

namespace SelectGraph.GraphQL

mutual

def Selection.foldSpreads {σ : Type} (visit : String → σ → σ) : Selection → σ → σ
  | .field _ _ _ _ sels _ _, state => Selection.foldSpreadsAll visit sels state
  | .inline _ _ sels _ _, state => Selection.foldSpreadsAll visit sels state
  | .spread name _ _, state => visit name.value state

def Selection.foldSpreadsAll {σ : Type} (visit : String → σ → σ) : List Selection → σ → σ
  | [], state => state
  | sel :: sels, state =>
    Selection.foldSpreadsAll visit sels (Selection.foldSpreads visit sel state)

end

/-- Add a fragment name and, if it is defined, all it reaches. The budget bounds how deeply
fragments are followed; each step adds a new name. -/
def Document.follow (doc : Document) : (budget : Nat) → String → List String → List String
  | 0, _, seen => seen
  | budget + 1, name, seen =>
    if name ∈ seen then seen
    else
      match doc.fragment? name with
      | none => name :: seen
      | some frag =>
        Selection.foldSpreadsAll (doc.follow budget) frag.selections (name :: seen)

/-- The names of the fragments that selections reach, defined or not. -/
def Document.reachable (doc : Document) (sels : List Selection) : List String :=
  Selection.foldSpreadsAll (doc.follow (doc.fragments.length + 1)) sels []

/-- The size of an operation: fields written, deepest nesting, and the fragments counted. -/
structure Extent where
  fields : Nat
  depth : Nat
  seen : List String
  deriving DecidableEq

/-- Note that selections stand at a depth. -/
def Extent.reach (extent : Extent) (depth : Nat) : Extent :=
  { extent with depth := max extent.depth depth }

mutual

def Selection.addExtent (follow : String → Nat → Extent → Extent) (depth : Nat) :
    Selection → Extent → Extent
  | .field _ _ _ _ sels _ _, extent =>
    let counted := { extent with fields := extent.fields + 1 }
    if sels.isEmpty then counted
    else Selection.addExtents follow (depth + 1) sels (counted.reach (depth + 1))
  | .inline _ _ sels _ _, extent => Selection.addExtents follow depth sels extent
  | .spread name _ _, extent => follow name.value depth extent

def Selection.addExtents (follow : String → Nat → Extent → Extent) (depth : Nat) :
    List Selection → Extent → Extent
  | [], extent => extent
  | sel :: sels, extent =>
    Selection.addExtents follow depth sels (Selection.addExtent follow depth sel extent)

end

/-- Add a fragment that is spread at a depth, unless it has been counted. -/
def Document.addFragment (doc : Document) : (budget : Nat) → String → Nat → Extent → Extent
  | 0, _, _, extent => extent
  | budget + 1, name, depth, extent =>
    if name ∈ extent.seen then extent
    else
      match doc.fragment? name with
      | none => extent
      | some frag =>
        Selection.addExtents (doc.addFragment budget) depth frag.selections
          { extent with seen := name :: extent.seen }

def Document.extent (doc : Document) (op : Operation) : Extent :=
  Selection.addExtents (doc.addFragment doc.fragments.length) 1 op.selections
    ⟨0, 1, []⟩

end SelectGraph.GraphQL
